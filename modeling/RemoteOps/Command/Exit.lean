/-
How a command ends, with an exit status or by a signal, and the signals.

A signal has a number and, up to the real-time ones, a name of its own.
Commands that send signals know the real-time ones too, by their
distance from the lowest or from the highest.
-/

namespace RemoteOps

/-- How a command ends. -/
inductive Exit where
  | status (code : Nat)
  | signal (number : Nat)
deriving DecidableEq, Repr, Inhabited

namespace Exit

/-! ### Signals -/

/-- The names of the signals, from number one on. -/
def signalNames : List String :=
  ["HUP", "INT", "QUIT", "ILL", "TRAP", "ABRT", "BUS", "FPE", "KILL",
    "USR1", "SEGV", "USR2", "PIPE", "ALRM", "TERM", "STKFLT", "CHLD",
    "CONT", "STOP", "TSTP", "TTIN", "TTOU", "URG", "XCPU", "XFSZ",
    "VTALRM", "PROF", "WINCH", "IO", "PWR", "SYS"]

/-- The largest number of a signal. -/
def maxSignal : Nat := 64

/-- The lowest real-time signal. -/
def minRealTime : Nat := 34

/-- The number of the signal that asks a command to end. -/
def terminate : Nat := 15

/-- The number of the signal that tells that a child has ended. -/
def childEnded : Nat := 17

/-- The name of a signal, if it has one. -/
def signalName? (number : Nat) : Option String :=
  if number = 0 then none else signalNames[number - 1]?

/-- The word for a signal where signals are sent: its name, a distance
from one of the ends of the real-time signals, or else its number.  The
signal of the coprocessor goes by its number only. -/
def sendingName (number : Nat) : String :=
  if number = 0 then "EXIT"
  else if number = 16 then "16"
  else
    match signalName? number with
    | some name => name
    | none =>
      if number < minRealTime then toString number
      else if number = minRealTime then "RTMIN"
      else if number < 50 then
        "RTMIN+" ++ toString (number - minRealTime)
      else if number < maxSignal then
        "RTMAX-" ++ toString (maxSignal - number)
      else "RTMAX"

/-- The number of the signal that is sent under a name, in letters of
either case, not below the least one. -/
def signalOfName? (least : Nat) (name : String) : Option Nat :=
  let name := name.map Char.toUpper
  (List.range (maxSignal + 1)).find? fun n =>
    least ≤ n && sendingName n = name

/-- Signals that every command ignores: they are kept for the threads of
a process. -/
def reserved : List Nat := [32, 33]

/-- Whether a signal ends a command that does nothing about it. -/
def isFatal (number : Nat) : Bool :=
  match signalName? number with
  | some name =>
    !(["CHLD", "CONT", "STOP", "TSTP", "TTIN", "TTOU", "URG",
      "WINCH"].contains name)
  | none => number ≠ 0

/-- Whether a command can do something about a signal. -/
def canBeHandled (number : Nat) : Bool :=
  signalName? number ≠ some "KILL" && signalName? number ≠ some "STOP"

/-! ### Ends -/

/-- Whether a command succeeded. -/
def success (e : Exit) : Bool := e = status 0

/-- The text of an end. -/
def render : Exit → String
  | status code => "exit status: " ++ toString code
  | signal number =>
    "signal: " ++ toString number ++
      (match signalName? number with
        | some name => " (SIG" ++ name ++ ")"
        | none => "")

/-- The status under which a shell knows the end of a command. -/
def shellStatus : Exit → Nat
  | status code => code
  | signal number => 128 + number

end Exit

end RemoteOps
