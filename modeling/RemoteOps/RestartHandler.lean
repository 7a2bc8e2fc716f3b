/-
The handler of restarts: it runs a command that brings the device down.

If the command comes back at all, its end decides what is reported; a
device that really goes down is settled at the next startup instead.

How the command ends is given, as programs are no part of the handler.

* `RestartHandler.execute_ne_unsupported_iff`: just the restarts are
  executed;
* `RestartHandler.ofCommandLine?_eq_none_iff`: only a blank line names
  no program.
-/
import RemoteOps.Command.Exit
import RemoteOps.Handler
import RemoteOps.Text.Blank
import RemoteOps.Text.Quoted

namespace RemoteOps

/-- A command for restarts. -/
structure RestartHandler where
  program : String
  args : List String
deriving DecidableEq, Repr

namespace RestartHandler

/-- The name of the handler. -/
def name : String := "restart"

/-- The kinds that it executes. -/
def kinds : List String := [Kind.restart]

/-- The command of a line: a program and its arguments, with white space
between them. -/
def ofCommandLine? (line : String) : Option RestartHandler :=
  match Blank.words line with
  | program :: args => some ⟨program, args⟩
  | [] => none

/-- The handler among the components of the agent. -/
def handler (uid : Nat) : Handler := { uid, name, kinds }

/-- The text of the handler. -/
def render (h : RestartHandler) : String :=
  "RestartHandler " ++ String.singleton (Char.ofNat 0x7b) ++ " program: "
    ++ Quoted.quote h.program ++ ", args: " ++ Quoted.quoteList h.args
    ++ " " ++ String.singleton (Char.ofNat 0x7d)

/-- What the end of the command means; without an end it could not be
run. -/
def outcome (h : RestartHandler) : Option Exit → Outcome
  | some e =>
    if e.success then .returned .successful
    else
      .erred (.failed ("restart command " ++ h.program ++ " exited with "
        ++ e.render))
  | none => .erred (.internal ("failed to run " ++ h.program))

/-- Executes an operation with a command that ends so. -/
def execute (h : RestartHandler) (e : Option Exit) :
    TypedOperation → Outcome
  | .restart _ => h.outcome e
  | t => .erred (.unsupported t.kind)

/-- No end of the command means that a restart is not supported. -/
theorem outcome_ne_unsupported (h : RestartHandler) (e : Option Exit)
    (kind : String) : h.outcome e ≠ .erred (.unsupported kind) := by
  cases e with
  | none => exact fun h => by cases h
  | some e =>
    rw [outcome]
    split <;> simp

/-- However the command ends, just a restart is not refused. -/
theorem execute_ne_unsupported_iff (h : RestartHandler) (e : Option Exit)
    {t : TypedOperation} :
    (∀ kind, h.execute e t ≠ .erred (.unsupported kind)) ↔
      ∃ header, t = .restart header := by
  constructor
  · intro ht
    cases t with
    | restart header => exact ⟨header, rfl⟩
    | softwareUpdate _ _ => exact absurd rfl (ht _)
    | custom _ _ _ => exact absurd rfl (ht _)
  · rintro ⟨header, rfl⟩
    exact h.outcome_ne_unsupported e

theorem ofCommandLine?_eq_none_iff {line : String} :
    ofCommandLine? line = none ↔ Blank.words line = [] := by
  unfold ofCommandLine?
  split <;> simp_all

end RestartHandler

end RemoteOps
