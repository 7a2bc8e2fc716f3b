/-
The settings of the operation service, and how they are read from a
source of raw values by path.

Every key is required and must be a positive integer; the settings of a
service that is made without a source are only checked when it starts.

* `Config.readSigned?_ofDigits`: digits are read as their value, with
  any sign or none;
* `Config.validate_ofSource`: what is read from a source is valid.
-/
import RemoteOps.Span
import RemoteOps.Text.Blank

namespace RemoteOps

/-- The settings, in the order in which they are checked. -/
inductive Setting where
  /-- The wait between polls, in seconds. -/
  | interval
  /-- The size of a page of a query. -/
  | resultSize
  /-- The bound on stopping the worker, in milliseconds. -/
  | shutdownTimeout
  /-- The bound on stopping all handlers, in milliseconds. -/
  | handlersShutdownTimeout
deriving DecidableEq, Repr

/-- The path of a setting. -/
def Setting.key : Setting → String
  | interval => "agent.operations.interval"
  | resultSize => "agent.operations.result_size"
  | shutdownTimeout => "agent.operations.shutdown_timeout"
  | handlersShutdownTimeout => "agent.operations.handlers_shutdown_timeout"

/-- Why settings are refused. -/
inductive ConfigError where
  | missing (setting : Setting)
  | notPositive (setting : Setting) (value : String)
  | invalid (setting : Setting) (value : String)
deriving DecidableEq, Repr

/-- The text of an error. -/
def ConfigError.message : ConfigError → String
  | missing s => "missing required configuration key " ++ s.key
  | notPositive s value =>
    "configuration key " ++ s.key ++ " must be positive, got " ++ value
  | invalid s value =>
    "configuration key " ++ s.key ++ " is not an integer: " ++ value

/-- The settings of the operation service. -/
structure Config where
  /-- The wait between polls when nothing is pending. -/
  pollInterval : Span := .ofSeconds 30
  /-- The size of a page of a query during reconciliation. -/
  pageSize : Nat := 100
  /-- The bound on waiting for the worker's loop to exit. -/
  shutdownTimeout : Span := .ofMillis 10000
  /-- The bound on stopping all handlers in parallel. -/
  handlersShutdownTimeout : Span := .ofMillis 10000
deriving DecidableEq, Repr

namespace Config

/-! ### Integers -/

/-- Whether a character is a decimal digit. -/
def isDigit (c : Char) : Bool := '0' ≤ c && c ≤ '9'

/-- The value of decimal digits. -/
def digitsValue (cs : List Char) : Nat :=
  cs.foldl (fun n c => n * 10 + (c.toNat - 48)) 0

/-- A number of one digit or more. -/
def readNat? (cs : List Char) : Option Nat :=
  if cs.isEmpty || !cs.all isDigit then none else some (digitsValue cs)

/-- A number of one digit or more with an optional sign. -/
def readSigned? : List Char → Option Int
  | [] => none
  | c :: cs =>
    if c = '+' then (readNat? cs).map Int.ofNat
    else if c = '-' then (readNat? cs).map fun n => -Int.ofNat n
    else (readNat? (c :: cs)).map Int.ofNat

/-- Whether an integer fits into 64 bits with a sign. -/
def fits64 (z : Int) : Bool :=
  -0x8000000000000000 ≤ z && z < 0x8000000000000000

/-- A number with an optional sign that fits into 64 bits. -/
def readInt? (s : String) : Option Int :=
  (readSigned? s.toList).filter fits64

/-! ### Reading and checking -/

/-- Reads a setting that must be there and positive.  White space around
the number does not matter. -/
def requirePositive (source : String → Option String) (s : Setting) :
    Except ConfigError Nat :=
  match source s.key with
  | none => .error (.missing s)
  | some raw =>
    match readInt? (Blank.trim raw) with
    | none => .error (.invalid s raw)
    | some z =>
      if z ≤ 0 then .error (.notPositive s raw) else .ok z.toNat

/-- Reads all settings.  That the page size fits into 32 bits is checked
last. -/
def ofSource (source : String → Option String) :
    Except ConfigError Config := do
  let interval ← requirePositive source .interval
  let resultSize ← requirePositive source .resultSize
  let shutdown ← requirePositive source .shutdownTimeout
  let handlers ← requirePositive source .handlersShutdownTimeout
  if 0x100000000 ≤ resultSize then
    throw (.invalid .resultSize (toString resultSize))
  return ⟨.ofSeconds interval, resultSize, .ofMillis shutdown,
    .ofMillis handlers⟩

/-- The first setting that is zero. -/
def firstZero? (c : Config) : Option Setting :=
  if c.pollInterval.isZero then some .interval
  else if c.pageSize = 0 then some .resultSize
  else if c.shutdownTimeout.isZero then some .shutdownTimeout
  else if c.handlersShutdownTimeout.isZero then
    some .handlersShutdownTimeout
  else none

/-- Checks that every setting is positive. -/
def validate (c : Config) : Except ConfigError Unit :=
  match c.firstZero? with
  | some s => .error (.notPositive s "0")
  | none => .ok ()

/-! ### What is read is valid -/

theorem readSigned?_ofDigits {cs : List Char} (h : cs ≠ [])
    (hd : ∀ c ∈ cs, isDigit c = true) :
    readSigned? cs = some (digitsValue cs : Int)
      ∧ readSigned? ('+' :: cs) = some (digitsValue cs : Int)
      ∧ readSigned? ('-' :: cs) = some (-(digitsValue cs : Int)) := by
  have hn : readNat? cs = some (digitsValue cs) := by
    simp [readNat?, h, List.all_eq_true.2 hd]
  refine ⟨?_, by simp [readSigned?, hn], by simp [readSigned?, hn]⟩
  cases cs with
  | nil => contradiction
  | cons c cs =>
    have hc : isDigit c = true := hd c (by simp)
    have hp : c ≠ '+' := by rintro rfl; simp [isDigit] at hc
    have hm : c ≠ '-' := by rintro rfl; simp [isDigit] at hc
    simp [readSigned?, hn, hp, hm]

theorem pos_of_requirePositive {source : String → Option String}
    {s : Setting} {n : Nat} (h : requirePositive source s = .ok n) :
    0 < n := by
  unfold requirePositive at h
  split at h
  · cases h
  · split at h
    · cases h
    · split at h
      · cases h
      · cases h; omega

theorem validate_eq_ok_iff {c : Config} :
    c.validate = .ok () ↔ c.pollInterval.isZero = false ∧ c.pageSize ≠ 0
      ∧ c.shutdownTimeout.isZero = false
      ∧ c.handlersShutdownTimeout.isZero = false := by
  unfold validate firstZero?
  cases c.pollInterval.isZero <;> by_cases c.pageSize = 0 <;>
    cases c.shutdownTimeout.isZero <;>
    cases c.handlersShutdownTimeout.isZero <;> simp_all

theorem ofSource_eq_ok {source : String → Option String} {c : Config}
    (h : ofSource source = .ok c) : ∃ i r s k : Nat,
      (0 < i ∧ 0 < r ∧ 0 < s ∧ 0 < k)
      ∧ c = ⟨.ofSeconds i, r, .ofMillis s, .ofMillis k⟩ := by
  unfold ofSource at h
  cases hi : requirePositive source .interval with
  | error e => simp [hi, bind, Except.bind] at h
  | ok i =>
  cases hr : requirePositive source .resultSize with
  | error e => simp [hi, hr, bind, Except.bind] at h
  | ok r =>
  cases hs : requirePositive source .shutdownTimeout with
  | error e => simp [hi, hr, hs, bind, Except.bind] at h
  | ok s =>
  cases hk : requirePositive source .handlersShutdownTimeout with
  | error e => simp [hi, hr, hs, hk, bind, Except.bind] at h
  | ok k =>
  simp only [hi, hr, hs, hk, bind, Except.bind, pure, Except.pure] at h
  split at h
  · cases h
  · exact ⟨i, r, s, k, ⟨pos_of_requirePositive hi,
      pos_of_requirePositive hr, pos_of_requirePositive hs,
      pos_of_requirePositive hk⟩, (Except.ok.inj h).symm⟩

theorem validate_ofSource {source : String → Option String} {c : Config}
    (h : ofSource source = .ok c) : c.validate = .ok () := by
  obtain ⟨i, r, s, k, hp, rfl⟩ := ofSource_eq_ok h
  refine validate_eq_ok_iff.2 ⟨?_, ?_, ?_, ?_⟩
  · exact (Span.isZero_ofSeconds i).trans (decide_eq_false (by omega))
  · exact Nat.ne_of_gt hp.2.1
  · exact (Span.isZero_ofMillis s).trans (decide_eq_false (by omega))
  · exact (Span.isZero_ofMillis k).trans (decide_eq_false (by omega))

end Config

end RemoteOps
