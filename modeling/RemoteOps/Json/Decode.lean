/-
Decoding JSON values: the errors, and the decoders of texts, optional
texts, lists and dictionaries.

A record comes as an object, whose unknown members are ignored, or as an
array of its fields in the order of their declaration.  The members of
an object are decoded in the order of their keys, and only then are
missing fields looked for.
-/
import RemoteOps.Json.Value
import RemoteOps.Json.Printer
import RemoteOps.Text.Quoted

namespace RemoteOps

/-- What succeeds in two steps succeeds in both. -/
theorem exists_of_bind_eq_ok {ε α β : Type} {x : Except ε α}
    {f : α → Except ε β} {b : β} (h : x >>= f = .ok b) :
    ∃ a, x = .ok a ∧ f a = .ok b := by
  cases x with
  | error e => cases h
  | ok a => exact ⟨a, rfl, h⟩

/-- What is made of a first step comes of what that step gave. -/
theorem exists_of_bind_pure_eq_ok {ε α β : Type} {x : Except ε α}
    {f : α → β} {b : β} (h : (x >>= fun a => pure (f a)) = .ok b) :
    ∃ a, x = .ok a ∧ b = f a := by
  obtain ⟨a, ha, hb⟩ := exists_of_bind_eq_ok h
  exact ⟨a, ha, (Except.ok.inj hb).symm⟩

/-- After a first step that succeeds the second one is taken. -/
theorem ok_bind {ε α β : Type} (a : α) (f : α → Except ε β) :
    Except.ok a >>= f = f a := rfl

/-- Why a JSON value cannot be decoded. -/
inductive DecodeError where
  | missingField (name : String)
  | wrongType (found expected : String)
  | wrongValue (found expected : String)
  | wrongLength (length : Nat) (expected : String)
  | unknownVariant (name : String) (expected : List String)
deriving DecidableEq, Repr

namespace DecodeError

/-- A name between the marks that messages put around names. -/
def mark (s : String) : String := "`" ++ s ++ "`"

/-- The text of an error. -/
def message : DecodeError → String
  | missingField name => "missing field " ++ mark name
  | wrongType found expected =>
    "invalid type: " ++ found ++ ", expected " ++ expected
  | wrongValue found expected =>
    "invalid value: " ++ found ++ ", expected " ++ expected
  | wrongLength n expected =>
    "invalid length " ++ toString n ++ ", expected " ++ expected
  | unknownVariant name expected =>
    "unknown variant " ++ mark name ++ ", expected one of "
      ++ String.intercalate ", " (expected.map mark)

end DecodeError

namespace Json

/-- What a value is, as messages say it. -/
def describe : Json → String
  | null => "null"
  | bool b => "boolean " ++ DecodeError.mark (if b then "true" else "false")
  | int z => "integer " ++ DecodeError.mark (String.ofList (renderInt z))
  | double x => "floating point " ++ DecodeError.mark x.render
  | string s => "string " ++ Quoted.quote s
  | array _ => "sequence"
  | object _ => "map"

/-- A value of another type than the one that is expected. -/
def mismatch (a : Json) (expected : String) : DecodeError :=
  .wrongType a.describe expected

/-- Decodes a text. -/
def decodeString : Json → Except DecodeError String
  | string s => .ok s
  | a => .error (a.mismatch "a string")

/-- Decodes a text or null. -/
def decodeOption : Json → Except DecodeError (Option String)
  | null => .ok none
  | a => some <$> a.decodeString

/-- Decodes an object into a dictionary. -/
def decodeDict : Json → Except DecodeError (Dict Json)
  | object members => .ok (Dict.ofList members)
  | a => .error (a.mismatch "a map")

/-- Decodes a list of values with a decoder for the elements. -/
def decodeList {α : Type} (decode : Json → Except DecodeError α) :
    Json → Except DecodeError (List α)
  | array elements => elements.mapM decode
  | a => .error (a.mismatch "a sequence")

/-- Decodes the next field of a record that is given as an array. -/
def decodeNext {α : Type} (decode : Json → Except DecodeError α)
    (index : Nat) (expected : String) :
    List Json → Except DecodeError (α × List Json)
  | [] => .error (.wrongLength index expected)
  | a :: rest => do return (← decode a, rest)

/-- Decodes the next field of a record that is given as an array, where
the field may be missing at the end. -/
def decodeNextOr {α : Type} (decode : Json → Except DecodeError α)
    (default : α) : List Json → Except DecodeError (α × List Json)
  | [] => .ok (default, [])
  | a :: rest => do return (← decode a, rest)

/-- No element of an array of the given length may be left over. -/
def decodeDone (length : Nat) (rest : List Json) :
    Except DecodeError Unit :=
  if rest.isEmpty then .ok ()
  else .error (.wrongLength length "fewer elements in array")

/-- A field that must be there. -/
def require {α : Type} (name : String) :
    Option α → Except DecodeError α
  | some a => .ok a
  | none => .error (.missingField name)

end Json

end RemoteOps
