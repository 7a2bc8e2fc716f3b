/-
Typed operations: operations whose kind is known.

The kind is the name of one fragment; that fragment becomes the payload
and all others travel along, so that a typed operation can be turned
back.  A restart has no payload, a software update has a list of
entries, and any other kind keeps its payload as it is.

* `TypedOperation.kind_ofOperation`: a typed operation has the kind it
  was made for;
* `TypedOperation.find?_extra_ofOperation`: the other fragments are
  exactly those of another name;
* `TypedOperation.snd_transitionTo_of_error`: a step that is refused
  leaves a typed operation as it was.
-/
import RemoteOps.Operation.Basic
import RemoteOps.Operation.Software

namespace RemoteOps

namespace Kind

/-- The kind of a device restart. -/
def restart : String := "c8y_Restart"

/-- The kind of a software update. -/
def softwareList : String := "c8y_SoftwareList"

end Kind

/-- What every typed operation has. -/
structure OperationHeader where
  id : String
  status : Status
  failureReason : Option String
  /-- The fragments other than the one of the kind. -/
  extra : Dict Json
deriving DecidableEq

/-- An operation of a known kind. -/
inductive TypedOperation where
  /-- Restart the device. -/
  | restart (header : OperationHeader)
  /-- Install or replace software. -/
  | softwareUpdate (header : OperationHeader)
    (software : List SoftwareEntry)
  /-- Any other kind. -/
  | custom (header : OperationHeader) (kind : String) (payload : Json)
deriving DecidableEq

namespace OperationHeader

/-- The header of an operation that is read as one of a kind. -/
def ofOperation (o : Operation) (kind : String) : OperationHeader :=
  ⟨o.id, o.status, o.failureReason, o.fragments.erase kind⟩

/-- The operation with a header and a fragment for its kind. -/
def toOperation (h : OperationHeader) (kind : String) (payload : Json) :
    Operation :=
  ⟨h.id, h.status, h.extra.insert kind payload, h.failureReason⟩

end OperationHeader

namespace TypedOperation

/-- The header. -/
def header : TypedOperation → OperationHeader
  | restart h | softwareUpdate h _ | custom h _ _ => h

/-- Replaces the header. -/
def withHeader (h : OperationHeader) : TypedOperation → TypedOperation
  | restart _ => restart h
  | softwareUpdate _ software => softwareUpdate h software
  | custom _ kind payload => custom h kind payload

/-- The name of the fragment that says what kind this is. -/
def kind : TypedOperation → String
  | restart _ => Kind.restart
  | softwareUpdate _ _ => Kind.softwareList
  | custom _ kind _ => kind

/-- The identifier. -/
def id (t : TypedOperation) : String := t.header.id

/-- The status. -/
def status (t : TypedOperation) : Status := t.header.status

/-- What the fragment of the kind holds. -/
def payload : TypedOperation → Json
  | restart _ => .object []
  | softwareUpdate _ software => .array (software.map SoftwareEntry.toJson)
  | custom _ _ payload => payload

/-- The software that an update asks for: the first entry of its
list. -/
def requested? : TypedOperation → Option SoftwareEntry
  | softwareUpdate _ software => software.head?
  | _ => none

/-- Decodes the payload of a software update. -/
def decodeSoftware : Json → Except DecodeError (List SoftwareEntry) :=
  Json.decodeList SoftwareEntry.ofJson

/-- Reads an operation as one of a kind. -/
def ofOperation (o : Operation) (kind : String) :
    Except DecodeError TypedOperation := do
  let payload ← Json.require "kind fragment" (o.fragment? kind)
  let header := OperationHeader.ofOperation o kind
  if kind = Kind.restart then return .restart header
  else if kind = Kind.softwareList then
    return .softwareUpdate header (← decodeSoftware payload)
  else return .custom header kind payload

/-- Moves a typed operation along its life cycle: the answer, and the
typed operation after it. -/
def transitionTo (t : TypedOperation) (next : Status) :
    Except TransitionError Unit × TypedOperation :=
  if t.status.canBecome next then
    (.ok (), t.withHeader { t.header with status := next })
  else (.error ⟨t.id, t.status, next⟩, t)

/-- Turns a typed operation back. -/
def toOperation (t : TypedOperation) : Operation :=
  t.header.toOperation t.kind t.payload

/-! ### What is kept -/

@[simp]
theorem header_withHeader (h : OperationHeader) (t : TypedOperation) :
    (t.withHeader h).header = h := by cases t <;> rfl

@[simp]
theorem kind_withHeader (h : OperationHeader) (t : TypedOperation) :
    (t.withHeader h).kind = t.kind := by cases t <;> rfl

@[simp]
theorem payload_withHeader (h : OperationHeader) (t : TypedOperation) :
    (t.withHeader h).payload = t.payload := by cases t <;> rfl

theorem snd_transitionTo_of_error {t : TypedOperation} {next : Status}
    {e : TransitionError} (h : (t.transitionTo next).1 = .error e) :
    (t.transitionTo next).2 = t := by
  unfold transitionTo at h ⊢
  split at h
  · cases h
  · next hb => rw [if_neg hb]

theorem ofOperation_eq_ok {o : Operation} {kind : String}
    {t : TypedOperation} (h : ofOperation o kind = .ok t) :
    t.kind = kind ∧ t.header = .ofOperation o kind := by
  unfold ofOperation at h
  cases hp : o.fragment? kind with
  | none => simp [hp, Json.require, bind, Except.bind] at h
  | some a =>
    simp only [hp, Json.require, bind, Except.bind, pure, Except.pure] at h
    split at h
    · next hk => cases h; exact ⟨hk.symm, rfl⟩
    · split at h
      · next hk =>
        cases hs : decodeSoftware a with
        | error e => simp [hs] at h
        | ok l => simp only [hs] at h; cases h; exact ⟨hk.symm, rfl⟩
      · cases h; exact ⟨rfl, rfl⟩

theorem kind_ofOperation {o : Operation} {kind : String}
    {t : TypedOperation} (h : ofOperation o kind = .ok t) :
    t.kind = kind := (ofOperation_eq_ok h).1

theorem find?_extra_ofOperation {o : Operation} {kind : String}
    {t : TypedOperation} (h : ofOperation o kind = .ok t) (name : String) :
    t.header.extra.find? name
      = if name = kind then none else o.fragment? name := by
  rw [(ofOperation_eq_ok h).2]
  simp [OperationHeader.ofOperation, Operation.fragment?]

end TypedOperation

end RemoteOps
