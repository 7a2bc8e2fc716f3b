/-
Operations: remote commands with an identifier, a status and named
fragments, one of which says what kind of command it is.

* `Operation.transitionTo_eq_ok_iff`: an operation moves exactly along
  the life cycle, and only its status changes;
* `Operation.transitionTo_eq_error_iff`: the error names the operation
  and the refused step, and the operation stays as it was;
* `Operation.snd_fail_of_error`: so it does when failing it is refused.
-/
import RemoteOps.Operation.Status

namespace RemoteOps

/-- A remote command as the platform delivers it. -/
structure Operation where
  /-- Names the operation for its whole life. -/
  id : String
  status : Status
  /-- What the command is about, by name. -/
  fragments : Dict Json
  /-- Why it failed. -/
  failureReason : Option String
deriving DecidableEq, Inhabited

/-- A refused step of the life cycle. -/
structure TransitionError where
  id : String
  current : Status
  wanted : Status
deriving DecidableEq, Repr

/-- The text of a refused step. -/
def TransitionError.message (e : TransitionError) : String :=
  "operation " ++ e.id ++ ": illegal status transition "
    ++ e.current.name ++ " -> " ++ e.wanted.name

namespace Operation

/-- A pending operation without fragments. -/
def new (id : String) : Operation := ⟨id, .pending, .empty, none⟩

/-- Adds a fragment, or replaces the one of the same name. -/
def withFragment (o : Operation) (name : String) (a : Json) : Operation :=
  { o with fragments := o.fragments.insert name a }

/-- Overrides the status, whatever the life cycle says. -/
def withStatus (o : Operation) (status : Status) : Operation :=
  { o with status }

/-- The fragment of a name. -/
def fragment? (o : Operation) (name : String) : Option Json :=
  o.fragments.find? name

/-- Whether there is a fragment of a name. -/
def hasFragment (o : Operation) (name : String) : Bool :=
  o.fragments.contains name

/-- The names of the fragments, in order. -/
def fragmentNames (o : Operation) : List String := o.fragments.keys

/-- Moves an operation along its life cycle: the answer, and the operation
after it. -/
def transitionTo (o : Operation) (next : Status) :
    Except TransitionError Unit × Operation :=
  if o.status.canBecome next then (.ok (), { o with status := next })
  else (.error ⟨o.id, o.status, next⟩, o)

/-- Fails an operation for a reason. -/
def fail (o : Operation) (reason : String) :
    Except TransitionError Unit × Operation :=
  match o.transitionTo .failed with
  | (.ok (), o) => (.ok (), { o with failureReason := some reason })
  | (.error e, o) => (.error e, o)

/-- Whether two operations are the same: equal, but for the signs of
zeros in their fragments. -/
def same (o o' : Operation) : Bool :=
  o.id = o'.id && o.status = o'.status
    && Json.sameMembers o.fragments.entries o'.fragments.entries
    && o.failureReason = o'.failureReason

/-! ### JSON values of operations -/

/-- The fields that are read so far. -/
structure Fields where
  id : Option String := none
  status : Option Status := none
  fragments : Option (Dict Json) := none
  failureReason : Option (Option String) := none

/-- Reads one member of an object. -/
def Fields.read (f : Fields) (m : String × Json) :
    Except DecodeError Fields :=
  match m.1 with
  | "id" => do return { f with id := some (← m.2.decodeString) }
  | "status" => do return { f with status := some (← Status.ofJson m.2) }
  | "fragments" => do
    return { f with fragments := some (← m.2.decodeDict) }
  | "failure_reason" => do
    return { f with failureReason := some (← m.2.decodeOption) }
  | _ => .ok f

/-- Decodes an operation. -/
def ofJson : Json → Except DecodeError Operation
  | .object members => do
    let f ← members.foldlM Fields.read {}
    let id ← Json.require "id" f.id
    let status ← Json.require "status" f.status
    return ⟨id, status, f.fragments.getD .empty, f.failureReason.getD none⟩
  | .array l => do
    let expected := "struct Operation with 4 elements"
    let (id, rest) ← Json.decodeNext Json.decodeString 0 expected l
    let (status, rest) ← Json.decodeNext Status.ofJson 1 expected rest
    let (fragments, rest) ← Json.decodeNextOr Json.decodeDict .empty rest
    let (reason, rest) ← Json.decodeNextOr Json.decodeOption none rest
    Json.decodeDone l.length rest
    return ⟨id, status, fragments, reason⟩
  | a => .error (a.mismatch "struct Operation")

/-- The member that holds the reason of a failure, if there is one. -/
def reasonMember (o : Operation) : List (String × Json) :=
  match o.failureReason with
  | some reason => [("failure_reason", .string reason)]
  | none => []

/-- The JSON value of an operation, without a reason when there is
none. -/
def toJson (o : Operation) : Json :=
  .object <| o.reasonMember ++
    [("fragments", .ofDict o.fragments), ("id", .string o.id),
      ("status", o.status.toJson)]

/-- An operation as it is written in texts: with its members in the order
of their declaration. -/
def written (o : Operation) : Json :=
  .object <|
    [("id", .string o.id), ("status", o.status.toJson),
      ("fragments", .ofDict o.fragments)] ++ o.reasonMember

/-- The compact JSON text of an operation. -/
def render (o : Operation) : String := o.written.render

/-! ### The life cycle -/

@[simp]
theorem transitionTo_eq_ok_iff {o o' : Operation} {next : Status} :
    o.transitionTo next = (.ok (), o')
      ↔ o.status.canBecome next = true ∧ o' = { o with status := next } := by
  unfold transitionTo
  split
  · next h => simp [h, Eq.comm (a := o')]
  · next h => simp [h]

@[simp]
theorem transitionTo_eq_error_iff {o o' : Operation} {next : Status}
    {e : TransitionError} :
    o.transitionTo next = (.error e, o')
      ↔ o.status.canBecome next = false
        ∧ e = ⟨o.id, o.status, next⟩ ∧ o' = o := by
  unfold transitionTo
  split
  · next h => simp [h]
  · next h => simp [h, Eq.comm (a := e), Eq.comm (a := o')]

/-- A step that is refused leaves the operation as it was. -/
theorem snd_transitionTo_of_error {o : Operation} {next : Status}
    {e : TransitionError} (h : (o.transitionTo next).1 = .error e) :
    (o.transitionTo next).2 = o :=
  (transitionTo_eq_error_iff.1 (Prod.ext h rfl)).2.2

theorem fail_eq_ok_iff {o o' : Operation} {reason : String} :
    o.fail reason = (.ok (), o')
      ↔ o.status.canBecome .failed = true
        ∧ o' = { o with status := .failed, failureReason := some reason } := by
  unfold fail transitionTo
  split
  · next h =>
    split at h
    · next hb => cases h; simp [hb, Eq.comm (a := o')]
    · cases h
  · next h =>
    split at h
    · cases h
    · next hb => simp [hb]

theorem snd_fail_of_error {o : Operation} {reason : String}
    {e : TransitionError} (h : (o.fail reason).1 = .error e) :
    (o.fail reason).2 = o := by
  unfold fail at h ⊢
  split at h
  · cases h
  · next ht => exact (transitionTo_eq_error_iff.1 ht).2.2

end Operation

end RemoteOps
