/-
A platform in memory: operations in the order of their issue, a record
of every status write, and switches that make calls fail.

An operation is found by its identifier; of two with one identifier the
one issued first counts.

* `MemoryPlatform.pollCount_poll`: each poll is counted, in 32 bits;
* `MemoryPlatform.map_id_modifyFirst`: a write keeps the list of
  identifiers;
* `MemoryPlatform.writeStatus_error`: a write that fails changes nothing
  but the number of writes that are still to fail.
-/
import RemoteOps.Platform.Basic

namespace RemoteOps

/-- A recorded status write. -/
structure StatusWrite where
  id : String
  status : Status
  reason : Option String
deriving DecidableEq, Repr

/-- A platform in memory. -/
structure MemoryPlatform where
  operations : List Operation := []
  writes : List StatusWrite := []
  /-- The kinds that were published last. -/
  supported : Option (List String) := none
  installedSoftware : List InstalledSoftware := []
  /-- How many polls there were, failed ones included.  What is told of
  them is `pollCount`; no call looks at either. -/
  polls : Nat := 0
  /-- How many polls are still to fail. -/
  failingPolls : Nat := 0
  /-- How many writes are still to fail. -/
  failingWrites : Nat := 0
  failPublish : Bool := false
  failQueries : Bool := false
deriving DecidableEq, Inhabited

namespace MemoryPlatform

/-- The failure of a call that does not get through. -/
def unreachable : Failure := ⟨"platform unreachable"⟩

/-- Changes the first operation of an identifier. -/
def modifyFirst (id : String) (f : Operation → Operation) :
    List Operation → List Operation
  | [] => []
  | o :: l => if o.id = id then f o :: l else o :: modifyFirst id f l

/-! ### What the world outside does -/

/-- Adds an operation as it is. -/
def push (m : MemoryPlatform) (o : Operation) : MemoryPlatform :=
  { m with operations := m.operations ++ [o] }

/-- Issues a pending operation with one fragment, under an identifier that
is drawn for it. -/
def issue (m : MemoryPlatform) (id kind : String) (payload : Json) :
    MemoryPlatform :=
  m.push ((Operation.new id).withFragment kind payload)

/-- The operation of an identifier. -/
def operation? (m : MemoryPlatform) (id : String) : Option Operation :=
  m.operations.find? fun o => o.id = id

/-- The count of polls that is told, which starts over after 2 ^ 32. -/
def pollCount (m : MemoryPlatform) : UInt32 := .ofNat m.polls

/-- The statuses that were written for an identifier. -/
def statusesFor (m : MemoryPlatform) (id : String) : List Status :=
  (m.writes.filter fun w => w.id = id).map (·.status)

/-! ### What the agent calls -/

/-- The operation that is pending and was issued first. -/
def poll (m : MemoryPlatform) :
    Except Failure (Option Operation) × MemoryPlatform :=
  let m := { m with polls := m.polls + 1 }
  if m.failingPolls ≠ 0 then
    (.error unreachable, { m with failingPolls := m.failingPolls - 1 })
  else (.ok (m.operations.find? fun o => o.status = .pending), m)

/-- Writes to the first operation of an identifier, unless writes are to
fail or there is none, and records the write. -/
def write (m : MemoryPlatform) (w : StatusWrite)
    (f : Operation → Operation) : Except Failure Unit × MemoryPlatform :=
  if m.failingWrites ≠ 0 then
    (.error unreachable, { m with failingWrites := m.failingWrites - 1 })
  else if (m.operation? w.id).isNone then
    (.error ⟨"unknown operation " ++ w.id⟩, m)
  else
    (.ok (), { m with
      operations := modifyFirst w.id f m.operations
      writes := m.writes ++ [w] })

/-- Writes a status and a reason. -/
def writeStatus (m : MemoryPlatform) (id : String) (status : Status)
    (reason : Option String) : Except Failure Unit × MemoryPlatform :=
  m.write ⟨id, status, reason⟩ fun o =>
    { o with status, failureReason := reason }

/-- Writes a whole operation. -/
def update (m : MemoryPlatform) (o : Operation) :
    Except Failure Unit × MemoryPlatform :=
  m.write ⟨o.id, o.status, o.failureReason⟩ fun _ => o

/-- The operations of a kind in a status. -/
def matching (m : MemoryPlatform) (kind : String) (status : Status) :
    List Operation :=
  m.operations.filter fun o => o.status = status && o.hasFragment kind

/-- A page of the operations of a kind in a status.  A page has room for
one operation at least. -/
def query (m : MemoryPlatform) (kind : String) (status : Status)
    (pageSize page : Nat) : Except Failure OperationPage × MemoryPlatform :=
  if m.failQueries then (.error unreachable, m)
  else
    let size := Nat.max pageSize 1
    let found := m.matching kind status
    (.ok ⟨(found.drop (page * size)).take size,
      page * size + size < found.length⟩, m)

/-- Publishes the kinds that the device can execute. -/
def publish (m : MemoryPlatform) (kinds : List String) :
    Except Failure Unit × MemoryPlatform :=
  if m.failPublish then (.error ⟨"inventory update rejected"⟩, m)
  else (.ok (), { m with supported := some kinds })

/-- A poll adds one, whether it fails or not. -/
theorem pollCount_poll (m : MemoryPlatform) :
    m.poll.2.pollCount = m.pollCount + 1 := by
  unfold poll
  dsimp only
  split <;> exact UInt32.ofNat_add m.polls 1

/-! ### What writes keep -/

theorem map_id_modifyFirst {id : String} {f : Operation → Operation}
    (h : ∀ o, o.id = id → (f o).id = id) (l : List Operation) :
    (modifyFirst id f l).map (·.id) = l.map (·.id) := by
  induction l with
  | nil => rfl
  | cons o l ih =>
    simp only [modifyFirst]
    split
    · next ho => simp [h o ho, ho]
    · simp [ih]

theorem writeStatus_error {m m' : MemoryPlatform} {id : String}
    {status : Status} {reason : Option String} {e : Failure}
    (h : m.writeStatus id status reason = (.error e, m')) :
    m' = { m with failingWrites := m.failingWrites - 1 } := by
  unfold writeStatus write at h
  split at h
  · cases h; rfl
  · next hz =>
    split at h
    · cases h
      have : m.failingWrites = 0 := by simpa using hz
      cases m; simp_all
    · cases h

end MemoryPlatform

end RemoteOps
