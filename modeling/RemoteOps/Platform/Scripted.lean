/-
A scripted platform: a platform in memory whose calls take a while,
whose next answers can be put in beforehand, and whose handlers follow
scripts.
-/
import RemoteOps.Platform.Memory

namespace RemoteOps

/-- A platform in memory with scripts. -/
structure ScriptedPlatform where
  memory : MemoryPlatform := {}
  /-- How long calls take. -/
  latency : List (Call × Nat) := []
  /-- The answers of the next polls. -/
  nextPolls : List (Except Failure (Option Operation)) := []
  /-- The answers of the next queries. -/
  nextPages : List (Except Failure OperationPage) := []
  /-- The failure of every look at the installed software. -/
  installedError : Option Failure := none
  /-- What each handler does in its next calls, by the number of the
  handler; the last behavior stays. -/
  scripts : List (List Behavior) := []

namespace ScriptedPlatform

/-- The number of operations that can be handed out. -/
def size (s : ScriptedPlatform) : Nat :=
  s.memory.operations.length + s.nextPolls.length + s.nextPages.length

/-- How long a call takes. -/
def delay (s : ScriptedPlatform) (c : Call) : Nat :=
  (s.latency.lookup c).getD 0

/-- Sets how long a call takes. -/
def setDelay (s : ScriptedPlatform) (c : Call) (ms : Nat) :
    ScriptedPlatform :=
  { s with latency := (c, ms) :: s.latency }

/-- Sets what a handler does. -/
def setScript (s : ScriptedPlatform) (uid : Nat) (l : List Behavior) :
    ScriptedPlatform :=
  { s with scripts := s.scripts.set uid l }

/-- Runs a call of the platform in memory. -/
def onMemory {α : Type} (s : ScriptedPlatform)
    (f : MemoryPlatform → α × MemoryPlatform) : α × ScriptedPlatform :=
  let (a, m) := f s.memory
  (a, { s with memory := m })

/-- The next answer that was put in, or that of the memory. -/
def poll (s : ScriptedPlatform) :
    Except Failure (Option Operation) × ScriptedPlatform :=
  match s.nextPolls with
  | r :: rest => (r, { s with nextPolls := rest })
  | [] => s.onMemory (·.poll)

/-- The next page that was put in, or that of the memory. -/
def query (s : ScriptedPlatform) (kind : String) (status : Status)
    (pageSize page : Nat) :
    Except Failure OperationPage × ScriptedPlatform :=
  match s.nextPages with
  | r :: rest => (r, { s with nextPages := rest })
  | [] => s.onMemory (·.query kind status pageSize page)

/-- The installed software. -/
def installed (s : ScriptedPlatform) :
    Except Failure (List InstalledSoftware) × ScriptedPlatform :=
  match s.installedError with
  | some e => (.error e, s)
  | none => (.ok s.memory.installedSoftware, s)

/-- What a handler does in its next call: it succeeds when it has no
script. -/
def execute (s : ScriptedPlatform) (h : Handler) :
    Behavior × ScriptedPlatform :=
  match s.scripts[h.uid]? with
  | some (b :: c :: rest) => (b, s.setScript h.uid (c :: rest))
  | some [b] => (b, s)
  | _ => ({}, s)

/-- The answers of a scripted platform. -/
def platform : Platform ScriptedPlatform where
  delay := delay
  poll := poll
  writeStatus s id status reason :=
    s.onMemory (·.writeStatus id status reason)
  query := query
  update s o := s.onMemory (·.update o)
  publish s kinds := s.onMemory (·.publish kinds)
  installed := installed
  execute s h _ := s.execute h

end ScriptedPlatform

end RemoteOps
