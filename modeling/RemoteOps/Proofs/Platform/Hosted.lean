/-
A platform in memory among surroundings of any kind: how long its calls
take and what the handlers do is not the memory's to say, and may depend
on everything that happened before.

* `Host.query_eq`, `Host.update_eq`, `Host.installed_eq`: the memory alone
  answers.
-/
import Mathlib.Tactic.Lemma
import RemoteOps.Journal
import RemoteOps.Platform.Memory

namespace RemoteOps

/-- The surroundings of a platform in memory. -/
structure Host (τ : Type) where
  /-- How long a call takes, in milliseconds. -/
  delay : MemoryPlatform × τ → Call → Nat
  /-- What a handler does when it is called. -/
  execute : MemoryPlatform × τ → Handler → TypedOperation → Behavior × τ

namespace Host

variable {τ : Type} (H : Host τ)

/-- A platform in memory in its surroundings. -/
def platform : Platform (MemoryPlatform × τ) where
  delay := H.delay
  poll s := (s.1.poll.1, s.1.poll.2, s.2)
  writeStatus s id status reason :=
    ((s.1.writeStatus id status reason).1,
      (s.1.writeStatus id status reason).2, s.2)
  query s kind status pageSize page :=
    ((s.1.query kind status pageSize page).1,
      (s.1.query kind status pageSize page).2, s.2)
  update s o := ((s.1.update o).1, (s.1.update o).2, s.2)
  publish s kinds := ((s.1.publish kinds).1, (s.1.publish kinds).2, s.2)
  installed s := (.ok s.1.installedSoftware, s)
  execute s h t := ((H.execute s h t).1, s.1, (H.execute s h t).2)

/-- Surroundings where nothing takes time and every handler succeeds. -/
def prompt : Host Unit where
  delay _ _ := 0
  execute _ _ _ := ({}, ())

variable (s : Site (MemoryPlatform × τ))

lemma query_eq (kind : String) (status : Status) (size page : Nat) :
    s.query H.platform kind status size page
      = ((s.world.1.query kind status size page).1,
        s.answered ((s.world.1.query kind status size page).2, s.world.2)
          (.query kind status size page
            (s.world.1.query kind status size page).1)) := rfl

lemma update_eq (o : Operation) :
    s.update H.platform o = ((s.world.1.update o).1,
      s.answered ((s.world.1.update o).2, s.world.2)
        (.update o (s.world.1.update o).1)) := rfl

lemma installed_eq : s.installed H.platform
    = (.ok s.world.1.installedSoftware,
      s.answered s.world (.installed (.ok s.world.1.installedSoftware))) :=
  rfl

end Host

end RemoteOps
