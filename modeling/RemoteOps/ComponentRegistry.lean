/-
The registry of the agent's components.

Components are found by name or by type, where the one registered last
counts, and run one after the other in the order in which their names
were registered.  A name that is registered twice stands twice in that
order, for the same component.

* `ComponentRegistry.byName?_register`: what a look-up by name gives
  after a registration.
-/
import RemoteOps.Dict
import RemoteOps.Component
import RemoteOps.Span

namespace RemoteOps

/-- What a component reports about one of its phases. -/
inductive Mark where
  /-- The phase begins. -/
  | begins
  /-- The phase has succeeded. -/
  | succeeded
deriving DecidableEq, Repr

/-- A mark of a component, with its time. -/
structure MarkEntry where
  time : Nat
  mark : Mark
  component : Component
deriving DecidableEq, Repr

/-- The components by name and by type, and the order of their
names. -/
structure ComponentRegistry where
  byName : Dict Component
  byType : Dict Component
  order : List String

namespace ComponentRegistry

/-- The registry without components. -/
def empty : ComponentRegistry := ⟨.empty, .empty, []⟩

instance : Inhabited ComponentRegistry := ⟨empty⟩

/-- Registers a component of a type. -/
def register (r : ComponentRegistry) (type : String) (c : Component) :
    ComponentRegistry :=
  ⟨r.byName.insert c.name c, r.byType.insert type c, r.order ++ [c.name]⟩

/-- The component of a name. -/
def byName? (r : ComponentRegistry) (name : String) : Option Component :=
  r.byName.find? name

/-- The component of a type. -/
def byType? (r : ComponentRegistry) (type : String) : Option Component :=
  r.byType.find? type

/-- The components in the order of their names. -/
def ordered (r : ComponentRegistry) : List Component :=
  r.order.filterMap r.byName?

/-- What came out of a run: how it ended, when, and the marks that were
made. -/
structure Run where
  ending : Ending
  time : Nat
  marks : List MarkEntry

/-- Runs one phase of a component. -/
def runPhase (phase : Component → Phase) (now : Nat) (c : Component) :
    Run :=
  let p := phase c
  let begins := ⟨now, .begins, c⟩
  let due := Clock.after now p.delay
  match p.ending with
  | .success => ⟨.success, due, [begins, ⟨due, .succeeded, c⟩]⟩
  | ending => ⟨ending, due, [begins]⟩

/-- Starts components one after the other, up to the first that does not
succeed. -/
def startList (now : Nat) : List Component → Run
  | [] => ⟨.success, now, []⟩
  | c :: cs =>
    let r := runPhase (·.startPhase) now c
    if r.ending = .success then
      let rest := startList r.time cs
      ⟨rest.ending, rest.time, r.marks ++ rest.marks⟩
    else r

/-- Stops components one after the other, whichever fail; the last
failure is the result.  An abnormal end ends the run. -/
def stopList (now : Nat) : List Component → Run
  | [] => ⟨.success, now, []⟩
  | c :: cs =>
    let r := runPhase (·.stopPhase) now c
    if r.ending = .panic then r
    else
      let rest := stopList r.time cs
      ⟨if rest.ending = .success then r.ending else rest.ending, rest.time,
        r.marks ++ rest.marks⟩

/-- Starts all components in order. -/
def startAll (r : ComponentRegistry) (now : Nat) : Run :=
  startList now r.ordered

/-- Stops all components in the opposite order. -/
def stopAll (r : ComponentRegistry) (now : Nat) : Run :=
  stopList now r.ordered.reverse

theorem byName?_register (r : ComponentRegistry) (type : String)
    (c : Component) (name : String) :
    (r.register type c).byName? name
      = if name = c.name then some c else r.byName? name := by
  simp [register, byName?]

end ComponentRegistry

end RemoteOps
