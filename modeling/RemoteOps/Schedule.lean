/-
Machines whose tasks take turns on one clock.

A task takes a step whenever it can; the clock moves only when no task
can take a step, and then straight to the next time at which one wakes.
`Machine.Step` allows every order of the tasks that can run; the
functions below it follow one of them, in which the tasks take turns:
each runs until it has to wait, and a task that another one wakes has its
turn after those that are awake already.

* `Machine.settle_runs`: settling is a run of the machine.
-/

namespace RemoteOps

/-- A machine with states `S` and tasks `T`. -/
structure Machine (S T : Type) where
  /-- The tasks of a state, in the order in which they are tried. -/
  tasks : S → List T
  /-- The step of a task, if it can take one. -/
  step : S → T → Option S
  now : S → Nat
  setNow : S → Nat → S
  /-- The times at which sleeping tasks wake. -/
  wakes : S → List Nat

namespace Machine

variable {S T : Type}

/-! ### Runs in any order -/

variable (m : Machine S T)

/-- No task can take a step. -/
def Idle (s : S) : Prop := ∀ t, m.step s t = none

/-- One step of a machine: some task that can run takes its step, or the
clock moves on when none can. -/
inductive Step : S → S → Prop where
  | run {s s' : S} (t : T) (h : m.step s t = some s') : Step s s'
  | wait {s : S} {d : Nat} (h : m.Idle s) (hd : d ∈ m.wakes s)
    (hlt : m.now s < d) (hmin : ∀ d' ∈ m.wakes s, m.now s < d' → d ≤ d') :
    Step s (m.setNow s d)

/-- The states that a machine can come to. -/
inductive Runs : S → S → Prop where
  | refl (s : S) : Runs s s
  | tail {s s' s'' : S} (h : Runs s s') (hs : m.Step s' s'') : Runs s s''

/-! ### One order of the tasks -/

/-- The tasks that can take a step. -/
def ready (s : S) : List T :=
  (m.tasks s).filter fun t => (m.step s t).isSome

/-- Lets a task run until it has to wait, at most as many steps as the
fuel says. -/
def runTask : Nat → S → T → S
  | 0, s, _ => s
  | fuel + 1, s, t =>
    match m.step s t with
    | some s' => runTask fuel s' t
    | none => s

/-- One round: the tasks that are ready run in turn.  Tasks that get
ready meanwhile are left to the next round. -/
def round (fuel : Nat) (s : S) : S :=
  (m.ready s).foldl (m.runTask fuel) s

/-- Enough steps for everything that `n` tasks and operations can do at
one instant. -/
def fuelFor (n : Nat) : Nat := 64 * (n + 16)

/-- Takes rounds until no task is ready, at most a given number. -/
def settleFor (fuel : Nat) : Nat → S → S
  | 0, s => s
  | rounds + 1, s =>
    if (m.ready s).isEmpty then s
    else settleFor fuel rounds (m.round fuel s)

/-- Lets the tasks run until none is ready. -/
def settle (fuel : Nat) (s : S) : S := m.settleFor fuel fuel s

/-- The next time at which a task wakes. -/
def nextWake? (s : S) : Option Nat :=
  ((m.wakes s).filter fun d => m.now s < d).min?

/-- Moves the clock to a time, stopping wherever a task wakes. -/
def advanceTo (fuel : Nat) : Nat → Nat → S → S
  | 0, target, s => m.setNow s target
  | steps + 1, target, s =>
    match m.nextWake? s with
    | some d =>
      if d ≤ target then
        advanceTo fuel steps target (m.settle fuel (m.setNow s d))
      else m.setNow s target
    | none => m.setNow s target

/-- Lets some milliseconds pass. -/
def advance (fuel ms : Nat) (s : S) : S :=
  m.advanceTo fuel ms (m.now s + ms) s

/-- Goes on until a condition holds, moving the clock where it has to,
at most a given number of times. -/
def runFor (fuel : Nat) (done : S → Bool) : Nat → S → S
  | 0, s => m.settle fuel s
  | waits + 1, s =>
    let s := m.settle fuel s
    if done s then s
    else
      match m.nextWake? s with
      | some d => runFor fuel done waits (m.setNow s d)
      | none => s

/-- Goes on until a condition holds. -/
def runUntil (fuel : Nat) (done : S → Bool) (s : S) : S :=
  m.runFor fuel done fuel s

/-! ### The one order among all -/

variable {m}

theorem Runs.trans {s s' s'' : S} (h : m.Runs s s') (h' : m.Runs s' s'') :
    m.Runs s s'' := by
  induction h' with
  | refl => exact h
  | tail _ hs ih => exact ih.tail hs

theorem runTask_runs (fuel : Nat) (s : S) (t : T) :
    m.Runs s (m.runTask fuel s t) := by
  induction fuel generalizing s with
  | zero => exact .refl s
  | succ fuel ih =>
    simp only [runTask]
    split
    · next s' h => exact Runs.trans (.tail (.refl s) (.run t h)) (ih s')
    · exact .refl s

theorem round_runs (fuel : Nat) (s : S) : m.Runs s (m.round fuel s) := by
  unfold round
  induction m.ready s generalizing s with
  | nil => exact .refl s
  | cons t l ih => exact (runTask_runs fuel s t).trans (ih _)

theorem settleFor_runs (fuel rounds : Nat) (s : S) :
    m.Runs s (m.settleFor fuel rounds s) := by
  induction rounds generalizing s with
  | zero => exact .refl s
  | succ rounds ih =>
    simp only [settleFor]
    split
    · exact .refl s
    · exact (round_runs fuel s).trans (ih _)

theorem settle_runs (fuel : Nat) (s : S) : m.Runs s (m.settle fuel s) :=
  settleFor_runs fuel fuel s

end Machine

end RemoteOps
