/-
Lengths of time, in nanoseconds, and waits on a clock of whole
milliseconds.

* `Clock.after_eq`: a wait that is not too long ends when it should;
* `Span.wholeMillis_le_ceilMillis`: rounding up adds at most one
  millisecond;
* `Span.lt_deadline`: a wait for a positive span ends later than it
  starts.
-/

namespace RemoteOps

namespace Clock

/-- The longest wait, in milliseconds: thirty years. -/
def longestWait : Nat := 30 * 365 * 86400 * 1000

/-- When a wait of some milliseconds ends that starts at `now`.  A wait
that is too long is cut short. -/
def after (now ms : Nat) : Nat := now + min ms longestWait

theorem after_eq {now ms : Nat} (h : ms ≤ longestWait) :
    after now ms = now + ms := by
  rw [after, Nat.min_eq_left h]

end Clock

/-- A length of time. -/
structure Span where
  nanos : Nat
deriving DecidableEq, Repr, Inhabited

namespace Span

/-- A span of whole milliseconds. -/
def ofMillis (n : Nat) : Span := ⟨n * 1000000⟩

/-- A span of whole seconds. -/
def ofSeconds (n : Nat) : Span := ⟨n * 1000000000⟩

/-- A span of whole seconds and nanoseconds. -/
def ofParts (seconds nanos : Nat) : Span :=
  ⟨seconds * 1000000000 + nanos⟩

/-- Whether a span is empty. -/
def isZero (d : Span) : Bool := d.nanos = 0

/-- The whole seconds. -/
def wholeSeconds (d : Span) : Nat := d.nanos / 1000000000

/-- The whole milliseconds, rounded down. -/
def wholeMillis (d : Span) : Nat := d.nanos / 1000000

/-- The whole milliseconds, rounded up. -/
def ceilMillis (d : Span) : Nat := (d.nanos + 999999) / 1000000

/-- The longer of two spans. -/
def max (d d' : Span) : Span := ⟨Nat.max d.nanos d'.nanos⟩

/-- When a wait of this span ends that starts at `now`. -/
def deadline (now : Nat) (d : Span) : Nat := Clock.after now d.ceilMillis

/-! ### Text -/

/-- The digits of a fraction, in the given number of places and without
zeros at the end. -/
def fractionDigits (places n : Nat) : String :=
  let ds := Nat.toDigits 10 n
  let ds := List.replicate (places - ds.length) '0' ++ ds
  String.ofList (ds.reverse.dropWhile (· = '0')).reverse

/-- A number with a fraction in the given number of places. -/
def decimal (whole places fraction : Nat) : String :=
  if fraction = 0 then toString whole
  else toString whole ++ "." ++ fractionDigits places fraction

/-- The text of a span: in the largest unit, of seconds, milliseconds,
microseconds and nanoseconds, in which it is at least one. -/
def render (d : Span) : String :=
  let n := d.nanos
  if 1000000000 ≤ n then
    decimal (n / 1000000000) 9 (n % 1000000000) ++ "s"
  else if 1000000 ≤ n then decimal (n / 1000000) 6 (n % 1000000) ++ "ms"
  else if 1000 ≤ n then decimal (n / 1000) 3 (n % 1000) ++ "µs"
  else toString n ++ "ns"

/-! ### Rounding -/

theorem isZero_ofSeconds (n : Nat) :
    (ofSeconds n).isZero = decide (n = 0) := by
  simp only [isZero, ofSeconds]
  exact decide_eq_decide.2 (by omega)

theorem isZero_ofMillis (n : Nat) :
    (ofMillis n).isZero = decide (n = 0) := by
  simp only [isZero, ofMillis]
  exact decide_eq_decide.2 (by omega)

theorem wholeMillis_le_ceilMillis (d : Span) :
    d.wholeMillis ≤ d.ceilMillis ∧ d.ceilMillis ≤ d.wholeMillis + 1 := by
  simp only [wholeMillis, ceilMillis]
  omega

@[simp]
theorem ceilMillis_ofMillis (n : Nat) : (ofMillis n).ceilMillis = n := by
  simp only [ceilMillis, ofMillis]
  omega

theorem lt_deadline {now : Nat} {d : Span} (h : d.isZero = false) :
    now < d.deadline now := by
  simp only [isZero, decide_eq_false_iff_not] at h
  have hc : 0 < d.ceilMillis := by
    simp only [ceilMillis]
    omega
  exact Nat.lt_add_of_pos_right (Nat.lt_min.2 ⟨hc, by decide⟩)

end Span

end RemoteOps
