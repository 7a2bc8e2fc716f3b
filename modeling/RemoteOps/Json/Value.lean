/-
JSON values.

An integer stays an integer; every other number is a double.  The
members of an object are kept in the order of their keys, each key
once: `Json.Tidy` says so of a value and all it holds, `TidyJson` is the
type of such values, and `Json.ofMembers` builds such objects.

* `Json.same`: equality of values as numbers, texts and collections,
  where the two zeros among the doubles are one number;
* `Json.same_refl`: every value is the same as itself.
-/
import RemoteOps.Decimal.Double
import RemoteOps.Dict

namespace RemoteOps

/-- A JSON value. -/
inductive Json where
  | null
  | bool (b : Bool)
  | int (z : Int)
  | double (x : Double)
  | string (s : String)
  | array (elements : List Json)
  | object (members : List (String × Json))
deriving Inhabited

namespace Json

/-- The object with the given members; of two with one key the later one
stays. -/
def ofMembers (l : List (String × Json)) : Json :=
  object (Entries.ofList l)

/-- The object with the entries of a dictionary. -/
def ofDict (d : Dict Json) : Json := object d.entries

/-- A text, or null. -/
def ofOption (s : Option String) : Json :=
  match s with
  | some s => string s
  | none => null

/-! ### Equality -/

mutual

/-- Equality of values, as a test. -/
def beq : Json → Json → Bool
  | null, null => true
  | bool x, bool y => x == y
  | int x, int y => x == y
  | double x, double y => x == y
  | string x, string y => x == y
  | array l, array l' => beqElements l l'
  | object l, object l' => beqMembers l l'
  | _, _ => false

/-- Equality of lists of values, as a test. -/
def beqElements : List Json → List Json → Bool
  | [], [] => true
  | a :: l, b :: l' => beq a b && beqElements l l'
  | _, _ => false

/-- Equality of lists of members, as a test. -/
def beqMembers : List (String × Json) → List (String × Json) → Bool
  | [], [] => true
  | (k, a) :: l, (k', b) :: l' => k == k' && beq a b && beqMembers l l'
  | _, _ => false

end

mutual

theorem beq_iff_eq : (a b : Json) → (beq a b = true ↔ a = b)
  | null, b => by cases b <;> simp [beq]
  | bool x, b => by cases b <;> simp [beq]
  | int x, b => by cases b <;> simp [beq]
  | double x, b => by cases b <;> simp [beq]
  | string x, b => by cases b <;> simp [beq]
  | array l, b => by
    cases b <;> simp [beq]
    next l' => exact beqElements_iff_eq l l'
  | object l, b => by
    cases b <;> simp [beq]
    next l' => exact beqMembers_iff_eq l l'

theorem beqElements_iff_eq :
    (l l' : List Json) → (beqElements l l' = true ↔ l = l')
  | [], l' => by cases l' <;> simp [beqElements]
  | a :: l, [] => by simp [beqElements]
  | a :: l, b :: l' => by
    simp [beqElements, beq_iff_eq a b, beqElements_iff_eq l l']

theorem beqMembers_iff_eq :
    (l l' : List (String × Json)) → (beqMembers l l' = true ↔ l = l')
  | [], l' => by cases l' <;> simp [beqMembers]
  | (k, a) :: l, [] => by simp [beqMembers]
  | (k, a) :: l, (k', b) :: l' => by
    simp [beqMembers, beq_iff_eq a b, beqMembers_iff_eq l l', and_assoc]

end

instance : DecidableEq Json := fun a b =>
  decidable_of_iff (beq a b = true) (beq_iff_eq a b)

mutual

/-- Whether two values are the same: equal, but for the sign of a
zero. -/
def same : Json → Json → Bool
  | double x, double y => x.sameNumber y
  | array l, array l' => sameElements l l'
  | object l, object l' => sameMembers l l'
  | null, null => true
  | bool x, bool y => x == y
  | int x, int y => x == y
  | string x, string y => x == y
  | _, _ => false

/-- Whether two lists of values are the same. -/
def sameElements : List Json → List Json → Bool
  | [], [] => true
  | a :: l, b :: l' => same a b && sameElements l l'
  | _, _ => false

/-- Whether two lists of members are the same. -/
def sameMembers : List (String × Json) → List (String × Json) → Bool
  | [], [] => true
  | (k, a) :: l, (k', b) :: l' => k == k' && same a b && sameMembers l l'
  | _, _ => false

end

mutual

theorem same_refl : (a : Json) → same a a = true
  | null => rfl
  | bool _ => by simp [same]
  | int _ => by simp [same]
  | double _ => by simp [same, Double.sameNumber]
  | string _ => by simp [same]
  | array l => by simpa [same] using sameElements_refl l
  | object l => by simpa [same] using sameMembers_refl l

theorem sameElements_refl : (l : List Json) → sameElements l l = true
  | [] => rfl
  | a :: l => by simp [sameElements, same_refl a, sameElements_refl l]

theorem sameMembers_refl :
    (l : List (String × Json)) → sameMembers l l = true
  | [] => rfl
  | (k, a) :: l => by
    simp [sameMembers, same_refl a, sameMembers_refl l]

end

/-! ### Order of members -/

mutual

/-- The members of every object in a value stand in the order of their
keys, each key once. -/
def Tidy : Json → Prop
  | array l => TidyElements l
  | object l => Entries.Sorted l ∧ TidyMembers l
  | _ => True

/-- All values of a list are tidy. -/
def TidyElements : List Json → Prop
  | [] => True
  | a :: l => Tidy a ∧ TidyElements l

/-- All values of a list of members are tidy. -/
def TidyMembers : List (String × Json) → Prop
  | [] => True
  | (_, a) :: l => Tidy a ∧ TidyMembers l

end

theorem tidyElements_iff {l : List Json} :
    TidyElements l ↔ ∀ a ∈ l, Tidy a := by
  induction l with
  | nil => simp [TidyElements]
  | cons a l ih => rw [TidyElements, ih, List.forall_mem_cons]

theorem tidyMembers_iff {l : List (String × Json)} :
    TidyMembers l ↔ ∀ e ∈ l, Tidy e.2 := by
  induction l with
  | nil => simp [TidyMembers]
  | cons e l ih => rw [TidyMembers, ih, List.forall_mem_cons]

end Json

/-- A value that is tidy, as values are when they are received. -/
abbrev TidyJson : Type := { a : Json // a.Tidy }

end RemoteOps
