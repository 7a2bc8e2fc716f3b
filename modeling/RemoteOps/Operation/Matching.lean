/-
Which kind an operation is, given the kinds that are supported.

An operation matches only if exactly one of its fragments has the name
of a supported kind; that there is none or more than one is an outcome
and no error.

* `Matching.matchKind?_eq_some_iff`: the match is the one supported name
  among the fragments.
-/
import RemoteOps.Operation.Typed

namespace RemoteOps.Matching

/-- The one supported kind that an operation carries. -/
def matchKind? (o : Operation) (supported : List String) :
    Option String :=
  match o.fragmentNames.filter (supported.contains ·) with
  | [kind] => some kind
  | _ => none

/-- The typed operation; none if the operation is unsupported, ambiguous
or malformed. -/
def convert? (o : Operation) (supported : List String) :
    Option TypedOperation := do
  let kind ← matchKind? o supported
  (TypedOperation.ofOperation o kind).toOption

theorem matchKind?_eq_some_iff {o : Operation} {supported : List String}
    {kind : String} :
    matchKind? o supported = some kind
      ↔ o.fragmentNames.filter (supported.contains ·) = [kind] := by
  unfold matchKind?
  split
  · next h => rw [h]; simp
  · next h => simp only [reduceCtorEq, false_iff]; exact h kind

theorem mem_of_matchKind? {o : Operation} {supported : List String}
    {kind : String} (h : matchKind? o supported = some kind) :
    kind ∈ supported ∧ kind ∈ o.fragmentNames := by
  have : kind ∈ o.fragmentNames.filter (supported.contains ·) := by
    rw [matchKind?_eq_some_iff.1 h]; simp
  simpa [and_comm] using List.mem_filter.1 this

end RemoteOps.Matching
