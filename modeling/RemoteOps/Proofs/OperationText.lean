/-
Operations in compact text.

An operation may be read from an object or from an array, with its
members in any order, with escapes and repetitions.  What is written of
it has one form, and reads back as the same operation.

* `Operation.legible_of_ofText`: the fragments of an operation that is
  read are in order, in range, and not nested too deeply;
* `Operation.exists_tidyOperation_of_ofText`: so the operation is tidy,
  whatever its kind;
* `Operation.ofText_render`: an operation with such fragments and without
  doubles reads back;
* `Operation.stable_of_ofText`: so does every one that was read.
-/
import RemoteOps.Operation.FromText
import RemoteOps.Proofs.Json.RoundTrip
import RemoteOps.Proofs.TurningBack

namespace RemoteOps.Operation

open Json (readComma? readColon renderChars renderString renderMembers
  openContainer maxDepth fuelFor)

/-! ### What is read -/

/-- Fragments are in order, in range, and can be read at a depth. -/
def Legible (depth : Nat) (d : Dict Json) : Prop :=
  (Json.ofDict d).Legible depth

lemma legible_empty {depth : Nat} (hd : 1 < depth) :
    Legible depth .empty :=
  ⟨⟨Entries.sorted_nil, trivial⟩, hd, trivial⟩

lemma legible_of_readFragments {fuel depth : Nat} {cs rest : List Char}
    {d : Dict Json} (h : readFragments fuel depth cs = .ok (d, rest)) :
    Legible depth d := by
  unfold readFragments at h
  split at h
  · split at h
    · obtain ⟨inner, hinner, h⟩ := exists_of_bind_eq_ok h
      obtain ⟨⟨l, cs⟩, hl, h⟩ := exists_of_bind_eq_ok h
      cases h
      obtain ⟨hlt, rfl⟩ := Json.lt_of_openContainer hinner
      obtain ⟨ht, hf⟩ := Json.legible_of_readMembers fuel hl
      exact Json.legible_ofMembers hlt ht hf
    · cases h
  · cases h

/-- The fragments among the fields, if they are read already. -/
def Fields.Legible (depth : Nat) (f : Fields) : Prop :=
  ∀ d, f.fragments = some d → Operation.Legible depth d

lemma Fields.legible_readValue {f f' : Fields} {fuel depth : Nat}
    {name : String} {cs rest : List Char} (hf : f.Legible depth)
    (h : f.readValue fuel depth name cs = .ok (f', rest)) :
    f'.Legible depth := by
  unfold readValue at h
  split at h
  · obtain ⟨⟨id, cs⟩, -, h⟩ := exists_of_bind_eq_ok h
    cases h
    exact hf
  · obtain ⟨⟨status, cs⟩, -, h⟩ := exists_of_bind_eq_ok h
    cases h
    exact hf
  · obtain ⟨⟨d, cs⟩, hd, h⟩ := exists_of_bind_eq_ok h
    cases h
    intro d' hd'
    obtain rfl := Option.some.inj hd'
    exact legible_of_readFragments hd
  · obtain ⟨⟨reason, cs⟩, -, h⟩ := exists_of_bind_eq_ok h
    cases h
    exact hf
  · obtain ⟨⟨⟨⟩, cs⟩, -, h⟩ := exists_of_bind_eq_ok h
    cases h
    exact hf

lemma legible_of_readFields {depth fuel : Nat} {first : Bool}
    {f f' : Fields} {cs rest : List Char} (hf : f.Legible depth)
    (h : readFields depth fuel first f cs = .ok (f', rest)) :
    f'.Legible depth := by
  induction fuel generalizing first f cs with
  | zero => cases h
  | succ fuel ih =>
    unfold readFields at h
    obtain ⟨⟨more, cs⟩, -, h⟩ := exists_of_bind_eq_ok h
    cases more with
    | false =>
      cases h
      exact hf
    | true =>
      obtain ⟨⟨name, cs⟩, -, h⟩ := exists_of_bind_eq_ok h
      dsimp only at h
      split at h
      · cases h
      · obtain ⟨⟨⟨⟩, cs⟩, -, h⟩ := exists_of_bind_eq_ok h
        obtain ⟨⟨f₁, cs⟩, hread, h⟩ := exists_of_bind_eq_ok h
        exact ih (Fields.legible_readValue hf hread) h

variable {fuel depth : Nat} {first : Bool} {cs rest : List Char}
  {o : Operation}

lemma legible_of_readObject (hd : 1 < depth)
    (h : readObject fuel depth cs = .ok (o, rest)) :
    Legible depth o.fragments := by
  unfold readObject at h
  obtain ⟨⟨f, cs⟩, hf, h⟩ := exists_of_bind_eq_ok h
  have hlegible := legible_of_readFields (fun d hd => by cases hd) hf
  dsimp only at h
  split at h
  · cases h
    cases hfr : f.fragments with
    | none => exact legible_empty hd
    | some d => exact hlegible d hfr
  · cases h

lemma legible_of_readArray (hd : 1 < depth)
    (h : readArray fuel depth cs = .ok (o, rest)) :
    Legible depth o.fragments := by
  unfold readArray at h
  obtain ⟨⟨more, cs⟩, -, h⟩ := exists_of_bind_eq_ok h
  cases more with
  | false => cases h
  | true =>
    obtain ⟨⟨id, cs⟩, -, h⟩ := exists_of_bind_eq_ok h
    obtain ⟨⟨more, cs⟩, -, h⟩ := exists_of_bind_eq_ok h
    cases more with
    | false => cases h
    | true =>
      obtain ⟨⟨status, cs⟩, -, h⟩ := exists_of_bind_eq_ok h
      obtain ⟨⟨more, cs⟩, -, h⟩ := exists_of_bind_eq_ok h
      cases more with
      | false =>
        cases h
        exact legible_empty hd
      | true =>
        obtain ⟨⟨d, cs⟩, hread, h⟩ := exists_of_bind_eq_ok h
        have hlegible := legible_of_readFragments hread
        obtain ⟨⟨more, cs⟩, -, h⟩ := exists_of_bind_eq_ok h
        cases more with
        | false =>
          cases h
          exact hlegible
        | true =>
          obtain ⟨⟨reason, cs⟩, -, h⟩ := exists_of_bind_eq_ok h
          obtain ⟨⟨⟨⟩, cs⟩, -, h⟩ := exists_of_bind_eq_ok h
          cases h
          exact hlegible

lemma legible_of_read (hd : 2 < depth)
    (h : read fuel depth cs = .ok (o, rest)) :
    Legible (depth - 1) o.fragments := by
  unfold read at h
  split at h
  · cases h
  · split at h
    · obtain ⟨d, hopen, h⟩ := exists_of_bind_eq_ok h
      obtain ⟨-, rfl⟩ := Json.lt_of_openContainer hopen
      exact legible_of_readArray (by omega) h
    · split at h
      · obtain ⟨d, hopen, h⟩ := exists_of_bind_eq_ok h
        obtain ⟨-, rfl⟩ := Json.lt_of_openContainer hopen
        exact legible_of_readObject (by omega) h
      · cases h

/-- The fragments of an operation that is read are in order, in range, and
no deeper than is allowed. -/
theorem legible_of_ofText {s : String} (h : ofText s = .ok o) :
    Legible (maxDepth - 1) o.fragments := by
  obtain ⟨⟨o₁, cs⟩, hread, h⟩ := exists_of_bind_eq_ok h
  obtain ⟨⟨⟩, -, h⟩ := exists_of_bind_eq_ok h
  obtain rfl : o₁ = o := Except.ok.inj h
  exact legible_of_read (by decide) hread

/-- An operation that is read is tidy, whatever its kind. -/
theorem exists_tidyOperation_of_ofText {s : String} (h : ofText s = .ok o)
    (kind : String) : ∃ o' : TidyOperation kind, o'.toOperation = o := by
  have htidy : ∀ payload, o.fragment? kind = some payload →
      payload.Tidy := fun payload hp =>
    Json.tidyMembers_iff.1 (legible_of_ofText h).tidy.2 _
      (Dict.find?_eq_some_iff.1 hp)
  exact ⟨⟨o, htidy⟩, rfl⟩

/-! ### What is written -/

lemma readText_renderString (s : String) (cs : List Char) :
    readText (renderString s ++ cs) = .ok (s, cs) := by
  rw [Json.renderString_append]
  exact Json.readString_escape s cs

lemma readTextOrNull_renderString (s : String) (cs : List Char) :
    readTextOrNull (renderString s ++ cs) = .ok (some s, cs) := by
  have htext := readText_renderString s cs
  rw [Json.renderString_append] at htext ⊢
  show readText _ >>= (fun p => pure (some p.1, p.2)) = _
  rw [htext, ok_bind]
  rfl

lemma readStatusName_renderString (status : Status) (cs : List Char) :
    readStatusName (renderString status.name ++ cs) = .ok (status, cs) := by
  rw [readStatusName, readText_renderString, ok_bind]
  dsimp only
  rw [Status.ofName?_eq_some_iff.2 rfl]
  rfl

lemma readStatus_renderString (status : Status) (depth : Nat)
    (cs : List Char) :
    readStatus depth (renderString status.name ++ cs) = .ok (status, cs) := by
  have hname := readStatusName_renderString status cs
  rw [Json.renderString_append] at hname ⊢
  exact hname

/-- Fragments read back as the object that they are. -/
lemma readFragments_renderChars {d : Dict Json} (hd : Legible depth d)
    (hi : (Json.ofDict d).Integral)
    (hf : 2 * (renderChars (.ofDict d)).length ≤ fuel + 1)
    (hend : Json.EndsNumber cs) :
    readFragments fuel depth (renderChars (.ofDict d) ++ cs)
      = .ok (d, cs) := by
  have hread := Json.readValue_renderChars (.ofDict d) hd hi hend hf
  obtain ⟨text, htext⟩ : ∃ text,
      renderChars (.ofDict d) = openBrace :: text := by
    rw [Json.ofDict]
    cases d.entries <;> exact ⟨_, rfl⟩
  rw [htext, List.cons_append] at hread ⊢
  -- the object that is read is made of the same members
  obtain ⟨inner, hinner, h⟩ := exists_of_bind_eq_ok
    ((Json.readValue_brace fuel depth _).symm.trans hread)
  obtain ⟨⟨l, tail⟩, hl, h⟩ := exists_of_bind_eq_ok h
  obtain ⟨hobject, rfl⟩ := Prod.mk.inj (Except.ok.inj h)
  have hentries : Dict.ofList l = d :=
    Dict.eq_of_entries_eq (Json.object.inj hobject)
  show openContainer depth >>= (fun depth =>
    Json.readMembers fuel depth true (text ++ tail) >>= fun p =>
    pure (Dict.ofList p.1, p.2)) = _
  rw [hinner, ok_bind, hl, ok_bind, hentries]
  rfl

namespace Fields

variable (f : Fields)

lemma readValue_id (s : String) (cs : List Char) :
    f.readValue fuel depth "id" (renderChars (.string s) ++ cs)
      = .ok ({ f with id := some s }, cs) := by
  show readText (renderString s ++ cs) >>= (fun p =>
    pure ({ f with id := some p.1 }, p.2)) = _
  rw [readText_renderString, ok_bind]
  rfl

lemma readValue_status (status : Status) (cs : List Char) :
    f.readValue fuel depth "status" (renderChars status.toJson ++ cs)
      = .ok ({ f with status := some status }, cs) := by
  show readStatus depth (renderString status.name ++ cs) >>= (fun p =>
    pure ({ f with status := some p.1 }, p.2)) = _
  rw [readStatus_renderString, ok_bind]
  rfl

lemma readValue_fragments {d : Dict Json} (hd : Operation.Legible depth d)
    (hi : (Json.ofDict d).Integral)
    (hf : 2 * (renderChars (.ofDict d)).length ≤ fuel + 1)
    (hend : Json.EndsNumber cs) :
    f.readValue fuel depth "fragments" (renderChars (.ofDict d) ++ cs)
      = .ok ({ f with fragments := some d }, cs) := by
  show readFragments fuel depth (renderChars (.ofDict d) ++ cs) >>=
    (fun p => pure ({ f with fragments := some p.1 }, p.2)) = _
  rw [readFragments_renderChars hd hi hf hend, ok_bind]
  rfl

lemma readValue_reason (s : String) (cs : List Char) :
    f.readValue fuel depth "failure_reason" (renderChars (.string s) ++ cs)
      = .ok ({ f with failureReason := some (some s) }, cs) := by
  show readTextOrNull (renderString s ++ cs) >>= (fun p =>
    pure ({ f with failureReason := some p.1 }, p.2)) = _
  rw [readTextOrNull_renderString, ok_bind]
  rfl

end Fields

section Steps

variable {name : String} {a : Json} {f f' : Fields} {text tail : List Char}
  {l : List (String × Json)}

/-- One field more. -/
lemma readFields_cons
    (hcomma : readComma? closeBrace first text
      = .ok (true, renderString name ++ ':' :: (renderChars a ++ cs)))
    (hhas : f.has name = false)
    (ha : f.readValue fuel depth name (renderChars a ++ cs) = .ok (f', cs)) :
    readFields depth (fuel + 1) first f text
      = readFields depth fuel false f' cs := by
  rw [readFields, hcomma, ok_bind]
  dsimp only
  rw [Json.readKey_renderString, ok_bind]
  dsimp only
  rw [hhas, if_neg Bool.false_ne_true]
  show readColon (':' :: (renderChars a ++ cs)) >>= _ = _
  rw [Json.readColon_cons, ok_bind]
  dsimp only
  rw [ha, ok_bind]

/-- A field after the first one. -/
lemma readFields_next (hhas : f.has name = false)
    (ha : f.readValue fuel depth name
      (renderChars a ++ (renderMembers l ++ tail))
      = .ok (f', renderMembers l ++ tail)) :
    readFields depth (fuel + 1) false f
        (renderMembers ((name, a) :: l) ++ tail)
      = readFields depth fuel false f' (renderMembers l ++ tail) := by
  refine readFields_cons ?_ hhas ha
  rw [renderMembers]
  simp only [List.cons_append, List.append_assoc]
  rw [Json.renderString_append]
  exact Json.readComma?_next rfl (by decide) (by decide)

end Steps

/-- The text of an operation after its opening bracket. -/
def body (o : Operation) : List Char :=
  renderString "id" ++ ':' :: (renderChars (.string o.id)
    ++ (renderMembers (("status", o.status.toJson)
      :: ("fragments", .ofDict o.fragments) :: o.reasonMember)
      ++ [closeBrace]))

lemma toList_render (o : Operation) :
    o.render.toList = openBrace :: o.body := by
  rw [render, Json.render, String.toList_ofList]
  simp [written, body, renderChars, openBrace, closeBrace]

lemma length_fragments_lt (o : Operation) :
    (renderChars (.ofDict o.fragments)).length < o.body.length := by
  simp only [body, renderMembers, List.length_append, List.length_cons]
  omega

/-- The fields of an operation read back one after the other. -/
lemma readFields_body (hl : Legible depth o.fragments)
    (hi : (Json.ofDict o.fragments).Integral)
    (hf : 2 * (renderChars (.ofDict o.fragments)).length ≤ fuel) :
    readFields depth (fuel + 5) true {} o.body
      = .ok (⟨o.id, o.status, o.fragments, o.failureReason.map some⟩, []) :=
  calc
    readFields depth (fuel + 5) true {} o.body
      = readFields depth (fuel + 4) false ⟨o.id, none, none, none⟩
        (renderMembers (("status", o.status.toJson)
          :: ("fragments", .ofDict o.fragments) :: o.reasonMember)
          ++ [closeBrace]) := by
      refine readFields_cons ?_ rfl (Fields.readValue_id {} o.id _)
      exact Json.readComma?_first rfl (by decide)
    _ = readFields depth (fuel + 3) false ⟨o.id, o.status, none, none⟩
        (renderMembers (("fragments", .ofDict o.fragments)
          :: o.reasonMember) ++ [closeBrace]) :=
      readFields_next rfl (Fields.readValue_status _ o.status _)
    _ = readFields depth (fuel + 2) false
        ⟨o.id, o.status, o.fragments, none⟩
        (renderMembers o.reasonMember ++ [closeBrace]) :=
      readFields_next rfl (Fields.readValue_fragments _ hl hi (by omega)
        (Json.endsNumber_members o.reasonMember []))
    _ = .ok (⟨o.id, o.status, o.fragments, o.failureReason.map some⟩,
        []) := by
      rw [reasonMember]
      cases o.failureReason with
      | none => rfl
      | some reason =>
        exact readFields_next (l := []) rfl
          (Fields.readValue_reason _ reason _)

/-- What is written of an operation without doubles reads back. -/
theorem ofText_render (hl : Legible (maxDepth - 1) o.fragments)
    (hi : (Json.ofDict o.fragments).Integral) :
    ofText o.render = .ok o := by
  have hlt := o.length_fragments_lt
  have hfuel : fuelFor (openBrace :: o.body)
      = 2 * o.body.length - 1 + 5 := by
    rw [fuelFor, List.length_cons]
    omega
  have henough : 2 * (renderChars (.ofDict o.fragments)).length
      ≤ 2 * o.body.length - 1 := by omega
  have hreason : (o.failureReason.map some).getD none = o.failureReason := by
    cases o.failureReason <;> rfl
  have hread : read (fuelFor (openBrace :: o.body)) maxDepth
      (openBrace :: o.body) = .ok (o, []) := by
    show readObject (fuelFor (openBrace :: o.body)) (maxDepth - 1) o.body = _
    rw [readObject, hfuel, readFields_body hl hi henough, ok_bind]
    dsimp only
    rw [hreason]
    rfl
  rw [ofText, toList_render, hread]
  rfl

/-- An operation that was read from a text, in which there is no double,
reads back from the text that is written of it, and is written in the same
way again. -/
theorem stable_of_ofText {s : String} (h : ofText s = .ok o)
    (hi : ∀ e ∈ o.fragments.entries, e.2.Integral) :
    ofText o.render = .ok o
      ∧ (ofText o.render).map render = .ok o.render := by
  have hback : ofText o.render = .ok o :=
    ofText_render (legible_of_ofText h) (Json.integralMembers_iff.2 hi)
  exact ⟨hback, by rw [hback]; rfl⟩

/-- The text of an operation that is an array of its fields, with escapes,
a status that is an object, and a fragment that comes twice. -/
def arrayText : String :=
  "[\"\\u0061\\ud83d\\ude00\", \x7b\"FAILED\": null\x7d, "
    ++ "\x7b\"k\": 1.5, \"k\": [18446744073709551615, \x7b\x7d, -7]\x7d, "
    ++ "\"\\u0008\"]"

/-- The operation that it holds. -/
def arrayOperation : Operation where
  id := "a😀"
  status := .failed
  fragments := .ofList
    [("k", .array [.int 18446744073709551615, .object [], .int (-7)])]
  failureReason := some (String.singleton (Char.ofNat 8))

/-- It is written as an object, and reads back. -/
theorem stable_arrayText :
    ofText arrayText = .ok arrayOperation
      ∧ (∀ e ∈ arrayOperation.fragments.entries, e.2.Integral)
      ∧ (ofText arrayOperation.render = .ok arrayOperation
        ∧ (ofText arrayOperation.render).map render
          = .ok arrayOperation.render) := by
  have h : ofText arrayText = .ok arrayOperation := by
    have hok : (ofText arrayText).toOption = some arrayOperation := by
      decide +kernel
    cases hr : ofText arrayText with
    | error e =>
      rw [hr] at hok
      cases hok
    | ok o =>
      rw [hr] at hok
      exact congrArg Except.ok (Option.some.inj hok)
  have hi : ∀ e ∈ arrayOperation.fragments.entries, e.2.Integral := by
    intro e he
    obtain rfl := List.mem_singleton.1 he
    exact ⟨trivial, trivial, trivial, trivial⟩
  exact ⟨h, hi, stable_of_ofText h hi⟩

end RemoteOps.Operation
