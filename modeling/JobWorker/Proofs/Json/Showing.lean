/-
Which text of a record belongs to a field.

An object shows a field by its name and an array by its place; either may leave the field out.  What a
text shows of a field is a text of the field's value in every record that the text stands for, and a
field that is not shown has its default there.
-/
import JobWorker.Proofs.Json.Parts

namespace JobWorker.Json

namespace Shape

variable {ι : Type} {S : Shape ι} {strays : Bool} {form : (i : ι) → Form (S.Holds i)}
  {r : S.Record} {members : List Member} {items : List (List Char)}
  {text : List Char}

/-- An object stands for the records that its members give. -/
theorem textForm_iff_gives (hform : ∀ i {x text}, form i x text → WellFormed strays text)
    (htext : ObjectText members text) (hmembers : ∀ m ∈ members, m.Good strays) :
    S.textForm strays form r text ↔ S.Gives strays form r members := by
  refine ⟨?_, fun h => .inl (objectForm_iff.2 ⟨_, h, htext⟩)⟩
  rintro (h | h)
  · obtain ⟨given, hgives, hgiven⟩ := objectForm_iff.1 h
    rwa [objectText_inj htext hgiven hmembers (hgives.toOffers.good hform)]
  · obtain ⟨texts, -, htexts⟩ := tupleForm_iff.1 h
    exact (objectText_ne_arrayText htext htexts).elim

/-- An array stands for the records that its items list. -/
theorem textForm_iff_lists (hform : ∀ i {x text}, form i x text → WellFormed strays text)
    (htext : ArrayText items text) (hitems : ∀ item ∈ items, WellFormed strays item) :
    S.textForm strays form r text ↔ S.Lists form r S.fields items := by
  refine ⟨?_, fun h => .inr (tupleForm_iff.2 ⟨_, h, htext⟩)⟩
  rintro (h | h)
  · obtain ⟨given, -, hgiven⟩ := objectForm_iff.1 h
    exact (objectText_ne_arrayText hgiven htext).elim
  · obtain ⟨texts, hlists, htexts⟩ := tupleForm_iff.1 h
    rwa [arrayText_inj htext htexts hitems (hlists.wellFormed hform)]

/-- What a text shows of a field: the value of the first member with its name, or the item at its
place. -/
inductive Shows (S : Shape ι) (strays : Bool) (i : ι) (value? : Option (List Char)) : List Char → Prop
  | object {members : List Member} {text : List Char} : ObjectText members text →
      (∀ m ∈ members, m.Good strays) →
      value? = (members.find? fun m => m.name = S.name i).map Member.value → Shows S strays i value? text
  | array {items : List (List Char)} {text : List Char} {k : Nat} : ArrayText items text →
      (∀ item ∈ items, WellFormed strays item) → S.fields[k]? = some i → value? = items[k]? →
      Shows S strays i value? text

/-- Every text of a record shows every field, or that it is missing. -/
theorem exists_shows (hform : ∀ i {x text}, form i x text → WellFormed strays text)
    (h : S.textForm strays form r text) (i : ι) : ∃ value?, S.Shows strays i value? text := by
  rcases h with h | h
  · obtain ⟨members, hgives, htext⟩ := objectForm_iff.1 h
    exact ⟨_, .object htext (hgives.toOffers.good hform) rfl⟩
  · obtain ⟨texts, hlists, htext⟩ := tupleForm_iff.1 h
    obtain ⟨k, hk⟩ := List.mem_iff_getElem?.1 (S.complete i)
    exact ⟨_, .array htext (hlists.wellFormed hform) hk rfl⟩

/-- The item at the place of a field is a text of its value. -/
theorem Lists.form_getElem {fields : List ι} (h : S.Lists form r fields items) {k : Nat} {i : ι}
    (hk : fields[k]? = some i) :
    (∀ value ∈ items[k]?, form i (r i) value) ∧ (items[k]? = none → S.absent i = some (r i)) := by
  obtain ⟨given, left, rfl, hgiven, hleft⟩ := h
  have hlength := hgiven.length_eq
  by_cases hlt : k < given.length
  · rw [List.getElem?_append_left hlt, List.getElem?_eq_getElem hlt] at hk
    obtain rfl := Option.some.inj hk
    have hlt' : k < items.length := hlength ▸ hlt
    have hitem : items[k]? = some items[k] := List.getElem?_eq_getElem hlt'
    refine ⟨fun value hvalue => ?_, fun hnone => by simp [hitem] at hnone⟩
    obtain rfl := Option.some.inj (hitem.symm.trans hvalue)
    exact (List.forall₂_iff_get.1 hgiven).2 k hlt _
  · rw [List.getElem?_append_right (Nat.le_of_not_lt hlt)] at hk
    have hitem : items[k]? = none := List.getElem?_eq_none (by omega)
    exact ⟨by simp [hitem], fun _ => hleft i (List.mem_of_getElem? hk)⟩

/-- What a text shows of a field is a text of its value; a field that it does not show has its
default. -/
theorem form_of_shows (hform : ∀ i {x text}, form i x text → WellFormed strays text)
    (h : S.textForm strays form r text) {i : ι} {value? : Option (List Char)}
    (hshows : S.Shows strays i value? text) :
    (∀ value ∈ value?, form i (r i) value) ∧ (value? = none → S.absent i = some (r i)) := by
  cases hshows with
  | @object members _ htext hgood heq =>
    have hgives := (textForm_iff_gives hform htext hgood).1 h
    subst heq
    cases hfind : members.find? fun m => m.name = S.name i with
    | none =>
      refine ⟨by simp, fun _ => ?_⟩
      obtain ⟨m, hm, hi⟩ | habsent := hgives.all i
      · have := List.find?_eq_none.1 hfind m hm
        simp [hi] at this
      · exact habsent
    | some m =>
      have hi : m.name = S.name i := by simpa using List.find?_some hfind
      exact ⟨by simpa using hgives.known m (List.mem_of_find?_eq_some hfind) i hi.symm, by simp⟩
  | array htext hitems hk heq =>
    subst heq
    exact ((textForm_iff_lists hform htext hitems).1 h).form_getElem hk

end Shape

end JobWorker.Json
