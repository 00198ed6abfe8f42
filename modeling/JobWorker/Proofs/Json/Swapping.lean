/-
One field of a record gets another value.

In an object the value behind the name of the field is another one, and in an array the item at the
field's place.  Everything else stays, so the two texts stand for records that differ in this field
alone.  Every text of a record has a place for a field that may not be left out, and any value may be put
there.
-/
import JobWorker.Proofs.Json.Restating

namespace JobWorker.Json

namespace Shape

variable {ι : Type} {S : Shape ι} {strays : Bool} {form : (i : ι) → Form (S.Holds i)}
  {i : ι} {value value' text text' : List Char} {r r' : S.Record}

/-- Two texts that differ in the value of one field. -/
inductive Swaps (S : Shape ι) (strays : Bool) (i : ι) (value value' : List Char) :
    List Char → List Char → Prop
  | object {before after : List Member} {spelling text text' : List Char} :
      (∀ m ∈ before ++ after, m.Good strays) → stringForm (S.name i) spelling →
      WellFormed strays value → WellFormed strays value' →
      ObjectText (before ++ ⟨S.name i, spelling, value⟩ :: after) text →
      ObjectText (before ++ ⟨S.name i, spelling, value'⟩ :: after) text' →
      Swaps S strays i value value' text text'
  | array {before after : List (List Char)} {text text' : List Char} :
      (∀ item ∈ before ++ after, WellFormed strays item) → S.fields[before.length]? = some i →
      WellFormed strays value → WellFormed strays value' →
      ArrayText (before ++ value :: after) text → ArrayText (before ++ value' :: after) text' →
      Swaps S strays i value value' text text'

theorem Swaps.symm (h : S.Swaps strays i value value' text text') :
    S.Swaps strays i value' value text' text := by
  cases h with
  | object hothers hspelling hvalue hvalue' htext htext' =>
    exact .object hothers hspelling hvalue' hvalue htext' htext
  | array hothers hplace hvalue hvalue' htext htext' =>
    exact .array hothers hplace hvalue' hvalue htext' htext

theorem good_middle {before after : List Member} {m : Member}
    (hothers : ∀ m' ∈ before ++ after, m'.Good strays) (hm : m.Good strays) :
    ∀ m' ∈ before ++ m :: after, m'.Good strays := by
  intro m' hm'
  rcases List.mem_cons.1 (List.perm_middle.mem_iff.1 hm') with rfl | hm'
  · exact hm
  · exact hothers m' hm'

theorem wellFormed_middle {before after : List (List Char)} {item : List Char}
    (hothers : ∀ item' ∈ before ++ after, WellFormed strays item') (hitem : WellFormed strays item) :
    ∀ item' ∈ before ++ item :: after, WellFormed strays item' := by
  intro item' hitem'
  rcases List.mem_cons.1 (List.perm_middle.mem_iff.1 hitem') with rfl | hitem'
  · exact hitem
  · exact hothers item' hitem'

/-- What stands at the place of the field is a text of its value. -/
theorem Swaps.form_left (hform : ∀ i {x text}, form i x text → WellFormed strays text)
    (h : S.Swaps strays i value value' text text') (hr : S.textForm strays form r text) :
    form i (r i) value := by
  cases h with
  | object hothers hspelling hvalue _ htext _ =>
    have hgives := (textForm_iff_gives hform htext (good_middle hothers ⟨hspelling, hvalue⟩)).1 hr
    exact hgives.known _ List.mem_append_cons_self i rfl
  | array hothers hplace hvalue _ htext _ =>
    have hlists := (textForm_iff_lists hform htext (wellFormed_middle hothers hvalue)).1 hr
    exact (hlists.form_getElem hplace).1 value (by simp)

/-! ### Records with another value of the field -/

theorem Lists.congr {fields : List ι} {items : List (List Char)} (h : S.Lists form r fields items)
    (heq : ∀ j ∈ fields, r' j = r j) : S.Lists form r' fields items := by
  obtain ⟨given, left, rfl, hgiven, hleft⟩ := h
  have hgiven' : ∀ j ∈ given, r' j = r j := fun j hj => heq j (List.mem_append_left _ hj)
  refine ⟨given, left, rfl, ?_, fun j hj => ?_⟩
  · rw [List.forall₂_iff_get] at hgiven ⊢
    refine ⟨hgiven.1, fun k hk hk' => ?_⟩
    rw [hgiven' _ (List.get_mem given ⟨k, hk⟩)]
    exact hgiven.2 k hk hk'
  · rw [heq j (List.mem_append_right _ hj)]
    exact hleft j hj

variable [DecidableEq ι]

theorem Gives.replace {x : S.Holds i} {spelling : List Char} {members : List Member}
    (hname : Function.Injective S.name)
    (h : S.Gives strays form r (⟨S.name i, spelling, value⟩ :: members)) (hx : form i x value') :
    S.Gives strays form (r.put i x) (⟨S.name i, spelling, value'⟩ :: members) where
  spelled := List.forall_mem_cons.2 ⟨(List.forall_mem_cons.1 h.spelled).1, h.toOffers.tail.spelled⟩
  known := by
    refine List.forall_mem_cons.2 ⟨fun j hj => ?_, fun m hm j hj => ?_⟩
    · obtain rfl : j = i := hname hj
      rwa [r.put_self]
    · have hne : i ≠ j := by
        rintro rfl
        exact h.toOffers.name_ne hm hj rfl
      rw [r.put_of_ne hne]
      exact h.toOffers.tail.known m hm j hj
  unknown := List.forall_mem_cons.2 ⟨fun hnot => absurd rfl (hnot i), h.toOffers.tail.unknown⟩
  once := List.pairwise_cons.2 ⟨(List.pairwise_cons.1 h.once).1, h.toOffers.tail.once⟩
  all j := by
    by_cases hij : i = j
    · subst hij
      exact .inl ⟨_, List.mem_cons_self, rfl⟩
    · rw [r.put_of_ne hij]
      refine (h.all j).imp_left fun ⟨m, hm, hj⟩ => ?_
      rcases List.mem_cons.1 hm with rfl | hm
      · exact absurd (hname hj) hij
      · exact ⟨m, List.mem_cons_of_mem _ hm, hj⟩

/-- The item at the place of a field is replaced; the induction is on the items before it. -/
theorem Lists.replace {x : S.Holds i} {before after : List (List Char)} {fields : List ι}
    (hnodup : fields.Nodup) (hplace : fields[before.length]? = some i)
    (h : S.Lists form r fields (before ++ value :: after)) (hx : form i x value') :
    S.Lists form (r.put i x) fields (before ++ value' :: after) := by
  induction before generalizing fields with
  | nil =>
    cases fields with
    | nil => cases hplace
    | cons j fields =>
      obtain rfl : j = i := Option.some.inj hplace
      obtain ⟨hj, -⟩ := List.nodup_cons.1 hnodup
      rw [List.nil_append, lists_cons_iff] at h ⊢
      refine ⟨by rwa [r.put_self], h.2.congr fun j' hj' => r.put_of_ne ?_ x⟩
      rintro rfl
      exact hj hj'
  | cons item before ih =>
    cases fields with
    | nil => cases hplace
    | cons j fields =>
      obtain ⟨hj, hnodup⟩ := List.nodup_cons.1 hnodup
      have hplace : fields[before.length]? = some i := hplace
      have hne : i ≠ j := by
        rintro rfl
        exact hj (List.mem_of_getElem? hplace)
      rw [List.cons_append, lists_cons_iff] at h ⊢
      rw [r.put_of_ne hne]
      exact ⟨h.1, ih hnodup hplace h.2⟩

/-- With a text of another value at the place of the field, the record has the other value. -/
theorem Swaps.textForm (hname : Function.Injective S.name) (hnodup : S.fields.Nodup)
    (hform : ∀ i {x text}, form i x text → WellFormed strays text)
    (h : S.Swaps strays i value value' text text') (hr : S.textForm strays form r text)
    {x : S.Holds i} (hx : form i x value') : S.textForm strays form (r.put i x) text' := by
  cases h with
  | object hothers hspelling hvalue hvalue' htext htext' =>
    have hgives := (textForm_iff_gives hform htext (good_middle hothers ⟨hspelling, hvalue⟩)).1 hr
    have hgives' := (hgives.perm List.perm_middle).replace hname hx
    rw [textForm_iff_gives hform htext' (good_middle hothers ⟨hspelling, hvalue'⟩)]
    exact hgives'.perm List.perm_middle.symm
  | array hothers hplace hvalue hvalue' htext htext' =>
    have hlists := (textForm_iff_lists hform htext (wellFormed_middle hothers hvalue)).1 hr
    rw [textForm_iff_lists hform htext' (wellFormed_middle hothers hvalue')]
    exact hlists.replace hnodup hplace hx

/-- **Swapping one value.**  The records of the one text are those of the other with another value of
the field, provided that no text stands for two records. -/
theorem Swaps.textForm_iff (hname : Function.Injective S.name) (hnodup : S.fields.Nodup)
    (hform : ∀ i {x text}, form i x text → WellFormed strays text)
    (hunique : ∀ {r r' text}, S.textForm strays form r text → S.textForm strays form r' text → r = r')
    (h : S.Swaps strays i value value' text text') (hr : S.textForm strays form r text) :
    S.textForm strays form r' text' ↔ ∃ x, form i x value' ∧ r' = r.put i x := by
  constructor
  · intro hr'
    have hback := h.symm.textForm hname hnodup hform hr' (h.form_left hform hr)
    refine ⟨r' i, h.symm.form_left hform hr', ?_⟩
    rw [hunique hr hback]
    funext j
    by_cases hij : i = j
    · subst hij
      rw [Record.put_self]
    · rw [Record.put_of_ne _ hij, Record.put_of_ne _ hij]
  · rintro ⟨x, hx, rfl⟩
    exact h.textForm hname hnodup hform hr hx

/-! ### Places of a field -/

omit [DecidableEq ι] in
/-- An object has a place for the field of each of its members. -/
theorem exists_swaps_of_member {members : List Member} {m : Member} (htext : ObjectText members text)
    (hgood : ∀ m ∈ members, m.Good strays) (hm : m ∈ members) (hi : m.name = S.name i)
    (hvalue' : WellFormed strays value') : ∃ text', S.Swaps strays i m.value value' text text' := by
  obtain ⟨name, spelling, value⟩ := m
  obtain rfl : name = S.name i := hi
  obtain ⟨before, after, rfl⟩ := List.append_of_mem hm
  have hothers : ∀ m ∈ before ++ after, m.Good strays := fun m hm =>
    hgood m (List.perm_middle.mem_iff.2 (List.mem_cons_of_mem _ hm))
  exact ⟨_, .object hothers (hgood _ hm).spelled (hgood _ hm).value hvalue' htext
    (.of_core ⟨[], padding_nil, rfl⟩)⟩

omit [DecidableEq ι] in
/-- An array has a place for the field at each of its items. -/
theorem exists_swaps_of_item {items : List (List Char)} {k : Nat} (htext : ArrayText items text)
    (hitems : ∀ item ∈ items, WellFormed strays item) (hk : items[k]? = some value)
    (hi : S.fields[k]? = some i) (hvalue' : WellFormed strays value') :
    ∃ text', S.Swaps strays i value value' text text' := by
  obtain ⟨hlt, rfl⟩ := List.getElem?_eq_some_iff.1 hk
  have hsplit : items = items.take k ++ items[k] :: items.drop (k + 1) := by
    rw [← List.drop_eq_getElem_cons hlt, List.take_append_drop]
  have hlength : (items.take k).length = k := List.length_take_of_le (Nat.le_of_lt hlt)
  have hothers : ∀ item ∈ items.take k ++ items.drop (k + 1), WellFormed strays item := by
    refine List.forall_mem_append.2 ⟨fun item h => ?_, fun item h => ?_⟩
    · exact hitems item (List.mem_of_mem_take h)
    · exact hitems item (List.mem_of_mem_drop h)
  rw [hsplit] at htext
  exact ⟨_, .array hothers (by rwa [hlength]) (hitems _ (List.getElem_mem hlt)) hvalue' htext
    (.of_core ⟨[], padding_nil, rfl⟩)⟩

omit [DecidableEq ι] in
/-- Every text of a record has a place for a field that may not be left out. -/
theorem exists_swaps (hform : ∀ i {x text}, form i x text → WellFormed strays text)
    (hr : S.textForm strays form r text) (habsent : S.absent i = none) :
    ∃ value, form i (r i) value ∧ ∀ value', WellFormed strays value' →
      ∃ text', S.Swaps strays i value value' text text' := by
  rcases hr with h | h
  · obtain ⟨members, hgives, htext⟩ := objectForm_iff.1 h
    rcases hgives.all i with ⟨m, hm, hi⟩ | hleft
    · exact ⟨m.value, hgives.known m hm i hi.symm, fun value' hvalue' =>
        exists_swaps_of_member htext (hgives.toOffers.good hform) hm hi hvalue'⟩
    · rw [habsent] at hleft
      cases hleft
  · obtain ⟨items, hlists, htext⟩ := tupleForm_iff.1 h
    obtain ⟨k, hk⟩ := List.mem_iff_getElem?.1 (S.complete i)
    obtain ⟨hgiven, hleft⟩ := hlists.form_getElem hk
    cases hitem : items[k]? with
    | none =>
      have hnone := hleft hitem
      rw [habsent] at hnone
      cases hnone
    | some value =>
      exact ⟨value, hgiven value hitem, fun value' hvalue' =>
        exists_swaps_of_item htext (hlists.wellFormed hform) hitem hk hvalue'⟩

end Shape

end JobWorker.Json
