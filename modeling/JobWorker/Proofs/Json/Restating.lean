/-
Objects that say the same in other words.

An object for a record may be restated: its members put in another order, members added that belong
to no field, a value written in another way, or a field left out that carries its default.  Any number
of such changes, in either direction, leaves alone what is made of the record, though not always the
record itself: a field may be left out where its value and its default only come to the same.
-/
import JobWorker.Proofs.Json.Showing
import Mathlib.Logic.Relation

namespace JobWorker.Json

namespace Shape

variable {ι α : Type} {S : Shape ι} {strays : Bool}
  {form : (i : ι) → Form (S.Holds i)} {build : S.Record → α}
  {same : ι → List Char → List Char → Prop} {default : ι → List Char → Prop}
  {members members' : List Member}

/-- One change to the members of an object.  `same` says which texts of a field may take each other's
place, and `default` which texts of a field need not be there. -/
inductive Restates (S : Shape ι) (same : ι → List Char → List Char → Prop)
    (default : ι → List Char → Prop) : List Member → List Member → Prop
  | reorder {members members' : List Member} : members.Perm members' →
      Restates S same default members members'
  | add {m : Member} {members : List Member} : m.Good false → (∀ i, S.name i ≠ m.name) →
      Restates S same default members (m :: members)
  | switch {i : ι} {name : String} {spelling value value' : List Char} {members : List Member} :
      name = S.name i → same i value value' →
      Restates S same default (⟨name, spelling, value⟩ :: members)
        (⟨name, spelling, value'⟩ :: members)
  | leaveOut {i : ι} {m : Member} {members : List Member} : stringForm m.name m.spelling →
      m.name = S.name i → default i m.value → (∀ m' ∈ members, m'.name ≠ S.name i) →
      Restates S same default (m :: members) members

/-- What some members stand for. -/
def Makes (S : Shape ι) (strays : Bool) (form : (i : ι) → Form (S.Holds i)) (build : S.Record → α)
    (members : List Member) (y : α) : Prop :=
  ∃ r, S.Gives strays form r members ∧ build r = y

theorem Gives.perm {r : S.Record} (h : S.Gives strays form r members)
    (hperm : members.Perm members') : S.Gives strays form r members' where
  spelled m hm := h.spelled m (hperm.mem_iff.2 hm)
  known m hm := h.known m (hperm.mem_iff.2 hm)
  unknown m hm := h.unknown m (hperm.mem_iff.2 hm)
  once := by
    refine (hperm.pairwise_iff ?_).1 h.once
    intro m m' hne heq i
    rw [heq]
    exact hne heq.symm i
  all i := (h.all i).imp_left fun ⟨m, hm, hi⟩ => ⟨m, hperm.mem_iff.1 hm, hi⟩

theorem Gives.add {r : S.Record} {m : Member} (h : S.Gives strays form r members)
    (hm : m.Good strays) (hnot : ∀ i, S.name i ≠ m.name) : S.Gives strays form r (m :: members) where
  spelled := List.forall_mem_cons.2 ⟨hm.spelled, h.spelled⟩
  known := List.forall_mem_cons.2 ⟨fun i hi => absurd hi (hnot i), h.known⟩
  unknown := List.forall_mem_cons.2 ⟨fun _ => hm.value, h.unknown⟩
  once := List.pairwise_cons.2 ⟨fun _ _ _ => hnot, h.once⟩
  all i := (h.all i).imp_left fun ⟨m', hm', hi⟩ => ⟨m', by simp [hm'], hi⟩

theorem Gives.remove {r : S.Record} {m : Member} (h : S.Gives strays form r (m :: members))
    (hnot : ∀ i, S.name i ≠ m.name) : S.Gives strays form r members where
  toOffers := h.toOffers.tail
  all i := by
    refine (h.all i).imp_left fun ⟨m', hm', hi⟩ => ⟨m', ?_, hi⟩
    rcases List.mem_cons.1 hm' with rfl | hm'
    · exact absurd hi.symm (hnot i)
    · exact hm'

theorem Gives.switch {r : S.Record} {i : ι} {spelling value value' : List Char} {name : String}
    (hname : Function.Injective S.name) (h : S.Gives strays form r (⟨name, spelling, value⟩ :: members))
    (hi : name = S.name i) (hform : form i (r i) value → form i (r i) value') :
    S.Gives strays form r (⟨name, spelling, value'⟩ :: members) where
  spelled := List.forall_mem_cons.2 ⟨(List.forall_mem_cons.1 h.spelled).1, h.toOffers.tail.spelled⟩
  known := by
    refine List.forall_mem_cons.2 ⟨fun j hj => ?_, h.toOffers.tail.known⟩
    obtain rfl : j = i := hname (hj.trans hi)
    exact hform ((List.forall_mem_cons.1 h.known).1 j hj)
  unknown := List.forall_mem_cons.2 ⟨fun hnot => absurd hi.symm (hnot i), h.toOffers.tail.unknown⟩
  once := List.pairwise_cons.2 ⟨(List.pairwise_cons.1 h.once).1, h.toOffers.tail.once⟩
  all j := by
    refine (h.all j).imp_left fun ⟨m, hm, hj⟩ => ?_
    rcases List.mem_cons.1 hm with rfl | hm
    · exact ⟨_, List.mem_cons_self, hj⟩
    · exact ⟨m, by simp [hm], hj⟩

variable [DecidableEq ι]

/-- A record with another value of one field. -/
def Record.put (r : S.Record) (i : ι) (x : S.Holds i) : S.Record :=
  fun j => if h : i = j then h ▸ x else r j

@[simp] theorem Record.put_self (r : S.Record) (i : ι) (x : S.Holds i) : r.put i x i = x := by
  simp [Record.put]

theorem Record.put_of_ne (r : S.Record) {i j : ι} (h : i ≠ j) (x : S.Holds i) : r.put i x j = r j := by
  simp [Record.put, h]

@[simp] theorem Record.put_eq_self (r : S.Record) (i : ι) : r.put i (r i) = r := by
  funext j
  by_cases h : i = j
  · subst h
    exact r.put_self i (r i)
  · exact r.put_of_ne h (r i)

/-- Two values of a field make no difference to what is made of a record. -/
def Alike (build : S.Record → α) (i : ι) (x y : S.Holds i) : Prop :=
  ∀ r : S.Record, build (r.put i x) = build (r.put i y)

/-- Texts that take each other's place stand for the same, and texts that need not be there for
something that is as good as the default. -/
structure Harmless (S : Shape ι) (form : (i : ι) → Form (S.Holds i)) (build : S.Record → α)
    (same : ι → List Char → List Char → Prop) (default : ι → List Char → Prop) : Prop where
  switch : ∀ {i : ι} {value value' : List Char}, same i value value' →
    ∀ x, form i x value ↔ form i x value'
  leaveOut : ∀ {i : ι} {value : List Char}, default i value → ∃ absent, S.absent i = some absent ∧
    (∃ x, form i x value) ∧ ∀ x, form i x value → Alike build i x absent

/-- A field that may be left out is left out. -/
theorem Gives.leaveOut {r : S.Record} {i : ι} {m : Member} {absent : S.Holds i}
    (hname : Function.Injective S.name) (h : S.Gives strays form r (m :: members))
    (hi : m.name = S.name i) (hothers : ∀ m' ∈ members, m'.name ≠ S.name i)
    (habsent : S.absent i = some absent) : S.Gives strays form (r.put i absent) members where
  spelled := h.toOffers.tail.spelled
  known m' hm' j hj := by
    have hne : i ≠ j := by
      rintro rfl
      exact hothers m' hm' hj.symm
    rw [r.put_of_ne hne]
    exact h.toOffers.tail.known m' hm' j hj
  unknown := h.toOffers.tail.unknown
  once := h.toOffers.tail.once
  all j := by
    by_cases hij : i = j
    · subst hij
      exact .inr (by rw [r.put_self, habsent])
    · rw [r.put_of_ne hij]
      refine (h.all j).imp_left fun ⟨m', hm', hj⟩ => ⟨m', ?_, hj⟩
      rcases List.mem_cons.1 hm' with rfl | hm'
      · exact absurd (hname (hi.symm.trans hj)) hij
      · exact hm'

/-- A field that was left out is put in. -/
theorem Gives.putIn {r : S.Record} {i : ι} {m : Member} {x : S.Holds i}
    (hname : Function.Injective S.name) (h : S.Gives strays form r members)
    (hspelled : stringForm m.name m.spelling) (hi : m.name = S.name i) (hx : form i x m.value)
    (hothers : ∀ m' ∈ members, m'.name ≠ S.name i) :
    S.Gives strays form (r.put i x) (m :: members) where
  spelled := List.forall_mem_cons.2 ⟨hspelled, h.spelled⟩
  known := by
    refine List.forall_mem_cons.2 ⟨fun j hj => ?_, fun m' hm' j hj => ?_⟩
    · obtain rfl : i = j := hname (hi.symm.trans hj.symm)
      rwa [r.put_self]
    · have hne : i ≠ j := by
        rintro rfl
        exact hothers m' hm' hj.symm
      rw [r.put_of_ne hne]
      exact h.known m' hm' j hj
  unknown := List.forall_mem_cons.2 ⟨fun hnot => absurd hi.symm (hnot i), h.unknown⟩
  once := List.pairwise_cons.2
    ⟨fun m' hm' heq _ _ => hothers m' hm' (heq.symm.trans hi), h.once⟩
  all j := by
    by_cases hij : i = j
    · subst hij
      exact .inl ⟨m, by simp, hi⟩
    · rw [r.put_of_ne hij]
      exact (h.all j).imp_left fun ⟨m', hm', hj⟩ => ⟨m', by simp [hm'], hj⟩

/-! ### What changes of members leave alone -/

/-- One change leaves alone what the members stand for. -/
theorem Restates.makes_iff (hname : Function.Injective S.name)
    (hharmless : S.Harmless form build same default) (h : S.Restates same default members members')
    (y : α) : S.Makes strays form build members y ↔ S.Makes strays form build members' y := by
  cases h with
  | reorder hperm =>
    exact exists_congr fun r => and_congr_left fun _ => ⟨fun h => h.perm hperm, fun h => h.perm hperm.symm⟩
  | add hm hnot =>
    exact exists_congr fun r => and_congr_left fun _ =>
      ⟨fun h => h.add (hm.weaken strays) hnot, fun h => h.remove hnot⟩
  | switch hi hsame =>
    exact exists_congr fun r => and_congr_left fun _ =>
      ⟨fun h => h.switch hname hi (hharmless.switch hsame _).1,
        fun h => h.switch hname hi (hharmless.switch hsame _).2⟩
  | @leaveOut i m _ hspelled hi hdefault hothers =>
    obtain ⟨absent, habsent, ⟨x, hx⟩, halike⟩ := hharmless.leaveOut hdefault
    constructor
    · rintro ⟨r, hgives, rfl⟩
      have hr := halike _ (hgives.known m (by simp) i hi.symm) r
      rw [r.put_eq_self] at hr
      exact ⟨r.put i absent, hgives.leaveOut hname hi hothers habsent, hr.symm⟩
    · rintro ⟨r, hgives, rfl⟩
      have hr := halike x hx r
      obtain ⟨m', hm', heq⟩ | hleft := hgives.all i
      · exact absurd heq (hothers m' hm')
      · obtain rfl : absent = r i := Option.some.inj (habsent.symm.trans hleft)
        rw [r.put_eq_self] at hr
        exact ⟨r.put i x, hgives.putIn hname hspelled hi hx hothers, hr⟩

/-- Any number of changes, one way or the other, leaves it alone too. -/
theorem makes_iff_of_eqvGen (hname : Function.Injective S.name)
    (hharmless : S.Harmless form build same default)
    (h : Relation.EqvGen (S.Restates same default) members members') (y : α) :
    S.Makes strays form build members y ↔ S.Makes strays form build members' y := by
  induction h with
  | rel _ _ h => exact h.makes_iff hname hharmless y
  | refl => exact Iff.rfl
  | symm _ _ _ ih => exact ih.symm
  | trans _ _ _ _ _ ih ih' => exact ih.trans ih'

/-! ### Arrays -/

/-- Items of an array for a record that may take each other's place, one by one. -/
inductive Relists (same : ι → List Char → List Char → Prop) :
    List ι → List (List Char) → List (List Char) → Prop
  | nil {fields : List ι} : Relists same fields [] []
  | cons {i : ι} {fields : List ι} {text text' : List Char} {texts texts' : List (List Char)} :
      text = text' ∨ same i text text' → Relists same fields texts texts' →
      Relists same (i :: fields) (text :: texts) (text' :: texts')

omit [DecidableEq ι] in
theorem lists_cons_iff {r : S.Record} {i : ι} {fields : List ι} {text : List Char}
    {texts : List (List Char)} : S.Lists form r (i :: fields) (text :: texts) ↔
      form i (r i) text ∧ S.Lists form r fields texts := by
  constructor
  · rintro ⟨given, left, heq, hgiven, hleft⟩
    cases hgiven with
    | cons htext hgiven =>
      cases heq
      exact ⟨htext, _, left, rfl, hgiven, hleft⟩
  · rintro ⟨htext, hmore⟩
    exact hmore.cons htext

omit [DecidableEq ι] in
/-- Items that take each other's place are those of the same records. -/
theorem Relists.lists_iff (hswitch : ∀ {i value value'}, same i value value' →
    ∀ x, form i x value ↔ form i x value') {fields : List ι} {texts texts' : List (List Char)}
    (h : Relists same fields texts texts') (r : S.Record) :
    S.Lists form r fields texts ↔ S.Lists form r fields texts' := by
  induction h with
  | nil => exact Iff.rfl
  | cons hsame _ ih =>
    rw [lists_cons_iff, lists_cons_iff, ih]
    refine and_congr_left fun _ => ?_
    rcases hsame with rfl | hsame
    · exact Iff.rfl
    · exact hswitch hsame _

/-! ### Texts that say the same -/

/-- Two texts are the same, or both are objects and the members of the one restate those of the
other, or both are arrays and their items may take each other's place. -/
inductive SaysTheSame (S : Shape ι) (strays : Bool) (same : ι → List Char → List Char → Prop)
    (default : ι → List Char → Prop) : List Char → List Char → Prop
  | refl {text : List Char} : WellFormed strays text → SaysTheSame S strays same default text text
  | object {text text' : List Char} {members members' : List Member} :
      ObjectText members text → (∀ m ∈ members, m.Good strays) →
      ObjectText members' text' → (∀ m ∈ members', m.Good strays) →
      Relation.EqvGen (S.Restates same default) members members' →
      SaysTheSame S strays same default text text'
  | array {text text' : List Char} {items items' : List (List Char)} :
      ArrayText items text → (∀ item ∈ items, WellFormed strays item) →
      ArrayText items' text' → (∀ item ∈ items', WellFormed strays item) →
      Relists same S.fields items items' → SaysTheSame S strays same default text text'

/-- **Restating.**  Texts that say the same stand for the same. -/
theorem SaysTheSame.made_iff (hname : Function.Injective S.name)
    (hharmless : S.Harmless form build same default)
    (hform : ∀ i {x text}, form i x text → WellFormed strays text) {text text' : List Char}
    (h : S.SaysTheSame strays same default text text') (y : α) :
    (∃ r, S.textForm strays form r text ∧ build r = y) ↔
      ∃ r, S.textForm strays form r text' ∧ build r = y := by
  cases h with
  | refl => exact Iff.rfl
  | object htext hgood htext' hgood' hrestates =>
    simp only [textForm_iff_gives hform htext hgood, textForm_iff_gives hform htext' hgood']
    exact makes_iff_of_eqvGen hname hharmless hrestates y
  | array htext hitems htext' hitems' hrelists =>
    refine exists_congr fun r => and_congr_left fun _ => ?_
    rw [textForm_iff_lists hform htext hitems, textForm_iff_lists hform htext' hitems']
    exact hrelists.lists_iff (fun {i value value'} h => hharmless.switch (i := i) h) r

omit [DecidableEq ι] in
/-- Texts that say the same are well formed. -/
theorem SaysTheSame.wellFormed {text text' : List Char} (h : S.SaysTheSame strays same default text text') :
    WellFormed strays text ∧ WellFormed strays text' := by
  cases h with
  | refl h => exact ⟨h, h⟩
  | object htext hgood htext' hgood' _ =>
    exact ⟨wellFormed_of_objectText htext hgood, wellFormed_of_objectText htext' hgood'⟩
  | array htext hitems htext' hitems' _ =>
    exact ⟨wellFormed_of_arrayText htext hitems, wellFormed_of_arrayText htext' hitems'⟩

end Shape

end JobWorker.Json
