/-
Records are read from objects in any order and from arrays in theirs.

The form of a record follows its shape: the members of an object may stand in any order, each name
may be spelled in any way, members under other names only have to be well formed, and a field may be
left out where its value is what the reader takes instead.  An array lists the values of all fields.

The values read so far never disagree with the record (`Agrees`).  That each member is taken at most
once comes from the form, that no field is left without a value at the end from its last condition.
-/
import JobWorker.Json.Shape
import JobWorker.Proofs.Json.Members
import JobWorker.Proofs.Json.Readers

namespace JobWorker.Json

namespace Shape

variable {ι : Type} (S : Shape ι) (strays : Bool) (form : (i : ι) → Form (S.Holds i))

/-- Members that may stand in an object for a record. -/
structure Offers (r : S.Record) (members : List Member) : Prop where
  /-- Every name is spelled in some way. -/
  spelled : ∀ m ∈ members, stringForm m.name m.spelling
  /-- A member with the name of a field has the field's value. -/
  known : ∀ m ∈ members, ∀ i, S.name i = m.name → form i (r i) m.value
  /-- Any other member is well formed. -/
  unknown : ∀ m ∈ members, (∀ i, S.name i ≠ m.name) → WellFormed strays m.value
  /-- No field is given twice. -/
  once : members.Pairwise fun m m' => m.name = m'.name → ∀ i, S.name i ≠ m.name

/-- Members that make up an object for a record. -/
structure Gives (r : S.Record) (members : List Member) : Prop extends
    S.Offers strays form r members where
  /-- Every field is given, or has the value that it has when it is left out. -/
  all : ∀ i, (∃ m ∈ members, m.name = S.name i) ∨ S.absent i = some (r i)

/-- The objects that stand for a record. -/
def objectForm : Form S.Record := fun r =>
  Padded fun inner => ∃ blank members, Padding blank ∧ S.Gives strays form r members ∧
    inner = enclosed '\x7b' '\x7d' blank (members.map Member.text)

/-- The arrays that stand for a record: the values of all fields, in the order of the fields. -/
def arrayForm : Form S.Record := fun r =>
  Padded fun inner => ∃ blank, ∃ values : ι → List Char, Padding blank ∧
    (∀ i, form i (r i) (values i)) ∧ inner = enclosed '[' ']' blank (S.fields.map values)

/-- The arrays that stand for a record when they may end early: the values of the first fields, where
the others have the values that they have when they are left out. -/
def tupleForm : Form S.Record := fun r =>
  Padded fun inner => ∃ blank given left texts, Padding blank ∧ S.fields = given ++ left ∧
    List.Forall₂ (fun i text => form i (r i) text) given texts ∧
    (∀ i ∈ left, S.absent i = some (r i)) ∧ inner = enclosed '[' ']' blank texts

/-- The texts that stand for a record. -/
def recordForm : Form S.Record := fun r text => S.objectForm strays form r text ∨ S.arrayForm form r text

variable {S}

/-! ### The values read so far -/

/-- The values that have been read are those of a record. -/
def Slots.Agrees (slots : S.Slots) (r : S.Record) : Prop :=
  ∀ i, slots i = none ∨ slots i = some (r i)

theorem agrees_noSlots (r : S.Record) : S.noSlots.Agrees r := fun _ => .inl rfl

theorem Slots.Agrees.set [DecidableEq ι] {slots : S.Slots} {r : S.Record} (h : slots.Agrees r)
    (i : ι) : (slots.set i (r i)).Agrees r := by
  intro j
  by_cases hij : i = j
  · subst hij
    exact .inr (by simp [Slots.set])
  · simpa [Slots.set, hij] using h j

theorem set_self [DecidableEq ι] (slots : S.Slots) (i : ι) (x : S.Holds i) :
    slots.set i x i = some x := by
  simp [Slots.set]

theorem set_of_eq_some [DecidableEq ι] {slots : S.Slots} {r : S.Record} {j : ι} (i : ι)
    (h : slots j = some (r j)) : slots.set i (r i) j = some (r j) := by
  by_cases hij : i = j
  · subst hij
    exact set_self slots i (r i)
  · simpa [Slots.set, hij] using h

/-- Values that agree with a record and leave out only what may be left out make up the record. -/
theorem finish_of_agrees {slots : S.Slots} {r : S.Record} (h : slots.Agrees r)
    (hall : ∀ i, slots i = some (r i) ∨ S.absent i = some (r i)) : slots.finish = .ok r := by
  have hfill : ∀ i, slots.fill i = some (r i) := by
    intro i
    rcases h i with hnone | hsome
    · rcases hall i with hgiven | habsent
      · rw [hnone] at hgiven
        cases hgiven
      · simp [Slots.fill, hnone, habsent]
    · simp [Slots.fill, hsome]
  unfold Slots.finish
  split
  · next i hfind =>
    have := List.find?_some hfind
    simp [hfill] at this
  · congr 1
    funext i
    simp [hfill]

end Shape

/-! ### Members -/

namespace Shape

variable {ι : Type} {S : Shape ι} {strays : Bool} {form : (i : ι) → Form (S.Holds i)} {r : S.Record}
  {depth levels : Nat} {c : Cursor} {rest : List Char}

theorem field?_eq_none {name : String} (h : ∀ i, S.name i ≠ name) : S.field? name = none := by
  simp [field?, h]

theorem field?_name (hname : Function.Injective S.name) (i : ι) : S.field? (S.name i) = some i := by
  cases hfind : S.field? (S.name i) with
  | none =>
    have hne := List.find?_eq_none.1 hfind i (S.complete i)
    simp at hne
  | some j =>
    have heq : S.name j = S.name i := by simpa using List.find?_some hfind
    rw [hname heq]

variable [DecidableEq ι]

/-- What taking members does to the values read so far: those that were there stay, the fields
that are named get the values of a record, and nothing else changes. -/
structure Takes (r : S.Record) (named : ι → Prop) (slots slots' : S.Slots) : Prop where
  agrees : slots'.Agrees r
  given : ∀ i, named i → slots' i = some (r i)
  kept : ∀ i, slots i = some (r i) → slots' i = some (r i)
  others : ∀ i, ¬ named i → slots' i = slots i

omit [DecidableEq ι] in
theorem Takes.trans {first more : ι → Prop} {slots slots' slots'' : S.Slots}
    (h : Takes r first slots slots') (h' : Takes r more slots' slots'') :
    Takes r (fun i => first i ∨ more i) slots slots'' where
  agrees := h'.agrees
  given i hi := hi.elim (fun hfirst => h'.kept i (h.given i hfirst)) (h'.given i)
  kept i hi := h'.kept i (h.kept i hi)
  others i hi := by
    obtain ⟨hfirst, hmore⟩ := not_or.1 hi
    rw [h'.others i hmore, h.others i hfirst]

theorem takes_set {slots : S.Slots} (h : slots.Agrees r) (i : ι) :
    Takes r (fun j => j = i) slots (slots.set i (r i)) where
  agrees := h.set i
  given := by
    rintro j rfl
    exact set_self slots j (r j)
  kept j hj := set_of_eq_some i hj
  others j hj := by simp [Slots.set, Ne.symm hj]

/-- One member of an object that stands for a record is taken. -/
theorem takeMember_of_offered (hname : Function.Injective S.name)
    (hform : ∀ i, Accepts strays (S.read i) depth (form i)) (hlevels : depth ≤ levels) {m : Member}
    {slots : S.Slots} (hagrees : slots.Agrees r)
    (hknown : ∀ i, S.name i = m.name → form i (r i) m.value ∧ slots i = none)
    (hunknown : (∀ i, S.name i ≠ m.name) → WellFormed strays m.value) :
    ∃ slots', TakesMember strays (S.takeMember levels) slots m slots' ∧
      Takes r (fun i => S.name i = m.name) slots slots' := by
  by_cases h : ∃ i, S.name i = m.name
  · obtain ⟨i, hi⟩ := h
    obtain ⟨hvalue, hnone⟩ := hknown i hi
    refine ⟨slots.set i (r i), fun c rest hends hc => ?_, ?_⟩
    · obtain ⟨c₁, hcolon, hc₁⟩ := Cursor.colon_of_before hc
      obtain ⟨c', hread, hc'⟩ := (hform i).reads hvalue hlevels hends hc₁.before
      refine ⟨c', ?_, hc'⟩
      simp [takeMember, ← hi, field?_name hname, hnone, hcolon, hread, bind, Except.bind, pure,
        Except.pure]
    · have heq : (fun j => S.name j = m.name) = fun j => j = i := by
        funext j
        rw [← hi, hname.eq_iff]
      rw [heq]
      exact takes_set hagrees i
  · have hnot : ∀ i, S.name i ≠ m.name := fun i hi => h ⟨i, hi⟩
    refine ⟨slots, fun c rest hends hc => ?_, hagrees, fun i hi => absurd hi (hnot i),
      fun i hi => hi, fun i _ => rfl⟩
    obtain ⟨c₁, hcolon, hc₁⟩ := Cursor.colon_of_before hc
    obtain ⟨c', hskip, hc'⟩ :=
      Cursor.skipValue_of_wellFormed (hunknown hnot) c₁ rest hends hc₁.before
    refine ⟨c', ?_, hc'⟩
    simp [takeMember, field?_eq_none hnot, hcolon, hskip, bind, Except.bind, pure, Except.pure]

omit [DecidableEq ι] in
/-- The first of some members is named like no field that another of them is named like. -/
theorem Offers.name_ne {m m' : Member} {members : List Member}
    (h : S.Offers strays form r (m :: members)) (hm' : m' ∈ members) {i : ι} (hi : S.name i = m'.name) :
    S.name i ≠ m.name := by
  intro heq
  exact List.rel_of_pairwise_cons h.once hm' (heq.symm.trans hi) i heq

omit [DecidableEq ι] in
theorem Offers.tail {m : Member} {members : List Member} (h : S.Offers strays form r (m :: members)) :
    S.Offers strays form r members where
  spelled m' hm' := h.spelled m' (by simp [hm'])
  known m' hm' := h.known m' (by simp [hm'])
  unknown m' hm' := h.unknown m' (by simp [hm'])
  once := h.once.of_cons

/-- The fields that some members are named like. -/
def Named (S : Shape ι) (members : List Member) (i : ι) : Prop := ∃ m ∈ members, S.name i = m.name

omit [DecidableEq ι] in
theorem named_cons (m : Member) (members : List Member) :
    S.Named (m :: members) = fun i => S.name i = m.name ∨ S.Named members i := by
  funext i
  simp [Named]

/-- The members that may stand in an object for a record are taken one after the other. -/
theorem folds_of_offers (hname : Function.Injective S.name)
    (hform : ∀ i, Accepts strays (S.read i) depth (form i)) (hlevels : depth ≤ levels)
    {members : List Member} (hoffers : S.Offers strays form r members) {slots : S.Slots}
    (hagrees : slots.Agrees r) (hfresh : ∀ i, S.Named members i → slots i = none) :
    ∃ slots', Folds strays (S.takeMember levels) slots members slots' ∧
      Takes r (S.Named members) slots slots' := by
  induction members generalizing slots with
  | nil => exact ⟨slots, .nil, hagrees, by simp [Named], fun i hi => hi, fun i _ => rfl⟩
  | cons m members ih =>
    obtain ⟨slots₁, hstep, htakes⟩ := takeMember_of_offered hname hform hlevels hagrees
      (fun i hi => ⟨hoffers.known m (by simp) i hi, hfresh i ⟨m, by simp, hi⟩⟩)
      (hoffers.unknown m (by simp))
    have hfresh' : ∀ i, S.Named members i → slots₁ i = none := by
      rintro i ⟨m', hm', hi⟩
      rw [htakes.others i (hoffers.name_ne hm' hi)]
      exact hfresh i ⟨m', by simp [hm'], hi⟩
    obtain ⟨slots', hfolds, hmore⟩ := ih hoffers.tail htakes.agrees hfresh'
    refine ⟨slots', .cons (hoffers.spelled m (by simp)) hstep hfolds, ?_⟩
    rw [named_cons]
    exact htakes.trans hmore

/-- An object that stands for a record is read as it. -/
theorem readMembers_of_at (hname : Function.Injective S.name)
    (hform : ∀ i, Accepts strays (S.read i) depth (form i)) (hlevels : depth ≤ levels) {blank : List Char}
    {members : List Member} (hgives : S.Gives strays form r members) (hblank : Padding blank)
    (hc : c.At strays (enclosed '\x7b' '\x7d' blank (members.map Member.text) ++ rest)) :
    ∃ c', S.readMembers levels c.next = .ok (r, c') ∧ c'.At strays rest := by
  obtain ⟨slots, hfolds, htakes⟩ := folds_of_offers hname hform hlevels hgives.toOffers
    (agrees_noSlots r) (fun _ _ => rfl)
  obtain ⟨c₁, hfold, hc₁⟩ := foldMembers_of_at hblank hfolds hc
  have hfinish : slots.finish = .ok r := by
    refine finish_of_agrees htakes.agrees fun i => ?_
    rcases hgives.all i with ⟨m, hm, hi⟩ | habsent
    · exact .inl (htakes.given i ⟨m, hm, hi.symm⟩)
    · exact .inr habsent
  refine ⟨c₁.next, ?_, hc₁.next⟩
  simp [-Cursor.rest_next, readMembers, hfold, close, hfinish, bind, Except.bind]

/-! ### Arrays -/

theorem endArray_of_before (hc : c.Before strays (']' :: rest)) :
    ∃ c', c.endArray = .ok c' ∧ c'.At strays rest := by
  obtain ⟨c₁, hskip, hc₁⟩ := hc.skip (by decide)
  exact ⟨c₁.next, by simp [Cursor.endArray, hskip, hc₁.rest], hc₁.next⟩

/-- At the end of an array the fields that are left get the values that they have when left out. -/
theorem takeItems_left {left : List ι} (hleft : ∀ i ∈ left, S.absent i = some (r i)) :
    ∀ (count : Nat) (slots : S.Slots) (c : Cursor), slots.Agrees r → c.Before strays (']' :: rest) →
      ∃ slots' c', S.takeItems levels left count slots c = .ok (slots', c') ∧
        c'.Before strays (']' :: rest) ∧ Takes r (fun i => i ∈ left) slots slots' := by
  induction left with
  | nil =>
    intro count slots c hagrees hc
    exact ⟨slots, c, rfl, hc, hagrees, by simp, fun i hi => hi, fun i _ => rfl⟩
  | cons i left ih =>
    intro count slots c hagrees hc
    obtain ⟨c₁, hnext, hc₁⟩ := Cursor.nextItem_closing (count = 0) hc
    obtain ⟨slots', c', htake, hc', hmore⟩ := ih (fun j hj => hleft j (by simp [hj])) (count + 1) _
      c₁ (hagrees.set i) hc₁.before
    refine ⟨slots', c', ?_, hc', by simpa using (takes_set hagrees i).trans hmore⟩
    simp [takeItems, hnext, hleft i (by simp), htake, bind, Except.bind]

theorem takeItems_further (hform : ∀ i, Accepts strays (S.read i) depth (form i))
    (hlevels : depth ≤ levels) {given left : List ι} {texts : List (List Char)}
    (hgiven : List.Forall₂ (fun i text => form i (r i) text) given texts)
    (hleft : ∀ i ∈ left, S.absent i = some (r i)) :
    ∀ (count : Nat) (slots : S.Slots) (c : Cursor), slots.Agrees r →
      c.Before strays (furtherParts ']' texts ++ rest) →
      ∃ slots' c', S.takeItems levels (given ++ left) (count + 1) slots c = .ok (slots', c') ∧
        c'.Before strays (']' :: rest) ∧ Takes r (fun i => i ∈ given ++ left) slots slots' := by
  induction hgiven with
  | nil => exact fun count => takeItems_left hleft (count + 1)
  | @cons i text given texts htext _ ih =>
    intro count slots c hagrees hc
    obtain ⟨c₁, hnext, hc₁⟩ := Cursor.nextItem_further ((hform i).opens htext)
      (by simpa [furtherParts] using hc)
    obtain ⟨c₂, hread, hc₂⟩ :=
      (hform i).reads htext hlevels (ends_furtherParts (.inl rfl) _) hc₁
    obtain ⟨slots', c', htake, hc', hmore⟩ := ih (count + 1) _ c₂ (hagrees.set i) hc₂
    refine ⟨slots', c', ?_, hc', ?_⟩
    · simp [takeItems, hnext, hread, htake, bind, Except.bind]
    · simpa using (takes_set hagrees i).trans hmore

/-- The items of an array are taken behind its opening bracket. -/
theorem takeItems_of_at (hform : ∀ i, Accepts strays (S.read i) depth (form i))
    (hlevels : depth ≤ levels) {blank : List Char} {given left : List ι} {texts : List (List Char)}
    (hgiven : List.Forall₂ (fun i text => form i (r i) text) given texts)
    (hleft : ∀ i ∈ left, S.absent i = some (r i)) (hblank : Padding blank)
    (hc : c.At strays (enclosed '[' ']' blank texts ++ rest)) :
    ∃ slots c', S.takeItems levels (given ++ left) 0 S.noSlots c.next = .ok (slots, c') ∧
      c'.Before strays (']' :: rest) ∧ Takes r (fun i => i ∈ given ++ left) S.noSlots slots := by
  cases hgiven with
  | nil =>
    have hnext : c.next.At strays (blank ++ ']' :: rest) := by simpa [enclosed] using hc.next
    exact takeItems_left hleft 0 S.noSlots c.next (agrees_noSlots r)
      ((Cursor.before_padding hblank).1 hnext.before)
  | @cons i text given texts htext hgiven =>
    have hnext : c.next.At strays (text ++ (furtherParts ']' texts ++ rest)) := by
      simpa [enclosed] using hc.next
    obtain ⟨c₁, hfirst, hc₁⟩ := Cursor.nextItem_first ((hform i).opens htext) hnext.before
    obtain ⟨c₂, hread, hc₂⟩ := (hform i).reads htext hlevels (ends_furtherParts (.inl rfl) _) hc₁
    obtain ⟨slots', c', htake, hc', hmore⟩ := takeItems_further hform hlevels hgiven hleft 0 _ c₂
      ((agrees_noSlots r).set i) hc₂
    refine ⟨slots', c', ?_, hc', ?_⟩
    · simp [takeItems, hfirst, hread, htake, bind, Except.bind]
    · simpa using (takes_set (agrees_noSlots r) i).trans hmore

/-- An array that stands for a record is read as it. -/
theorem readItems_of_at (hform : ∀ i, Accepts strays (S.read i) depth (form i))
    (hlevels : depth ≤ levels) {blank : List Char} {given left : List ι} {texts : List (List Char)}
    (hfields : S.fields = given ++ left)
    (hgiven : List.Forall₂ (fun i text => form i (r i) text) given texts)
    (hleft : ∀ i ∈ left, S.absent i = some (r i)) (hblank : Padding blank)
    (hc : c.At strays (enclosed '[' ']' blank texts ++ rest)) :
    ∃ c', S.readItems levels c.next = .ok (r, c') ∧ c'.At strays rest := by
  obtain ⟨slots, c₁, htake, hc₁, htakes⟩ :=
    takeItems_of_at hform hlevels hgiven hleft hblank hc
  rw [← hfields] at htake htakes
  obtain ⟨c', hend, hc'⟩ := endArray_of_before hc₁
  have hfinish : slots.finish = .ok r :=
    finish_of_agrees htakes.agrees fun i => .inl (htakes.given i (S.complete i))
  refine ⟨c', ?_, hc'⟩
  simp [readItems, htake, hend, close, hfinish, bind, Except.bind]

theorem readRecord_accepts_object (hname : Function.Injective S.name)
    (hform : ∀ i, Accepts strays (S.read i) depth (form i)) :
    Accepts strays S.readRecord (depth + 1) (S.objectForm strays form) := by
  refine .padded ?_ ?_
  · rintro r _ ⟨blank, members, -, -, rfl⟩
    obtain ⟨more, heq⟩ := exists_enclosed_cons '\x7b' '\x7d' blank (members.map Member.text)
    exact ⟨'\x7b', more, heq, by decide, by decide⟩
  · rintro r _ ⟨blank, members, hblank, hgives, rfl⟩ levels c c₁ rest hlevels - hskip hc₁
    obtain ⟨levels, rfl⟩ := Nat.exists_eq_succ_of_ne_zero (Nat.ne_zero_of_lt hlevels)
    obtain ⟨c', hread, hc'⟩ :=
      readMembers_of_at hname hform (Nat.le_of_succ_le_succ hlevels) hgives hblank hc₁
    obtain ⟨more, heq⟩ := exists_enclosed_cons '\x7b' '\x7d' blank (members.map Member.text)
    rw [heq] at hc₁
    exact ⟨c', by simp [readRecord, hskip, hc₁.rest, hread], hc'.before⟩

/-- A record is read from the arrays that stand for it, also from those that end early. -/
theorem readRecord_accepts_tuple (hform : ∀ i, Accepts strays (S.read i) depth (form i)) :
    Accepts strays S.readRecord (depth + 1) (S.tupleForm form) := by
  refine .padded ?_ ?_
  · rintro r _ ⟨blank, given, left, texts, -, -, -, -, rfl⟩
    obtain ⟨more, heq⟩ := exists_enclosed_cons '[' ']' blank texts
    exact ⟨'[', more, heq, by decide, by decide⟩
  · rintro r _ ⟨blank, given, left, texts, hblank, hfields, hgiven, hleft, rfl⟩ levels c c₁ rest
      hlevels - hskip hc₁
    obtain ⟨levels, rfl⟩ := Nat.exists_eq_succ_of_ne_zero (Nat.ne_zero_of_lt hlevels)
    obtain ⟨c', hread, hc'⟩ := readItems_of_at hform (Nat.le_of_succ_le_succ hlevels) hfields hgiven
      hleft hblank hc₁
    obtain ⟨more, heq⟩ := exists_enclosed_cons '[' ']' blank texts
    rw [heq] at hc₁
    exact ⟨c', by simp [readRecord, hskip, hc₁.rest, hread], hc'.before⟩

omit [DecidableEq ι] in
theorem tupleForm_of_arrayForm {text : List Char} (h : S.arrayForm form r text) :
    S.tupleForm form r text := by
  obtain ⟨hbefore, ⟨blank, values, hblank, hvalues, rfl⟩, hafter⟩ := h
  refine .around hbefore ⟨blank, S.fields, [], S.fields.map values, hblank, by simp, ?_, by simp, rfl⟩
    hafter
  rw [List.forall₂_map_right_iff, List.forall₂_same]
  exact fun i _ => hvalues i

theorem readRecord_accepts_array (hform : ∀ i, Accepts strays (S.read i) depth (form i)) :
    Accepts strays S.readRecord (depth + 1) (S.arrayForm form) where
  opens h := (readRecord_accepts_tuple hform).opens (tupleForm_of_arrayForm h)
  reads h := (readRecord_accepts_tuple hform).reads (tupleForm_of_arrayForm h)

/-- A record is read from the objects and from the arrays that stand for it. -/
theorem readRecord_accepts (hname : Function.Injective S.name)
    (hform : ∀ i, Accepts strays (S.read i) depth (form i)) :
    Accepts strays S.readRecord (depth + 1) (S.recordForm strays form) :=
  (readRecord_accepts_object hname hform).either (readRecord_accepts_array hform)

/-- What is made of records is read from the texts of the records. -/
theorem readAs_accepts {α : Type} {build : S.Record → α} {record : α → S.Record}
    {texts : Form S.Record} (h : Accepts strays S.readRecord depth texts)
    (hbuild : ∀ x, build (record x) = x) :
    Accepts strays (S.readAs build) depth fun x => texts (record x) where
  opens := h.opens
  reads {x _} htext {levels c rest} hlevels hends hc := by
    obtain ⟨c', hread, hc'⟩ := h.reads htext hlevels hends hc
    refine ⟨c', ?_, hc'⟩
    simp [readAs, hread, hbuild, bind, Except.bind, pure, Except.pure]

/-! ### What is written -/

/-- The member that a field is written as. -/
def writtenMember (json : (i : ι) → S.Holds i → Value) (r : S.Record) (i : ι) : Member where
  name := S.name i
  spelling := StringLiteral.write (S.name i)
  value := (json i (r i)).chars

/-- A member that gives a field the value that a record has there. -/
structure Carries (form : (i : ι) → Form (S.Holds i)) (r : S.Record) (i : ι) (m : Member) : Prop where
  name : m.name = S.name i
  spelled : stringForm m.name m.spelling
  value : form i (r i) m.value

omit [DecidableEq ι] in
theorem map_name_of_carries {fields : List ι} {carried : List Member}
    (h : List.Forall₂ (S.Carries form r) fields carried) :
    carried.map Member.name = fields.map S.name := by
  induction h with
  | nil => rfl
  | cons hm _ ih => rw [List.map_cons, List.map_cons, hm.name, ih]

omit [DecidableEq ι] in
/-- Members that give some fields their values, in any order and among any others, make up an object for
the record if the other fields may be left out. -/
theorem gives_of_carries (hname : Function.Injective S.name) {fields : List ι} {carried : List Member}
    (hcarried : List.Forall₂ (S.Carries form r) fields carried) (hnodup : fields.Nodup)
    (hall : ∀ i, i ∈ fields ∨ S.absent i = some (r i)) {others members : List Member}
    (hothers : ∀ m ∈ others,
      stringForm m.name m.spelling ∧ WellFormed strays m.value ∧ ∀ i, S.name i ≠ m.name)
    (hperm : members.Perm (carried ++ others)) : S.Gives strays form r members := by
  have hmem : ∀ m ∈ members, (∃ i, S.Carries form r i m) ∨ m ∈ others := by
    intro m hm
    refine (List.mem_append.1 (hperm.mem_iff.1 hm)).imp_left fun hm => ?_
    obtain ⟨i, -, hi⟩ := exists_mem_of_forall₂ hcarried.flip hm
    exact ⟨i, hi⟩
  refine ⟨⟨?_, ?_, ?_, ?_⟩, ?_⟩
  · intro m hm
    rcases hmem m hm with ⟨i, hi⟩ | hother
    · exact hi.spelled
    · exact (hothers m hother).1
  · intro m hm j hj
    rcases hmem m hm with ⟨i, hi⟩ | hother
    · obtain rfl := hname (hj.trans hi.name)
      exact hi.value
    · exact absurd hj ((hothers m hother).2.2 j)
  · intro m hm hnot
    rcases hmem m hm with ⟨i, hi⟩ | hother
    · exact absurd hi.name.symm (hnot i)
    · exact (hothers m hother).2.1
  · have hsymm : ∀ {m m' : Member}, (m.name = m'.name → ∀ i, S.name i ≠ m.name) →
        m'.name = m.name → ∀ i, S.name i ≠ m'.name := by
      intro m m' h heq i
      rw [heq]
      exact h heq.symm i
    have honce : (carried.map Member.name).Pairwise (· ≠ ·) := by
      rw [map_name_of_carries hcarried, List.pairwise_map]
      exact hnodup.imp fun hne heq => hne (hname heq)
    rw [List.pairwise_map] at honce
    rw [hperm.pairwise_iff hsymm, List.pairwise_append]
    refine ⟨honce.imp fun hne heq => absurd heq hne, ?_, ?_⟩
    · exact List.pairwise_of_forall_mem_list fun m hm m' _ _ => (hothers m hm).2.2
    · intro m hm m' hm' heq i
      rw [heq]
      exact (hothers m' hm').2.2 i
  · intro i
    refine (hall i).imp_left fun hi => ?_
    obtain ⟨m, hm, hcarries⟩ := exists_mem_of_forall₂ hcarried hi
    exact ⟨m, hperm.mem_iff.2 (List.mem_append_left _ hm), hcarries.name⟩

omit [DecidableEq ι] in
/-- The members that some fields are written as, in any order and among any others, make up an
object for the record if the fields that are not written may be left out. -/
theorem gives_of_perm (hname : Function.Injective S.name) {json : (i : ι) → S.Holds i → Value}
    (hjson : ∀ i x, form i x (json i x).chars) {fields : List ι} (hnodup : fields.Nodup)
    (hall : ∀ i, i ∈ fields ∨ S.absent i = some (r i)) {others members : List Member}
    (hothers : ∀ m ∈ others,
      stringForm m.name m.spelling ∧ WellFormed strays m.value ∧ ∀ i, S.name i ≠ m.name)
    (hperm : members.Perm (fields.map (writtenMember json r) ++ others)) :
    S.Gives strays form r members := by
  refine gives_of_carries hname ?_ hnodup hall hothers hperm
  rw [List.forall₂_map_right_iff, List.forall₂_same]
  exact fun i _ => ⟨rfl, stringForm_write (S.name i), hjson i (r i)⟩

omit [DecidableEq ι] in
/-- Writing some of the fields gives an object for the record, if the others may be left out. -/
theorem objectForm_written (hname : Function.Injective S.name)
    {json : (i : ι) → S.Holds i → Value} (hjson : ∀ i x, form i x (json i x).chars)
    (fields : List ι) (hnodup : fields.Nodup)
    (hall : ∀ i, i ∈ fields ∨ S.absent i = some (r i)) :
    S.objectForm strays form r (Value.object (fields.map fun i => (S.name i, json i (r i)))).chars := by
  refine .of_core ⟨[], fields.map (writtenMember json r), padding_nil, ?_, ?_⟩
  · exact gives_of_perm hname hjson hnodup hall (List.forall_mem_nil _) (by simp)
  · rw [chars_object, List.map_map, List.map_map]
    rfl

end Shape

end JobWorker.Json
