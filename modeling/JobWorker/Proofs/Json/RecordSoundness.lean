/-
A record that has been read is what the passed text stands for.

Of an object the slots say which fields have been given, so that no field was given twice and none is
missing that has no default.  An array may end early; then the fields that are left have taken their
defaults.
-/
import JobWorker.Proofs.Json.Records
import JobWorker.Proofs.Json.Soundness

namespace JobWorker.Json

namespace Shape

variable {ι : Type} {S : Shape ι} {strays : Bool} {form : (i : ι) → Form (S.Holds i)} {r : S.Record}
  {levels : Nat} {c c' c'' : Cursor}

theorem name_of_field? {name : String} {i : ι} (h : S.field? name = some i) : S.name i = name := by
  simpa using List.find?_some h

theorem name_ne_of_field? {name : String} (h : S.field? name = none) (i : ι) : S.name i ≠ name := by
  simpa using List.find?_eq_none.1 h i (S.complete i)

/-- A record that was made of slots has their values, and defaults for the others. -/
theorem fill_of_finish {slots : S.Slots} (h : slots.finish = .ok r) (i : ι) :
    slots.fill i = some (r i) := by
  unfold Slots.finish at h
  split at h
  · cases h
  · cases h
    simp

/-- A slot that is filled holds the record's value. -/
theorem eq_of_finish {slots : S.Slots} (h : slots.finish = .ok r) {i : ι} {x : S.Holds i}
    (hx : slots i = some x) : x = r i := by
  have := fill_of_finish h i
  simpa [Slots.fill, hx] using this

/-- A slot that is not filled belongs to a field that may be left out. -/
theorem absent_of_finish {slots : S.Slots} (h : slots.finish = .ok r) {i : ι} (hi : slots i = none) :
    S.absent i = some (r i) := by
  have := fill_of_finish h i
  simpa [Slots.fill, hi] using this

theorem of_close {slots : S.Slots} (h : S.close slots c = .ok (r, c')) :
    slots.finish = .ok r ∧ c' = c := by
  unfold close at h
  split at h
  · next hfinish =>
    cases h
    exact ⟨hfinish, rfl⟩
  · simp at h

variable [DecidableEq ι]

/-! ### Objects -/

/-- A member fills the slot of a field that was still empty, or it belongs to none. -/
def Fills (S : Shape ι) (strays : Bool) (form : (i : ι) → Form (S.Holds i)) (slots : S.Slots)
    (name : String) (text : List Char) (slots' : S.Slots) : Prop :=
  (∃ i x, S.name i = name ∧ slots i = none ∧ form i x text ∧ slots' = slots.set i x) ∨
    ((∀ i, S.name i ≠ name) ∧ WellFormed strays text ∧ slots' = slots)

theorem takeMember_yields (h : ∀ i, Yields strays (S.read i levels) (form i)) :
    YieldsMember strays (S.takeMember levels) (S.Fills strays form) where
  padded := by
    rintro slots slots' name text before after (⟨i, x, hi, hnone, hx, rfl⟩ | ⟨hnot, htext, rfl⟩) hbefore
      hafter
    · exact .inl ⟨i, x, hi, hnone, (h i).padded hx hbefore hafter, rfl⟩
    · exact .inr ⟨hnot, .padded hbefore htext hafter, rfl⟩
  passed {c c' slots slots' name} hc hread := by
    unfold takeMember at hread
    split at hread
    · next hfield =>
      obtain ⟨c₁, hcolon, hread⟩ := bind_eq_ok_iff.1 hread
      obtain ⟨c₂, hskip, hread⟩ := bind_eq_ok_iff.1 hread
      cases hread
      obtain ⟨blank, hblank, hc₁⟩ := Cursor.passed_colon hcolon
      obtain ⟨text, htext, hc₂⟩ := Cursor.passed_skipValue (hc₁.strays.trans hc) hskip
      exact ⟨blank, text, hblank, .inr ⟨name_ne_of_field? hfield, htext, rfl⟩,
        by simpa using hc₁.trans hc₂⟩
    · next i hfield =>
      split at hread
      · simp at hread
      next hnone =>
      obtain ⟨c₁, hcolon, hread⟩ := bind_eq_ok_iff.1 hread
      obtain ⟨⟨x, c₂⟩, hvalue, hread⟩ := bind_eq_ok_iff.1 hread
      cases hread
      obtain ⟨blank, hblank, hc₁⟩ := Cursor.passed_colon hcolon
      obtain ⟨text, htext, hc₂⟩ := (h i).passed (hc₁.strays.trans hc) hvalue
      exact ⟨blank, text, hblank,
        .inl ⟨i, x, name_of_field? hfield, by simpa using hnone, htext, rfl⟩,
        by simpa using hc₁.trans hc₂⟩

/-- A filled slot stays as it is. -/
theorem Fills.kept {slots slots' : S.Slots} {name : String} {text : List Char}
    (h : S.Fills strays form slots name text slots') {i : ι} {x : S.Holds i} (hi : slots i = some x) :
    slots' i = some x := by
  obtain ⟨j, y, -, hnone, -, rfl⟩ | ⟨-, -, rfl⟩ := h
  · have hne : j ≠ i := by
      rintro rfl
      rw [hnone] at hi
      cases hi
    simpa [Slots.set, hne] using hi
  · exact hi

theorem kept_of_steps {members : List Member} {slots slots' : S.Slots}
    (h : Steps (S.Fills strays form) slots members slots') {i : ι} {x : S.Holds i}
    (hi : slots i = some x) : slots' i = some x := by
  induction h with
  | nil => exact hi
  | cons _ hstep _ ih => exact ih (hstep.kept hi)

/-- No member has the name of a field whose slot was filled before. -/
theorem name_ne_of_steps {members : List Member} {slots slots' : S.Slots}
    (hname : Function.Injective S.name) (h : Steps (S.Fills strays form) slots members slots') {i : ι}
    {x : S.Holds i} (hi : slots i = some x) : ∀ m ∈ members, S.name i ≠ m.name := by
  induction h with
  | nil => simp
  | @cons slots _ _ m members _ hstep _ ih =>
    refine List.forall_mem_cons.2 ⟨fun heq => ?_, ih (hstep.kept hi)⟩
    obtain ⟨j, y, hj, hnone, -, -⟩ | ⟨hnot, -, -⟩ := hstep
    · obtain rfl : j = i := hname (hj.trans heq.symm)
      rw [hnone] at hi
      cases hi
    · exact hnot i heq

/-- Where all slots agree with a record in the end, the members may stand in an object for it. -/
theorem offers_of_steps (hname : Function.Injective S.name) {members : List Member}
    {slots slots' : S.Slots} (h : Steps (S.Fills strays form) slots members slots')
    (hagrees : ∀ {i x}, slots' i = some x → x = r i) : S.Offers strays form r members := by
  induction h with
  | nil => exact ⟨by simp, by simp, by simp, .nil⟩
  | @cons slots slots₁ _ m members hspelled hstep hsteps ih =>
    have hmore := ih hagrees
    obtain ⟨i, x, hi, hnone, hx, rfl⟩ | ⟨hnot, htext, rfl⟩ := hstep
    · obtain rfl : x = r i := hagrees (kept_of_steps hsteps (set_self slots i x))
      have hothers := name_ne_of_steps hname hsteps (set_self slots i (r i))
      refine ⟨List.forall_mem_cons.2 ⟨hspelled, hmore.spelled⟩,
        List.forall_mem_cons.2 ⟨fun j hj => ?_, hmore.known⟩,
        List.forall_mem_cons.2 ⟨fun hnot => absurd hi (hnot i), hmore.unknown⟩,
        List.pairwise_cons.2 ⟨fun m' hm' heq j hj => ?_, hmore.once⟩⟩
      · obtain rfl : i = j := hname (hi.trans hj.symm)
        exact hx
      · exact hothers m' hm' (hi.trans heq)
    · exact ⟨List.forall_mem_cons.2 ⟨hspelled, hmore.spelled⟩,
        List.forall_mem_cons.2 ⟨fun j hj => absurd hj (hnot j), hmore.known⟩,
        List.forall_mem_cons.2 ⟨fun _ => htext, hmore.unknown⟩,
        List.pairwise_cons.2 ⟨fun m' _ _ => hnot, hmore.once⟩⟩

/-- A slot that has been filled has a member. -/
theorem exists_member_of_steps {members : List Member} {slots slots' : S.Slots}
    (h : Steps (S.Fills strays form) slots members slots') {i : ι} (hi : slots i = none)
    (hi' : slots' i ≠ none) : ∃ m ∈ members, m.name = S.name i := by
  induction h with
  | nil => exact absurd hi hi'
  | @cons slots _ _ m members _ hstep _ ih =>
    obtain ⟨j, x, hj, -, -, rfl⟩ | ⟨-, -, rfl⟩ := hstep
    · by_cases hji : j = i
      · exact ⟨m, by simp, by rw [← hj, hji]⟩
      · obtain ⟨m', hm', heq⟩ := ih (by simpa [Slots.set, hji] using hi) hi'
        exact ⟨m', by simp [hm'], heq⟩
    · obtain ⟨m', hm', heq⟩ := ih hi hi'
      exact ⟨m', by simp [hm'], heq⟩

theorem passed_readMembers (hname : Function.Injective S.name)
    (h : ∀ i, Yields strays (S.read i levels) (form i)) (hc : c.strays = strays)
    (hread : S.readMembers levels c = .ok (r, c')) :
    ∃ blank members text, Padding blank ∧ S.Gives strays form r members ∧
      '\x7b' :: text = enclosed '\x7b' '\x7d' blank (members.map Member.text) ∧ c.Passed text c' := by
  obtain ⟨⟨slots, c₁⟩, hfold, hclose⟩ := bind_eq_ok_iff.1 hread
  obtain ⟨hfinish, rfl⟩ := of_close hclose
  obtain ⟨blank, members, text, hblank, hsteps, htext, hc₁⟩ :=
    passed_foldMembers (takeMember_yields h) hc hfold
  refine ⟨blank, members, text, hblank,
    ⟨offers_of_steps hname hsteps fun hx => eq_of_finish hfinish hx, fun i => ?_⟩, htext, hc₁⟩
  by_cases hi : slots i = none
  · exact .inr (absent_of_finish hfinish hi)
  · exact .inl (exists_member_of_steps hsteps rfl hi)

/-! ### Arrays -/

omit [DecidableEq ι] in
theorem passed_endArray (h : c.endArray = .ok c') :
    ∃ blank, Padding blank ∧ c.Passed (blank ++ [']']) c' := by
  obtain ⟨blank, hblank, hskip⟩ := c.passed_skipSpace
  unfold Cursor.endArray at h
  simp only at h
  split at h
  · simp at h
  next ch more hrest =>
  split at h
  · next hclosing =>
    subst hclosing
    cases h
    exact ⟨blank, hblank, hskip.trans (Cursor.passed_next hrest)⟩
  · split at h <;> simp at h

/-- The slots of other fields are left alone. -/
theorem takeItems_others {fields : List ι} {count : Nat} {slots slots' : S.Slots}
    (h : S.takeItems levels fields count slots c = .ok (slots', c')) {j : ι} (hj : j ∉ fields) :
    slots' j = slots j := by
  induction fields generalizing count slots c with
  | nil =>
    cases h
    rfl
  | cons i fields ih =>
    obtain ⟨hne, hj⟩ := List.ne_and_not_mem_of_not_mem_cons hj
    obtain ⟨⟨more, c₁⟩, -, h⟩ := bind_eq_ok_iff.1 h
    have hset : ∀ x, slots.set i x j = slots j := fun x => by simp [Slots.set, Ne.symm hne]
    simp only at h
    split at h
    · obtain ⟨⟨x, c₂⟩, -, h⟩ := bind_eq_ok_iff.1 h
      rw [ih h hj, hset]
    · split at h
      · rw [ih h hj, hset]
      · simp at h

/-- Every field of an array gets a value. -/
theorem filled_of_takeItems {fields : List ι} {count : Nat} {slots slots' : S.Slots}
    (h : S.takeItems levels fields count slots c = .ok (slots', c')) {j : ι}
    (hj : j ∈ fields ∨ slots j ≠ none) : slots' j ≠ none := by
  induction fields generalizing count slots c with
  | nil =>
    cases h
    simpa using hj
  | cons i fields ih =>
    obtain ⟨⟨more, c₁⟩, -, h⟩ := bind_eq_ok_iff.1 h
    have hset : ∀ x, j ∈ fields ∨ slots.set i x j ≠ none := by
      intro x
      rw [List.mem_cons] at hj
      by_cases hij : i = j
      · subst hij
        simp [set_self]
      · simpa [Slots.set, hij, Ne.symm hij] using hj
    simp only at h
    split at h
    · obtain ⟨⟨x, c₂⟩, -, h⟩ := bind_eq_ok_iff.1 h
      exact ih h (hset x)
    · split at h
      · exact ih h (hset _)
      · simp at h

/-- Items that make up an array for a record, behind some fields. -/
structure Lists (S : Shape ι) (form : (i : ι) → Form (S.Holds i)) (r : S.Record) (fields : List ι)
    (texts : List (List Char)) : Prop where
  exists_split : ∃ given left, fields = given ++ left ∧
    List.Forall₂ (fun i text => form i (r i) text) given texts ∧ ∀ i ∈ left, S.absent i = some (r i)

omit [DecidableEq ι] in
theorem Lists.cons {i : ι} {fields : List ι} {text : List Char} {texts : List (List Char)}
    (htext : form i (r i) text) (h : S.Lists form r fields texts) :
    S.Lists form r (i :: fields) (text :: texts) := by
  obtain ⟨given, left, rfl, hgiven, hleft⟩ := h
  exact ⟨i :: given, left, rfl, .cons htext hgiven, hleft⟩

/-- At the end of an array only fields are left that may be left out. -/
theorem absent_of_takeItems {fields : List ι} (hnodup : fields.Nodup) {count : Nat}
    {slots slots' : S.Slots} {tail : List Char} (hc : c.At strays (']' :: tail))
    (hr : ∀ i ∈ fields, slots' i = some (r i))
    (hread : S.takeItems levels fields count slots c = .ok (slots', c')) :
    (∀ i ∈ fields, S.absent i = some (r i)) ∧ c'.At strays (']' :: tail) := by
  induction fields generalizing count slots c with
  | nil =>
    cases hread
    exact ⟨by simp, hc⟩
  | cons i fields ih =>
    obtain ⟨hi, hnodup⟩ := List.nodup_cons.1 hnodup
    obtain ⟨c₁, hnext, hc₁⟩ := Cursor.nextItem_closing (count = 0) hc.before
    simp only [takeItems, hnext, bind, Except.bind] at hread
    cases habsent : S.absent i with
    | none => simp [habsent] at hread
    | some x =>
      rw [habsent] at hread
      obtain ⟨hleft, hc'⟩ := ih hnodup hc₁ (fun j hj => hr j (by simp [hj])) hread
      have hx : slots' i = some x := by rw [takeItems_others hread hi, set_self]
      rw [hr i (by simp)] at hx
      exact ⟨List.forall_mem_cons.2 ⟨by rw [habsent, hx], hleft⟩, hc'⟩

/-- Where an array ends early, the fields that are left have been left out. -/
theorem passed_left {i : ι} {fields : List ι} (hnodup : (i :: fields).Nodup) {count : Nat}
    {slots slots' : S.Slots} {c₁ : Cursor} {tail : List Char} (hrest : c₁.rest = ']' :: tail)
    (hr : ∀ j ∈ i :: fields, slots' j = some (r j))
    (hnext : c.nextItem (count = 0) = .ok (false, c₁))
    (hread : S.takeItems levels (i :: fields) count slots c = .ok (slots', c'))
    (hend : c'.endArray = .ok c'') : S.Lists form r (i :: fields) [] ∧ c₁.Passed [']'] c'' := by
  obtain ⟨hi, hnodup⟩ := List.nodup_cons.1 hnodup
  simp only [takeItems, hnext, bind, Except.bind] at hread
  cases habsent : S.absent i with
  | none => simp [habsent] at hread
  | some x =>
    rw [habsent] at hread
    obtain ⟨hleft, hc'⟩ :=
      absent_of_takeItems hnodup ⟨hrest, rfl⟩ (fun j hj => hr j (by simp [hj])) hread
    have hx : slots' i = some x := by rw [takeItems_others hread hi, set_self]
    rw [hr i (by simp)] at hx
    have hall := List.forall_mem_cons.2 ⟨by rw [habsent, hx], hleft⟩
    obtain ⟨c₂, hend', hc₂⟩ := endArray_of_before hc'.before
    obtain rfl : c₂ = c'' := by simpa [hend'] using hend
    exact ⟨⟨[], i :: fields, rfl, .nil, hall⟩, by rw [hrest, hc₂.rest]; rfl, hc₂.strays⟩

theorem passed_takeItems_further (h : ∀ i, Yields strays (S.read i levels) (form i))
    {fields : List ι} (hnodup : fields.Nodup) {count : Nat} {slots slots' : S.Slots}
    (hc : c.strays = strays) (hr : ∀ i ∈ fields, slots' i = some (r i))
    (hread : S.takeItems levels fields (count + 1) slots c = .ok (slots', c'))
    (hend : c'.endArray = .ok c'') :
    ∃ blank texts, Padding blank ∧ S.Lists form r fields texts ∧
      c.Passed (blank ++ furtherParts ']' texts) c'' := by
  induction fields generalizing count slots c with
  | nil =>
    cases hread
    obtain ⟨blank, hblank, hc''⟩ := passed_endArray hend
    exact ⟨blank, [], hblank, ⟨[], [], rfl, .nil, by simp⟩, hc''⟩
  | cons i fields ih =>
    obtain ⟨⟨more, c₁⟩, hnext, htake⟩ := bind_eq_ok_iff.1 hread
    obtain ⟨hi, hnodup'⟩ := List.nodup_cons.1 hnodup
    obtain ⟨blank, hblank, hclosing | ⟨-, hfirst, -⟩ | ⟨rfl, -, after, hafter, hc₁⟩⟩ :=
      passed_nextItem hnext
    · obtain ⟨rfl, hc₁, tail, hrest⟩ := hclosing
      obtain ⟨hlists, hc''⟩ := passed_left hnodup hrest hr hnext hread hend
      exact ⟨blank, [], hblank, hlists, hc₁.trans hc''⟩
    · cases hfirst
    · simp only [if_true] at htake
      obtain ⟨⟨x, c₂⟩, hx, htake⟩ := bind_eq_ok_iff.1 htake
      have hstrays := hc₁.strays.trans hc
      obtain ⟨text, htext, hc₂⟩ := (h i).passed hstrays hx
      obtain ⟨blank', texts, hblank', hlists, hc''⟩ := ih hnodup' (hc₂.strays.trans hstrays)
        (fun j hj => hr j (by simp [hj])) htake
      have hxr : slots' i = some x := by rw [takeItems_others htake hi, set_self]
      obtain rfl : r i = x := by simpa [hr i (by simp)] using hxr
      refine ⟨blank, (after ++ text ++ blank') :: texts, hblank,
        hlists.cons ((h i).padded htext hafter hblank'), ?_⟩
      simpa [furtherParts] using hc₁.trans (hc₂.trans hc'')

/-- The items of an array that has been read list the values of a record. -/
theorem passed_readItems (h : ∀ i, Yields strays (S.read i levels) (form i))
    (hnodup : S.fields.Nodup) (hc : c.strays = strays)
    (hread : S.readItems levels c = .ok (r, c')) :
    ∃ blank texts text, Padding blank ∧ S.Lists form r S.fields texts ∧
      '[' :: text = enclosed '[' ']' blank texts ∧ c.Passed text c' := by
  obtain ⟨⟨slots, c₁⟩, htake, hread⟩ := bind_eq_ok_iff.1 hread
  obtain ⟨c₂, hend, hclose⟩ := bind_eq_ok_iff.1 hread
  obtain ⟨hfinish, rfl⟩ := of_close hclose
  have hr : ∀ i ∈ S.fields, slots i = some (r i) := by
    intro i hi
    obtain ⟨x, hx⟩ := Option.ne_none_iff_exists'.1 (filled_of_takeItems htake (.inl hi))
    rw [hx, eq_of_finish hfinish hx]
  cases hfields : S.fields with
  | nil =>
    rw [hfields] at htake
    cases htake
    obtain ⟨blank, hblank, hc''⟩ := passed_endArray hend
    exact ⟨blank, [], _, hblank, ⟨[], [], rfl, .nil, by simp⟩, rfl, hc''⟩
  | cons i fields =>
    rw [hfields] at htake hnodup hr
    obtain ⟨⟨more, c₂⟩, hnext, htake'⟩ := bind_eq_ok_iff.1 htake
    obtain ⟨hi, hnodup'⟩ := List.nodup_cons.1 hnodup
    obtain ⟨blank, hblank, hclosing | ⟨rfl, -, hc₁⟩ | ⟨-, hfirst, -⟩⟩ := passed_nextItem hnext
    · obtain ⟨rfl, hc₁, tail, hrest⟩ := hclosing
      obtain ⟨hlists, hc''⟩ := passed_left hnodup hrest hr hnext htake hend
      exact ⟨blank, [], _, hblank, hlists, rfl, hc₁.trans hc''⟩
    · simp only [if_true] at htake'
      obtain ⟨⟨x, c₃⟩, hx, htake'⟩ := bind_eq_ok_iff.1 htake'
      have hstrays := hc₁.strays.trans hc
      obtain ⟨text, htext, hc₂⟩ := (h i).passed hstrays hx
      obtain ⟨blank', texts, hblank', hlists, hc''⟩ := passed_takeItems_further h hnodup'
        (hc₂.strays.trans hstrays) (fun j hj => hr j (by simp [hj])) htake' hend
      have hxr : slots i = some x := by rw [takeItems_others htake' hi, set_self]
      obtain rfl : r i = x := by simpa [hr i (by simp)] using hxr
      refine ⟨[], (blank ++ text ++ blank') :: texts, _, padding_nil,
        hlists.cons ((h i).padded htext hblank hblank'), rfl, ?_⟩
      simpa using hc₁.trans (hc₂.trans hc'')
    · simp at hfirst

/-- The texts of a record, as objects or as arrays that may end early. -/
def textForm (S : Shape ι) (strays : Bool) (form : (i : ι) → Form (S.Holds i)) : Form S.Record :=
  fun r text => S.objectForm strays form r text ∨ S.tupleForm form r text

omit [DecidableEq ι] in
theorem textForm_padded {text before after : List Char} (h : S.textForm strays form r text)
    (hbefore : Padding before) (hafter : Padding after) :
    S.textForm strays form r (before ++ text ++ after) :=
  h.imp (fun h => Padded.padded h hbefore hafter) fun h => Padded.padded h hbefore hafter

/-- A record that has been read is what the passed text stands for. -/
theorem readRecord_yields (hname : Function.Injective S.name) (hnodup : S.fields.Nodup)
    (h : ∀ i, Yields strays (S.read i levels) (form i)) :
    Yields strays (S.readRecord (levels + 1)) (S.textForm strays form) where
  padded := textForm_padded
  passed {c c' r} hc hread := by
    obtain ⟨before, hbefore, hskip⟩ := c.passed_skipSpace
    have hpad : ∀ {text}, S.textForm strays form r text → S.textForm strays form r (before ++ text) := by
      intro text htext
      simpa using textForm_padded htext hbefore padding_nil
    unfold readRecord at hread
    simp only at hread
    split at hread
    · next hrest =>
      obtain ⟨blank, texts, text, hblank, ⟨given, left, hfields, hgiven, hleft⟩, htext, hc'⟩ :=
        passed_readItems h hnodup (by simp [hc]) hread
      exact ⟨_, hpad (.inr (.of_core ⟨blank, given, left, texts, hblank, hfields, hgiven, hleft, htext⟩)),
        hskip.trans (hc'.cons hrest)⟩
    · next hrest =>
      obtain ⟨blank, members, text, hblank, hgives, htext, hc'⟩ :=
        passed_readMembers hname h (by simp [hc]) hread
      exact ⟨_, hpad (.inl (.of_core ⟨blank, members, hblank, hgives, htext⟩)),
        hskip.trans (hc'.cons hrest)⟩
    · simp at hread

/-- A record is read from all its texts. -/
theorem readRecord_accepts_text (hname : Function.Injective S.name) {depth : Nat}
    (h : ∀ i, Accepts strays (S.read i) depth (form i)) :
    Accepts strays S.readRecord (depth + 1) (S.textForm strays form) :=
  (readRecord_accepts_object hname h).either (readRecord_accepts_tuple h)

/-- What is made of a record is read from the record's texts. -/
theorem readAs_accepts_made {α : Type} {build : S.Record → α} {depth : Nat} {text : Form S.Record}
    (h : Accepts strays S.readRecord depth text) :
    Accepts strays (S.readAs build) depth fun x t => ∃ r, text r t ∧ build r = x where
  opens := by
    rintro x t ⟨r, ht, -⟩
    exact h.opens ht
  reads := by
    rintro x t ⟨r, ht, rfl⟩ levels c rest hlevels hends hc
    obtain ⟨c', hread, hc'⟩ := h.reads ht hlevels hends hc
    exact ⟨c', by simp [readAs, hread, bind, Except.bind, pure, Except.pure], hc'⟩

/-- What has been made of a record is made of what the passed text stands for. -/
theorem readAs_yields {α : Type} (build : S.Record → α) {text : Form S.Record}
    (h : Yields strays (S.readRecord levels) text) :
    Yields strays (S.readAs build levels) fun x t => ∃ r, text r t ∧ build r = x where
  padded := by
    rintro x t before after ⟨r, ht, rfl⟩ hbefore hafter
    exact ⟨r, h.padded ht hbefore hafter, rfl⟩
  passed {c c' x} hc hread := by
    obtain ⟨⟨r, c₁⟩, hrecord, hread⟩ := bind_eq_ok_iff.1 hread
    cases hread
    obtain ⟨t, ht, hc'⟩ := h.passed hc hrecord
    exact ⟨t, ⟨r, ht, rfl⟩, hc'⟩

end Shape

end JobWorker.Json
