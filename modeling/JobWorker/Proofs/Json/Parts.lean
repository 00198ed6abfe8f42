/-
Brackets and what stands between them.

Here the texts of arrays and objects are spoken of by their parts alone, whatever the parts stand for:
a member is good for an object if its name is spelled in some way and its value is well formed.  A
text shows its parts in one way only, so whatever is known of them from reading is known of them
wherever the text comes from.
-/
import JobWorker.Proofs.Json.RecordSoundness
import JobWorker.Proofs.Json.Unambiguous

namespace JobWorker.Json

variable {α : Type} {strays : Bool} {text : List Char}

/-- The texts of an array with some items. -/
def ArrayText (items : List (List Char)) : List Char → Prop :=
  Padded fun inner => ∃ blank, Padding blank ∧ inner = enclosed '[' ']' blank items

/-- The texts of an object with some members. -/
def ObjectText (members : List Member) : List Char → Prop :=
  Padded fun inner => ∃ blank, Padding blank ∧
    inner = enclosed '\x7b' '\x7d' blank (members.map Member.text)

theorem NumberText.isNumber {n : Number} (h : NumberText n text) : IsNumber text := by
  obtain ⟨l, hspelled, -⟩ := h
  exact hspelled.isNumber

/-- A member that may stand in an object. -/
structure Member.Good (strays : Bool) (m : Member) : Prop where
  spelled : stringForm m.name m.spelling
  value : WellFormed strays m.value

/-! ### What forms stand for is well formed -/

theorem Quotable.weaken (strays : Bool) {body : List Char} (h : Quotable false body) :
    Quotable strays body := by
  induction h with
  | nil => exact .nil
  | plain hquote hescape hcontrol _ ih => exact .plain hquote hescape hcontrol ih
  | stray hfalse => cases hfalse
  | short hletter _ ih => exact .short hletter ih
  | code hdigits _ ih => exact .code hdigits ih

theorem IsQuoted.weaken (strays : Bool) (h : IsQuoted false text) : IsQuoted strays text := by
  obtain ⟨body, hbody, rfl⟩ := h
  exact ⟨body, hbody.weaken strays, rfl⟩

/-- What is well formed without stray bytes is well formed where there may be some. -/
theorem WellFormed.weaken (strays : Bool) (h : WellFormed false text) : WellFormed strays text := by
  induction h with
  | padded hbefore _ hafter ih => exact .padded hbefore ih hafter
  | nullWord => exact .nullWord
  | trueWord => exact .trueWord
  | falseWord => exact .falseWord
  | number h => exact .number h
  | string h => exact .string (h.weaken strays)
  | array hblank _ ih => exact .array hblank ih
  | object hblank hnames _ ih =>
    exact .object hblank (fun m hm => (hnames m hm).imp fun _ h => h.weaken strays) ih

theorem Member.Good.weaken {m : Member} (strays : Bool) (h : m.Good false) : m.Good strays :=
  ⟨h.spelled, h.value.weaken strays⟩

theorem Padded.wellFormed {core : List Char → Prop} (h : Padded core text)
    (hcore : ∀ inner, core inner → WellFormed strays inner) : WellFormed strays text := by
  obtain ⟨hbefore, hinner, hafter⟩ := h
  exact .padded hbefore (hcore _ hinner) hafter

theorem quoted_of_stringForm {s : String} (strays : Bool) (h : stringForm s text) :
    Padded (IsQuoted strays) text := by
  obtain ⟨hbefore, ⟨body, hbody, rfl⟩, hafter⟩ := h
  exact .around hbefore ⟨body, StringLiteral.quotable_of_spells strays hbody, rfl⟩ hafter

theorem wellFormed_of_stringForm {s : String} (h : stringForm s text) : WellFormed strays text :=
  (quoted_of_stringForm strays h).wellFormed fun _ => .string

theorem wellFormed_of_intForm {n : Int} (h : intForm n text) : WellFormed strays text := by
  refine h.wellFormed ?_
  rintro _ rfl
  exact .number (isNumber_intText n)

theorem wellFormed_of_optionForm {form : Form α}
    (hform : ∀ {x text}, form x text → WellFormed strays text) {x : Option α}
    (h : optionForm form x text) : WellFormed strays text := by
  cases x with
  | none =>
    refine Padded.wellFormed h ?_
    rintro _ rfl
    exact .nullWord
  | some x => exact hform h

theorem wellFormed_of_arrayText {items : List (List Char)} (h : ArrayText items text)
    (hitems : ∀ item ∈ items, WellFormed strays item) : WellFormed strays text := by
  refine h.wellFormed ?_
  rintro _ ⟨blank, hblank, rfl⟩
  exact .array hblank hitems

theorem wellFormed_of_objectText {members : List Member} (h : ObjectText members text)
    (hmembers : ∀ m ∈ members, m.Good strays) : WellFormed strays text := by
  refine h.wellFormed ?_
  rintro _ ⟨blank, hblank, rfl⟩
  have := @WellFormed.object strays blank (members.map fun m => (m.spelling, m.value)) hblank
    (by simpa using fun m hm => quoted_of_stringForm strays (hmembers m hm).spelled)
    (by simpa using fun m hm => (hmembers m hm).value)
  rwa [List.map_map] at this

/-- The texts of members are those of good members if the values are well formed. -/
theorem exists_members {form : Form α} {given : List (String × α)} {texts : List (List Char)}
    (h : List.Forall₂ (memberForm form) given texts)
    (hform : ∀ {x text}, form x text → WellFormed strays text) :
    ∃ members : List Member, (∀ m ∈ members, m.Good strays) ∧ texts = members.map Member.text := by
  induction h with
  | nil => exact ⟨[], by simp, rfl⟩
  | cons hm _ ih =>
    obtain ⟨spelling, value, hspelled, hvalue, rfl⟩ := hm
    obtain ⟨members, hmembers, rfl⟩ := ih
    exact ⟨⟨_, spelling, value⟩ :: members,
      List.forall_mem_cons.2 ⟨⟨hspelled, hform hvalue⟩, hmembers⟩, rfl⟩

/-- A value is well formed if its numbers are. -/
theorem wellFormed_of_valueForm {num : Form Number}
    (hnum : ∀ {n : Number} {text : List Char}, num n text → IsNumber text) {levels : Nat} {v : Value}
    (h : valueForm num levels v text) : WellFormed strays text := by
  induction levels using Nat.strongRecOn generalizing v text with
  | ind levels ih =>
  refine h.wellFormed fun inner hinner => ?_
  cases v with
  | null => exact valueText_null.1 hinner ▸ .nullWord
  | bool b =>
    cases b with
    | true => exact valueText_true.1 hinner ▸ .trueWord
    | false => exact valueText_false.1 hinner ▸ .falseWord
  | number n => exact .number (hnum (valueText_number.1 hinner))
  | string s =>
    obtain ⟨body, hbody, rfl⟩ := valueText_string.1 hinner
    exact .string ⟨body, StringLiteral.quotable_of_spells strays hbody, rfl⟩
  | array items =>
    obtain ⟨deeper, rfl, blank, texts, hblank, htexts, rfl⟩ := valueText_array.1 hinner
    exact .array hblank (forall_mem_of_forall₂ htexts fun h => ih deeper (Nat.lt_succ_self _) h)
  | object members =>
    obtain ⟨deeper, rfl, blank, given, texts, hblank, hgiven, -, rfl⟩ := valueText_object.1 hinner
    obtain ⟨members, hmembers, rfl⟩ := exists_members hgiven fun h => ih deeper (Nat.lt_succ_self _) h
    exact wellFormed_of_objectText (.of_core ⟨blank, hblank, rfl⟩) hmembers

/-! ### Parts of a text -/

theorem Member.Good.isMember {m : Member} (h : m.Good strays) : IsMember strays m.text :=
  ⟨m.spelling, m.value, quoted_of_stringForm strays h.spelled, h.value, rfl⟩

/-- A text of a member is that of one member only. -/
theorem Member.text_inj {m m' : Member} (h : m.Good strays) (h' : m'.Good strays)
    (heq : m.text = m'.text) : m = m' := by
  obtain ⟨hspelling, hvalue⟩ := name_inj (quoted_of_stringForm strays h.spelled)
    (quoted_of_stringForm strays h'.spelled) heq
  obtain ⟨name, spelling, value⟩ := m
  obtain ⟨name', spelling', value'⟩ := m'
  obtain rfl : spelling = spelling' := hspelling
  obtain rfl : value = value' := hvalue
  obtain rfl : name = name' := stringForm_inj h.spelled h'.spelled
  rfl

theorem members_inj {members members' : List Member} (h : ∀ m ∈ members, m.Good strays)
    (h' : ∀ m ∈ members', m.Good strays) (heq : members.map Member.text = members'.map Member.text) :
    members = members' := by
  induction members generalizing members' with
  | nil => simpa using heq.symm
  | cons m members ih =>
    cases members' with
    | nil => simp at heq
    | cons m' members' =>
      obtain ⟨hm, hmembers⟩ := List.forall_mem_cons.1 h
      obtain ⟨hm', hmembers'⟩ := List.forall_mem_cons.1 h'
      rw [List.map_cons, List.map_cons, List.cons.injEq] at heq
      rw [Member.text_inj hm hm' heq.1, ih hmembers hmembers' heq.2]

/-- The white space before two brackets is the same if the texts are. -/
theorem bracket_inj {before before' r r' : List Char} {ch ch' : Char} (hbefore : Padding before)
    (hbefore' : Padding before') (hch : isSpace ch = false) (hch' : isSpace ch' = false)
    (heq : before ++ ch :: r = before' ++ ch' :: r') : ch :: r = ch' :: r' := by
  have hdrop := congrArg (List.dropWhile isSpace) heq
  rw [List.dropWhile_append_of_pos hbefore, List.dropWhile_append_of_pos hbefore'] at hdrop
  simpa [hch, hch'] using hdrop

/-- What the brackets of a text begin with, behind the white space. -/
theorem exists_enclosed_of_padded {opening closing : Char} {parts : List (List Char)}
    (h : Padded (fun inner => ∃ blank, Padding blank ∧ inner = enclosed opening closing blank parts)
      text) :
    ∃ before blank after more, Padding before ∧ Padding blank ∧ text = before ++ opening :: more ∧
      opening :: more = enclosed opening closing blank parts ++ after := by
  obtain ⟨hbefore, ⟨blank, hblank, rfl⟩, -⟩ := h
  next before after =>
  obtain ⟨more, heq⟩ := exists_enclosed_cons opening closing blank parts
  exact ⟨before, blank, after, more ++ after, hbefore, hblank, by simp [heq], by simp [heq]⟩

/-- A text is that of an array with certain items only. -/
theorem arrayText_inj {items items' : List (List Char)} (h : ArrayText items text)
    (h' : ArrayText items' text) (hitems : ∀ item ∈ items, WellFormed strays item)
    (hitems' : ∀ item ∈ items', WellFormed strays item) : items = items' := by
  obtain ⟨before, blank, after, more, hbefore, hblank, htext, heq⟩ := exists_enclosed_of_padded h
  obtain ⟨before', blank', after', more', hbefore', hblank', htext', heq'⟩ :=
    exists_enclosed_of_padded h'
  have hsame := bracket_inj hbefore hbefore' (by decide) (by decide) (htext.symm.trans htext')
  rw [heq, heq'] at hsame
  exact (enclosed_inj cutsOff_wellFormed WellFormed.opens (.inl rfl) hblank hblank' hitems hitems'
    hsame).1

/-- A member begins with a quotation mark, not with the bracket that ends the object. -/
theorem IsMember.opens (h : IsMember strays text) : Opens (· ≠ '\x7d') text := by
  obtain ⟨name, value, hname, -, rfl⟩ := h
  obtain ⟨ch, more, hdrop, rfl⟩ := opens_of_isQuoted hname
  exact Opens.append ⟨'"', more, hdrop, by decide⟩ _

/-- A text is that of an object with certain members only. -/
theorem objectText_inj {members members' : List Member} (h : ObjectText members text)
    (h' : ObjectText members' text) (hmembers : ∀ m ∈ members, m.Good strays)
    (hmembers' : ∀ m ∈ members', m.Good strays) : members = members' := by
  obtain ⟨before, blank, after, more, hbefore, hblank, htext, heq⟩ := exists_enclosed_of_padded h
  obtain ⟨before', blank', after', more', hbefore', hblank', htext', heq'⟩ :=
    exists_enclosed_of_padded h'
  have hsame := bracket_inj hbefore hbefore' (by decide) (by decide) (htext.symm.trans htext')
  rw [heq, heq'] at hsame
  exact members_inj hmembers hmembers' (enclosed_inj cutsOff_member IsMember.opens (.inr rfl) hblank
    hblank' (List.forall_mem_map.2 fun m hm => (hmembers m hm).isMember)
    (List.forall_mem_map.2 fun m hm => (hmembers' m hm).isMember) hsame).1

/-- No text is that of an object and of an array. -/
theorem objectText_ne_arrayText {members : List Member} {items : List (List Char)}
    (h : ObjectText members text) (h' : ArrayText items text) : False := by
  obtain ⟨before, -, -, more, hbefore, -, htext, -⟩ := exists_enclosed_of_padded h
  obtain ⟨before', -, -, more', hbefore', -, htext', -⟩ := exists_enclosed_of_padded h'
  have hsame := bracket_inj hbefore hbefore' (by decide) (by decide) (htext.symm.trans htext')
  simp at hsame

/-! ### Forms by their parts -/

theorem listForm_iff {form : Form α} {xs : List α} :
    listForm form xs text ↔ ∃ items, List.Forall₂ form xs items ∧ ArrayText items text := by
  constructor
  · rintro ⟨hbefore, ⟨blank, items, hblank, hitems, rfl⟩, hafter⟩
    exact ⟨items, hitems, .around hbefore ⟨blank, hblank, rfl⟩ hafter⟩
  · rintro ⟨items, hitems, ⟨hbefore, ⟨blank, hblank, rfl⟩, hafter⟩⟩
    exact .around hbefore ⟨blank, items, hblank, hitems, rfl⟩ hafter

namespace Shape

variable {ι : Type} {S : Shape ι} {form : (i : ι) → Form (S.Holds i)} {r : S.Record}

theorem objectForm_iff : S.objectForm strays form r text ↔
    ∃ members, S.Gives strays form r members ∧ ObjectText members text := by
  constructor
  · rintro ⟨hbefore, ⟨blank, members, hblank, hgives, rfl⟩, hafter⟩
    exact ⟨members, hgives, .around hbefore ⟨blank, hblank, rfl⟩ hafter⟩
  · rintro ⟨members, hgives, ⟨hbefore, ⟨blank, hblank, rfl⟩, hafter⟩⟩
    exact .around hbefore ⟨blank, members, hblank, hgives, rfl⟩ hafter

theorem tupleForm_iff : S.tupleForm form r text ↔
    ∃ texts, S.Lists form r S.fields texts ∧ ArrayText texts text := by
  constructor
  · rintro ⟨hbefore, ⟨blank, given, left, texts, hblank, hfields, hgiven, hleft, rfl⟩, hafter⟩
    exact ⟨texts, ⟨given, left, hfields, hgiven, hleft⟩, .around hbefore ⟨blank, hblank, rfl⟩ hafter⟩
  · rintro ⟨texts, ⟨given, left, hfields, hgiven, hleft⟩, ⟨hbefore, ⟨blank, hblank, rfl⟩, hafter⟩⟩
    exact .around hbefore ⟨blank, given, left, texts, hblank, hfields, hgiven, hleft, rfl⟩ hafter

/-- Members that may stand in an object for a record are good ones. -/
theorem Offers.good (hform : ∀ i {x text}, form i x text → WellFormed strays text)
    {members : List Member} (h : S.Offers strays form r members) : ∀ m ∈ members, m.Good strays := by
  intro m hm
  refine ⟨h.spelled m hm, ?_⟩
  by_cases hknown : ∃ i, S.name i = m.name
  · obtain ⟨i, hi⟩ := hknown
    exact hform i (h.known m hm i hi)
  · exact h.unknown m hm fun i hi => hknown ⟨i, hi⟩

theorem Lists.wellFormed (hform : ∀ i {x text}, form i x text → WellFormed strays text)
    {fields : List ι} {texts : List (List Char)} (h : S.Lists form r fields texts) :
    ∀ text ∈ texts, WellFormed strays text := by
  obtain ⟨given, left, -, hgiven, -⟩ := h
  exact forall_mem_of_forall₂ hgiven (hform _)

theorem wellFormed_of_textForm (hform : ∀ i {x text}, form i x text → WellFormed strays text)
    (h : S.textForm strays form r text) : WellFormed strays text := by
  rcases h with h | h
  · obtain ⟨members, hgives, htext⟩ := objectForm_iff.1 h
    exact wellFormed_of_objectText htext (hgives.toOffers.good hform)
  · obtain ⟨texts, hlists, htext⟩ := tupleForm_iff.1 h
    exact wellFormed_of_arrayText htext (hlists.wellFormed hform)

end Shape

end JobWorker.Json
