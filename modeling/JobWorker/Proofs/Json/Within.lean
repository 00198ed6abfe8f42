/-
Values inside of values.

A text of a value holds texts of the values that it is made of.  Each of them stands for a value of its
own, only that fewer levels are left for it.  So whatever stands for no value spoils every text that it
stands in: brackets below the deepest level, and numbers that are out of range.  And what follows a
document can be no more than white space, for an object ends where its bracket is closed.
-/
import JobWorker.Proofs.Json.Floats
import JobWorker.Proofs.Json.Readback

namespace JobWorker.Json

variable {num : Form Number} {levels n : Nat} {v : Value} {members : Members} {strays : Bool}
  {part text rest : List Char}

/-- A text stands in another as the text of a value, so many brackets deep. -/
inductive Within (part : List Char) : Nat → List Char → Prop
  | here : Within part 0 part
  | item {n : Nat} {items : List (List Char)} {item text : List Char} : ArrayText items text →
      (∀ item ∈ items, WellFormed false item) → item ∈ items → Within part n item →
      Within part (n + 1) text
  | member {n : Nat} {members : List Member} {m : Member} {text : List Char} :
      ObjectText members text → (∀ m ∈ members, m.Good false) → m ∈ members →
      Within part n m.value → Within part (n + 1) text

/-! ### Brackets tell what they are -/

theorem ArrayText.opens {items : List (List Char)} (h : ArrayText items text) : Opens (· = '[') text := by
  refine Padded.opens h ?_
  rintro _ ⟨blank, -, rfl⟩
  obtain ⟨more, heq⟩ := exists_enclosed_cons '[' ']' blank items
  exact ⟨'[', more, heq, by decide, rfl⟩

theorem ObjectText.opens {parts : List Member} (h : ObjectText parts text) : Opens (· = '\x7b') text := by
  refine Padded.opens h ?_
  rintro _ ⟨blank, -, rfl⟩
  obtain ⟨more, heq⟩ := exists_enclosed_cons '\x7b' '\x7d' blank (parts.map Member.text)
  exact ⟨'\x7b', more, heq, by decide, rfl⟩

/-- An object takes a level. -/
theorem exists_levels_of_object (h : valueForm num levels (.object members) text) :
    ∃ deeper, levels = deeper + 1 := by
  obtain ⟨-, hinner, -⟩ := h
  obtain ⟨deeper, rfl, -⟩ := valueText_object.1 hinner
  exact ⟨deeper, rfl⟩

section

variable (hnum : ∀ {n : Number} {text : List Char}, num n text → IsNumber text)

include hnum

/-- What stands for a value and begins with a square bracket stands for an array. -/
theorem exists_items_of_opens (h : valueForm num levels v text) (hopens : Opens (· = '[') text) :
    ∃ deeper items, levels = deeper + 1 ∧ v = .array items ∧
      listForm (valueForm num deeper) items text := by
  obtain ⟨_, htoken, rfl⟩ := (valueForm_opens hnum h).exists_both hopens
  cases @Value.alike_of_token v (.array []) htoken.symm with
  | @array items _ =>
    cases levels with
    | zero =>
      obtain ⟨-, hinner, -⟩ := h
      exact hinner.elim
    | succ deeper => exact ⟨deeper, items, rfl, rfl, h⟩

/-- What stands for a value and begins with a curly bracket stands for an object. -/
theorem exists_members_of_opens (h : valueForm num levels v text) (hopens : Opens (· = '\x7b') text) :
    ∃ deeper members, levels = deeper + 1 ∧ v = .object members ∧
      mapForm (valueForm num deeper) members text := by
  obtain ⟨_, htoken, rfl⟩ := (valueForm_opens hnum h).exists_both hopens
  cases @Value.alike_of_token v (.object []) htoken.symm with
  | @object members _ =>
    cases levels with
    | zero =>
      obtain ⟨-, hinner, -⟩ := h
      exact hinner.elim
    | succ deeper => exact ⟨deeper, members, rfl, rfl, h⟩

/-! ### Every part is a value -/

/-- **What a text is made of stands for values**, with as many levels less as it stands deep. -/
theorem Within.exists_value (h : Within part n text) (hv : valueForm num levels v text) :
    ∃ deeper w, levels = deeper + n ∧ valueForm num deeper w part := by
  induction h generalizing levels v with
  | here => exact ⟨levels, v, rfl, hv⟩
  | item htext hitems hmem _ ih =>
    obtain ⟨deeper, values, rfl, rfl, hlist⟩ := exists_items_of_opens hnum hv htext.opens
    obtain ⟨items', hvalues, htext'⟩ := listForm_iff.1 hlist
    obtain rfl := arrayText_inj htext htext' hitems
      (forall_mem_of_forall₂ hvalues (wellFormed_of_valueForm hnum))
    obtain ⟨w, -, hw⟩ := exists_mem_of_forall₂ hvalues.flip hmem
    obtain ⟨further, u, rfl, hu⟩ := ih hw
    exact ⟨further, u, by omega, hu⟩
  | @member n members m text htext hgood hmem _ ih =>
    obtain ⟨deeper, values, rfl, rfl, hmap⟩ := exists_members_of_opens hnum hv htext.opens
    obtain ⟨given, members', hgiven, -, htext', hgood'⟩ :=
      exists_objectText (wellFormed_of_valueForm hnum) hmap
    obtain rfl := objectText_inj htext htext' hgood hgood'
    obtain ⟨w, -, spelling, value, hspelling, hvalue, heq⟩ :=
      exists_mem_of_forall₂ hgiven.flip (List.mem_map_of_mem hmem)
    obtain ⟨-, rfl⟩ := name_inj (quoted_of_stringForm false (hgood m hmem).spelled)
      (quoted_of_stringForm false hspelling) heq
    obtain ⟨further, u, rfl, hu⟩ := ih hvalue
    exact ⟨further, u, by omega, hu⟩

/-- Brackets that stand too deep spoil the text. -/
theorem Within.not_valueForm_of_deep (h : Within part n text)
    (hopens : Opens (fun c => c = '[' ∨ c = '\x7b') part) (hdeep : levels ≤ n) :
    ¬ valueForm num levels v text := by
  intro hv
  obtain ⟨deeper, w, rfl, hw⟩ := h.exists_value hnum hv
  obtain rfl : deeper = 0 := by omega
  obtain ⟨ch, more, hdrop, rfl | rfl⟩ := hopens
  · obtain ⟨_, _, hzero, -⟩ := exists_items_of_opens hnum hw ⟨_, more, hdrop, rfl⟩
    cases hzero
  · obtain ⟨_, _, hzero, -⟩ := exists_members_of_opens hnum hw ⟨_, more, hdrop, rfl⟩
    cases hzero

end

/-- A number that is out of range spoils the text. -/
theorem Within.not_valueForm_of_tooLarge {l : Literal} {unread : Nat} (h : Within part n text)
    (hspelled : Padded l.Spelled part) (hlarge : l.evaluate = .tooLarge unread) :
    ¬ valueForm NumberText levels v text := by
  intro hv
  obtain ⟨deeper, w, -, hw⟩ := h.exists_value NumberText.isNumber hv
  obtain ⟨hbefore, hspelled, hafter⟩ := hspelled
  next before number after =>
  obtain ⟨ch, more, rfl, hch⟩ := hspelled.isNumber.exists_cons
  have hopens : Opens (fun c => tokenOf c = '0') (before ++ (ch :: more) ++ after) :=
    Opens.around (opens_cons (p := fun c => tokenOf c = '0') (number_char hch).1 (if_pos hch)) hbefore
      after
  obtain ⟨_, htoken, hzero⟩ := (valueForm_opens NumberText.isNumber hw).exists_both hopens
  cases @Value.alike_of_token w (.number default) (htoken.symm.trans hzero) with
  | number =>
    obtain ⟨l', hspelled', hnumber⟩ := number_of_valueForm NumberText.isNumber hw
    rw [filter_of_padded (.around hbefore rfl hafter) hspelled.isNumber.not_isSpace] at hspelled'
    obtain rfl := hspelled.unique hspelled'
    rw [hlarge] at hnumber
    cases hnumber

/-! ### Behind the end -/

/-- Brackets that are well formed are those of an object, if they are curly. -/
theorem WellFormed.exists_parts (h : WellFormed strays text) (hopens : Opens (· = '\x7b') text) :
    Padded (fun inner => ∃ blank parts, Padding blank ∧ (∀ part ∈ parts, IsMember strays part) ∧
      inner = enclosed '\x7b' '\x7d' blank parts) text := by
  induction h with
  | @padded before text after hbefore htext hafter ih =>
    refine Padded.padded (ih ?_) hbefore hafter
    obtain ⟨ch, more, hdrop, -⟩ := htext.opens
    have heither : Opens (· = ch) text := ⟨ch, more, hdrop, rfl⟩
    obtain ⟨_, rfl, rfl⟩ := (heither.around hbefore after).exists_both hopens
    exact heither
  | nullWord =>
    obtain ⟨_, hch, rfl⟩ := (opens_cons (p := (· = 'n')) rfl rfl).exists_both hopens
    cases hch
  | trueWord =>
    obtain ⟨_, hch, rfl⟩ := (opens_cons (p := (· = 't')) rfl rfl).exists_both hopens
    cases hch
  | falseWord =>
    obtain ⟨_, hch, rfl⟩ := (opens_cons (p := (· = 'f')) rfl rfl).exists_both hopens
    cases hch
  | number hnumber =>
    obtain ⟨ch, more, rfl, hch⟩ := hnumber.exists_cons
    obtain ⟨_, rfl, rfl⟩ := (opens_cons (p := (· = ch)) (number_char hch).1 rfl).exists_both hopens
    rcases hch with h | h
    · cases h
    · exact absurd h (by decide)
  | string hquoted =>
    obtain ⟨body, -, rfl⟩ := hquoted
    obtain ⟨_, hch, rfl⟩ := (opens_cons (p := (· = '"')) rfl rfl).exists_both hopens
    cases hch
  | @array blank items hblank hitems =>
    have harray : ArrayText items (enclosed '[' ']' blank items) := .of_core ⟨blank, hblank, rfl⟩
    obtain ⟨_, hch, rfl⟩ := harray.opens.exists_both hopens
    cases hch
  | @object blank members hblank hnames hvalues =>
    refine .of_core ⟨blank, _, hblank, List.forall_mem_map.2 fun m hm => ?_, rfl⟩
    exact ⟨m.1, m.2, hnames m hm, hvalues m hm, rfl⟩

/-- What stands before and behind a text does not tell where its brackets end. -/
theorem padding_of_enclosed_append {blank blank' before before' after after' : List Char}
    {parts parts' : List (List Char)} (hblank : Padding blank) (hblank' : Padding blank')
    (hparts : ∀ part ∈ parts, IsMember strays part) (hparts' : ∀ part ∈ parts', IsMember strays part)
    (hbefore : Padding before) (hbefore' : Padding before') (hafter' : Padding after')
    (heq : before ++ enclosed '\x7b' '\x7d' blank parts ++ after =
      before' ++ enclosed '\x7b' '\x7d' blank' parts' ++ after') : Padding after := by
  obtain ⟨more, hopened⟩ := exists_enclosed_cons '\x7b' '\x7d' blank parts
  obtain ⟨more', hopened'⟩ := exists_enclosed_cons '\x7b' '\x7d' blank' parts'
  have heq' : before ++ '\x7b' :: (more ++ after) = before' ++ '\x7b' :: (more' ++ after') := by
    simpa [hopened, hopened'] using heq
  have hsame : enclosed '\x7b' '\x7d' blank parts ++ after =
      enclosed '\x7b' '\x7d' blank' parts' ++ after' := by
    simpa [hopened, hopened'] using bracket_inj hbefore hbefore' (by decide) (by decide) heq'
  obtain ⟨-, rfl⟩ := enclosed_inj cutsOff_member IsMember.opens (.inr rfl) hblank hblank' hparts hparts'
    hsame
  exact hafter'

/-- **A text with more than white space behind it is no object**, whatever the text and the rest. -/
theorem not_valueForm_append (hnum : ∀ {n : Number} {text : List Char}, num n text → IsNumber text)
    (h : WellFormed false text) (hrest : ¬ Padding rest) :
    ¬ valueForm num levels (.object members) (text ++ rest) := by
  intro hv
  generalize hwhole : text ++ rest = whole at hv
  obtain ⟨deeper, rfl⟩ := exists_levels_of_object hv
  obtain ⟨-, members', -, -, hobject, hgood⟩ := exists_objectText (wellFormed_of_valueForm hnum)
    (valueForm_object members ▸ hv)
  obtain ⟨ch, more, hdrop, -⟩ := h.opens
  have hcurly : Opens (· = '\x7b') text := by
    have hch : Opens (· = ch) text := ⟨ch, more, hdrop, rfl⟩
    obtain ⟨_, rfl, rfl⟩ := (hch.append rest).exists_both (hwhole ▸ hobject.opens)
    exact hch
  obtain ⟨hbefore, ⟨blank, parts, hblank, hparts, rfl⟩, hafter⟩ := h.exists_parts hcurly
  next before after =>
  obtain ⟨hbefore', ⟨blank', hblank', rfl⟩, hafter'⟩ := hobject
  next before' after' =>
  have hall : Padding (after ++ rest) := padding_of_enclosed_append hblank hblank' hparts
    (List.forall_mem_map.2 fun m hm => (hgood m hm).isMember) hbefore hbefore' hafter'
    (by rw [← List.append_assoc]; exact hwhole)
  exact hrest fun c hc => hall c (List.mem_append_right _ hc)

end JobWorker.Json
