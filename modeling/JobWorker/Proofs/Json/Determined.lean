/-
A text stands for one value, whoever reads it.

Which texts stand for a number is left to the reader.  If a text is that of one number at most, then it
is that of one value at most, however deep the reader goes: the first character tells which kind of value
it is, the parts of brackets are found in one way only, and the parts are shorter.
-/
import JobWorker.Proofs.Json.Parts

namespace JobWorker.Json

variable {num : Form Number} {levels levels' : Nat} {v w : Value} {text : List Char}

/-! ### Kinds of values -/

/-- The character that tells the kind of a value; it is a zero for all numbers. -/
def Value.token : Value → Char
  | .null => 'n'
  | .bool true => 't'
  | .bool false => 'f'
  | .number _ => '0'
  | .string _ => '"'
  | .array _ => '['
  | .object _ => '\x7b'

/-- The kind that a text has by its first character. -/
def tokenOf (c : Char) : Char := if c = '-' ∨ c.isDigit = true then '0' else c

/-- Two values of one kind, and the same one where the kind has but one. -/
inductive Value.Alike : Value → Value → Prop
  | null : Alike .null .null
  | bool {b : Bool} : Alike (.bool b) (.bool b)
  | number {n n' : Number} : Alike (.number n) (.number n')
  | string {s s' : String} : Alike (.string s) (.string s')
  | array {items items' : List Value} : Alike (.array items) (.array items')
  | object {members members' : Members} : Alike (.object members) (.object members')

theorem Value.alike_of_token (h : v.token = w.token) : v.Alike w := by
  rcases v with _ | (_ | _) | _ | _ | _ | _ <;> rcases w with _ | (_ | _) | _ | _ | _ | _ <;>
    first | constructor | exact absurd h (by simp [token])

/-- The first character of a text tells which kind of value it stands for. -/
theorem valueForm_opens (hnum : ∀ {n : Number} {text : List Char}, num n text → IsNumber text)
    (h : valueForm num levels v text) : Opens (fun c => tokenOf c = v.token) text := by
  refine Padded.opens h fun inner hinner => ?_
  cases v with
  | null => exact ⟨'n', _, valueText_null.1 hinner, by decide, by decide⟩
  | bool b =>
    cases b with
    | true => exact ⟨'t', _, valueText_true.1 hinner, by decide, by decide⟩
    | false => exact ⟨'f', _, valueText_false.1 hinner, by decide, by decide⟩
  | number n =>
    obtain ⟨ch, more, rfl, hch⟩ := (hnum (valueText_number.1 hinner)).exists_cons
    exact ⟨ch, more, rfl, (number_char hch).1, if_pos hch⟩
  | string s =>
    obtain ⟨body, -, rfl⟩ := valueText_string.1 hinner
    exact ⟨'"', _, rfl, by decide, rfl⟩
  | array items =>
    obtain ⟨_, -, blank, texts, -, -, rfl⟩ := valueText_array.1 hinner
    obtain ⟨more, heq⟩ := exists_enclosed_cons '[' ']' blank texts
    exact ⟨'[', more, heq, by decide, rfl⟩
  | object members =>
    obtain ⟨_, -, blank, _, texts, -, -, -, rfl⟩ := valueText_object.1 hinner
    obtain ⟨more, heq⟩ := exists_enclosed_cons '\x7b' '\x7d' blank texts
    exact ⟨'\x7b', more, heq, by decide, rfl⟩

/-! ### One value for a text -/

/-- What is left of a padded text without blanks when white space is dropped. -/
theorem filter_of_padded {core : List Char} (h : Padded (· = core) text)
    (hcore : ∀ c ∈ core, isSpace c = false) : text.filter (fun c => !isSpace c) = core := by
  obtain ⟨hbefore, rfl, hafter⟩ := h
  next before inner after =>
  have hnone : ∀ {blank : List Char}, Padding blank → blank.filter (fun c => !isSpace c) = [] :=
    fun h => List.filter_eq_nil_iff.2 fun c hc => by simp [h c hc]
  have hall : inner.filter (fun c => !isSpace c) = inner :=
    List.filter_eq_self.2 fun c hc => by simp [hcore c hc]
  rw [List.filter_append, List.filter_append, hnone hbefore, hnone hafter, hall]
  simp

theorem IsNumber.not_isSpace {number : List Char} (h : IsNumber number) :
    ∀ c ∈ number, isSpace c = false := by
  have hdigits : ∀ {digits : List Char}, IsDigits digits → ∀ c ∈ digits, isSpace c = false :=
    fun h c hc => (number_char (.inr (h.2 c hc))).1
  obtain ⟨hsign, hwhole, hfraction, hpower⟩ := h
  refine List.forall_mem_append.2 ⟨List.forall_mem_append.2 ⟨List.forall_mem_append.2 ⟨?_, ?_⟩, ?_⟩, ?_⟩
  · revert hsign
    simp only [List.mem_cons, List.not_mem_nil, or_false]
    rintro (rfl | rfl) <;> simp [isSpace]
  · exact hdigits hwhole.1
  · cases hfraction with
    | none => simp
    | digits h => exact List.forall_mem_cons.2 ⟨rfl, hdigits h⟩
  · cases hpower with
    | none => simp
    | digits hmark hsign h =>
      refine List.forall_mem_append.2 ⟨List.forall_mem_cons.2 ⟨?_, ?_⟩, hdigits h⟩
      · rcases hmark with rfl | rfl <;> rfl
      · revert hsign
        simp only [List.mem_cons, List.not_mem_nil, or_false]
        rintro (rfl | rfl | rfl) <;> simp [isSpace]

/-- What stands for a number but for white space stands for it without. -/
theorem number_of_valueForm (hnum : ∀ {n : Number} {text : List Char}, num n text → IsNumber text)
    {n : Number} (h : valueForm num levels (.number n) text) :
    num n (text.filter fun c => !isSpace c) := by
  obtain ⟨hbefore, hinner, hafter⟩ := h
  have hinner := valueText_number.1 hinner
  rwa [filter_of_padded (.around hbefore rfl hafter) (hnum hinner).not_isSpace]

variable {α : Type}

/-- The items of an array are found in its text. -/
theorem listForm_unique {form : Form α} {xs ys : List α}
    (hform : ∀ {x text}, form x text → WellFormed false text) (hunique : Relator.LeftUnique form)
    (h : listForm form xs text) (h' : listForm form ys text) : xs = ys := by
  obtain ⟨items, hitems, htext⟩ := listForm_iff.1 h
  obtain ⟨items', hitems', htext'⟩ := listForm_iff.1 h'
  obtain rfl := arrayText_inj htext htext' (forall_mem_of_forall₂ hitems hform)
    (forall_mem_of_forall₂ hitems' hform)
  exact List.left_unique_forall₂' hunique hitems hitems'

/-- A member is found in its text. -/
theorem memberForm_unique {form : Form α} (hunique : Relator.LeftUnique form) :
    Relator.LeftUnique (memberForm form) := by
  rintro m m' text ⟨spelling, value, hspelled, hvalue, rfl⟩ ⟨spelling', value', hspelled', hvalue', heq⟩
  obtain ⟨rfl, rfl⟩ :=
    name_inj (quoted_of_stringForm false hspelled) (quoted_of_stringForm false hspelled') heq
  exact Prod.ext (stringForm_inj hspelled hspelled') (hunique hvalue hvalue')

/-- What stands for an object consists of good members. -/
theorem exists_objectText {form : Form Value} {members : Members}
    (hform : ∀ {v text}, form v text → WellFormed false text) (h : mapForm form members text) :
    ∃ given parts, List.Forall₂ (memberForm form) given (parts.map Member.text) ∧
      members = Members.ofList given ∧ ObjectText parts text ∧ ∀ m ∈ parts, m.Good false := by
  obtain ⟨hbefore, ⟨blank, given, texts, hblank, hgiven, rfl, rfl⟩, hafter⟩ := h
  obtain ⟨parts, hparts, rfl⟩ := exists_members hgiven hform
  exact ⟨given, parts, hgiven, rfl, .around hbefore ⟨blank, hblank, rfl⟩ hafter, hparts⟩

/-- The members of an object are found in its text. -/
theorem mapForm_unique {form : Form Value} {members members' : Members}
    (hform : ∀ {v text}, form v text → WellFormed false text)
    (hunique : Relator.LeftUnique form) (h : mapForm form members text)
    (h' : mapForm form members' text) : members = members' := by
  obtain ⟨given, parts, hgiven, rfl, htext, hgood⟩ := exists_objectText hform h
  obtain ⟨given', parts', hgiven', rfl, htext', hgood'⟩ := exists_objectText hform h'
  obtain rfl := objectText_inj htext htext' hgood hgood'
  rw [List.left_unique_forall₂' (memberForm_unique hunique) hgiven hgiven']

/-- **A text stands for one value**, if no text stands for two numbers. -/
theorem valueForm_unique (hnum : ∀ {n : Number} {text : List Char}, num n text → IsNumber text)
    (hunique : Relator.LeftUnique num) (h : valueForm num levels v text)
    (h' : valueForm num levels w text) : v = w := by
  induction levels using Nat.strong_induction_on generalizing v w text with
  | _ levels ih =>
  have hwell : ∀ {levels : Nat} {v : Value} {text : List Char}, valueForm num levels v text →
      WellFormed false text := wellFormed_of_valueForm hnum
  obtain ⟨ch, htoken, htoken'⟩ := (valueForm_opens hnum h).exists_both (valueForm_opens hnum h')
  cases Value.alike_of_token (htoken.symm.trans htoken') with
  | null => rfl
  | bool => rfl
  | number => rw [hunique (number_of_valueForm hnum h) (number_of_valueForm hnum h')]
  | string =>
    rw [valueForm_string] at h h'
    rw [stringForm_inj h h']
  | array =>
    cases levels with
    | zero => obtain ⟨-, hinner, -⟩ := h; exact hinner.elim
    | succ deeper =>
      rw [valueForm_array] at h h'
      rw [listForm_unique hwell (fun _ _ _ => ih deeper (Nat.lt_succ_self _)) h h']
  | object =>
    cases levels with
    | zero => obtain ⟨-, hinner, -⟩ := h; exact hinner.elim
    | succ deeper =>
      rw [valueForm_object] at h h'
      rw [mapForm_unique hwell (fun _ _ _ => ih deeper (Nat.lt_succ_self _)) h h']

end JobWorker.Json
