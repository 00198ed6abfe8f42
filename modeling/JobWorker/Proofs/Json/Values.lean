/-
Any value is read from its texts.

The form of a value says how deep it may nest, since readers stop at some depth: a scalar needs no
level, and brackets need one more than what they enclose.  The texts of an object may repeat a name;
the last value counts, and the object itself keeps every name once and in order.
-/
import JobWorker.Proofs.Json.Members
import JobWorker.Proofs.Json.Readers

namespace JobWorker.Json

variable {α : Type} {strays : Bool} {num : Form Number} {levels : Nat} {text : List Char}

/-- The texts of a member with a name and a value. -/
def memberForm (form : Form α) : Form (String × α) := fun m text =>
  ∃ spelling value, stringForm m.1 spelling ∧ form m.2 value ∧ text = memberText spelling value

/-- The texts of an object with the members that are left of those that are given. -/
def mapForm (form : Form Value) : Form Members := fun members => Padded fun inner =>
  ∃ blank given texts, Padding blank ∧ List.Forall₂ (memberForm form) given texts ∧
    members = Members.ofList given ∧ inner = enclosed '\x7b' '\x7d' blank texts

/-- The texts of a value that nest at most some levels, without white space around them.  Which texts
stand for a number is left open. -/
def ValueText (num : Form Number) : Nat → Form Value
  | _, .null, text => text = ['n', 'u', 'l', 'l']
  | _, .bool true, text => text = ['t', 'r', 'u', 'e']
  | _, .bool false, text => text = ['f', 'a', 'l', 's', 'e']
  | _, .number n, text => num n text
  | _, .string s, text => ∃ body, Spells s.toList body ∧ text = quoted body
  | 0, .array _, _ => False
  | 0, .object _, _ => False
  | levels + 1, .array items, text => ∃ blank texts, Padding blank ∧
      List.Forall₂ (fun v => Padded (ValueText num levels v)) items texts ∧
      text = enclosed '[' ']' blank texts
  | levels + 1, .object members, text => ∃ blank given texts, Padding blank ∧
      List.Forall₂ (memberForm fun v => Padded (ValueText num levels v)) given texts ∧
      members = Members.ofList given ∧ text = enclosed '\x7b' '\x7d' blank texts

/-- The texts of a value that nest at most some levels. -/
def valueForm (num : Form Number) (levels : Nat) : Form Value := fun v => Padded (ValueText num levels v)

@[simp] theorem valueText_null : ValueText num levels .null text ↔ text = ['n', 'u', 'l', 'l'] := by
  cases levels <;> rfl

@[simp] theorem valueText_true :
    ValueText num levels (.bool true) text ↔ text = ['t', 'r', 'u', 'e'] := by
  cases levels <;> rfl

@[simp] theorem valueText_false :
    ValueText num levels (.bool false) text ↔ text = ['f', 'a', 'l', 's', 'e'] := by
  cases levels <;> rfl

@[simp] theorem valueText_number {n : Number} :
    ValueText num levels (.number n) text ↔ num n text := by
  cases levels <;> rfl

@[simp] theorem valueText_string {s : String} :
    ValueText num levels (.string s) text ↔ ∃ body, Spells s.toList body ∧ text = quoted body := by
  cases levels <;> rfl

theorem valueText_array {items : List Value} :
    ValueText num levels (.array items) text ↔ ∃ deeper, levels = deeper + 1 ∧
      ∃ blank texts, Padding blank ∧ List.Forall₂ (valueForm num deeper) items texts ∧
        text = enclosed '[' ']' blank texts := by
  cases levels with
  | zero => simp [ValueText]
  | succ levels =>
    constructor
    · intro h
      exact ⟨levels, rfl, h⟩
    · rintro ⟨_, heq, h⟩
      cases heq
      exact h

theorem valueText_object {members : Members} :
    ValueText num levels (.object members) text ↔ ∃ deeper, levels = deeper + 1 ∧
      ∃ blank given texts, Padding blank ∧ List.Forall₂ (memberForm (valueForm num deeper)) given texts ∧
        members = Members.ofList given ∧ text = enclosed '\x7b' '\x7d' blank texts := by
  cases levels with
  | zero => simp [ValueText]
  | succ levels =>
    constructor
    · intro h
      exact ⟨levels, rfl, h⟩
    · rintro ⟨_, heq, h⟩
      cases heq
      exact h

theorem valueForm_string (s : String) : valueForm num levels (.string s) = stringForm s := by
  cases levels <;> rfl

theorem valueForm_array (items : List Value) :
    valueForm num (levels + 1) (.array items) = listForm (valueForm num levels) items := rfl

theorem valueForm_object (members : Members) :
    valueForm num (levels + 1) (.object members) = mapForm (valueForm num levels) members := rfl

/-! ### Objects -/

/-- Members are taken into an object in the order in which they stand. -/
theorem exists_folds {form : Form Value} {value : Cursor → Except Error (Value × Cursor)}
    (hvalue : ∀ {v : Value} {text : List Char}, form v text → Takes strays value v text)
    {given : List (String × Value)} {texts : List (List Char)}
    (h : List.Forall₂ (memberForm form) given texts) (kept : Members) :
    ∃ members : List Member, members.map Member.text = texts ∧
      Folds strays (readMember value) kept members
        (given.foldl (fun kept m => Members.insert m.1 m.2 kept) kept) := by
  induction h generalizing kept with
  | nil => exact ⟨[], rfl, .nil⟩
  | @cons m _ given texts hm _ ih =>
    obtain ⟨spelling, text, hspelled, htext, rfl⟩ := hm
    obtain ⟨members, rfl, hfolds⟩ := ih (Members.insert m.1 m.2 kept)
    refine ⟨⟨m.1, spelling, text⟩ :: members, rfl, .cons hspelled (fun c rest hends hc => ?_) hfolds⟩
    obtain ⟨c₁, hcolon, hc₁⟩ := Cursor.colon_of_before hc
    obtain ⟨c', hread, hc'⟩ := hvalue htext c₁ rest hends hc₁.before
    exact ⟨c', by simp [readMember, hcolon, hread, bind, Except.bind, pure, Except.pure], hc'⟩

theorem readObject_of_at {form : Form Value} {value : Cursor → Except Error (Value × Cursor)}
    (hvalue : ∀ {v : Value} {text : List Char}, form v text → Takes strays value v text)
    {blank : List Char} {given : List (String × Value)} {texts : List (List Char)}
    (hblank : Padding blank) (h : List.Forall₂ (memberForm form) given texts) {c : Cursor}
    {rest : List Char} (hc : c.At strays (enclosed '\x7b' '\x7d' blank texts ++ rest)) :
    ∃ c', readObject value c.next = .ok (Members.ofList given, c') ∧ c'.At strays rest := by
  obtain ⟨members, rfl, hfolds⟩ := exists_folds hvalue h []
  obtain ⟨c₁, hfold, hc₁⟩ := foldMembers_of_at hblank hfolds hc
  refine ⟨c₁.next, ?_, hc₁.next⟩
  simp only [readObject, hfold, bind, Except.bind, pure, Except.pure]
  rfl

/-- How the texts of brackets begin. -/
theorem exists_enclosed_opening {opening closing : Char} (hspace : isSpace opening = false)
    (hne : opening ≠ ']') {inner blank : List Char} {parts : List (List Char)}
    (h : inner = enclosed opening closing blank parts) :
    ∃ ch more, inner = ch :: more ∧ isSpace ch = false ∧ ch ≠ ']' := by
  obtain ⟨more, heq⟩ := exists_enclosed_cons opening closing blank parts
  exact ⟨opening, more, h.trans heq, hspace, hne⟩

theorem readMembers_accepts (h : Accepts strays readValue levels (valueForm NumberText levels)) :
    Accepts strays readMembers (levels + 1) (mapForm (valueForm NumberText levels)) := by
  refine .padded ?_ ?_
  · rintro _ _ ⟨blank, given, texts, -, -, -, hinner⟩
    exact exists_enclosed_opening (by decide) (by decide) hinner
  · rintro _ _ ⟨blank, given, texts, hblank, hgiven, rfl, rfl⟩ more c c₁ rest hmore - hskip hc₁
    obtain ⟨more, rfl⟩ := Nat.exists_eq_succ_of_ne_zero (Nat.ne_zero_of_lt hmore)
    obtain ⟨c', hread, hc'⟩ := readObject_of_at (fun htext c rest hends hc =>
      h.reads htext (Nat.le_of_succ_le_succ hmore) hends hc) hblank hgiven hc₁
    obtain ⟨_, heq⟩ := exists_enclosed_cons '\x7b' '\x7d' blank texts
    rw [heq] at hc₁
    exact ⟨c', by simp [readMembers, hskip, hc₁.rest, hread], hc'.before⟩

/-! ### Any value -/

/-- How the text of a value begins. -/
theorem ValueText.exists_cons {v : Value} (h : ValueText NumberText levels v text) :
    ∃ ch more, text = ch :: more ∧ isSpace ch = false ∧ ch ≠ ']' := by
  cases v with
  | null =>
    obtain rfl := valueText_null.1 h
    exact ⟨'n', _, rfl, by decide, by decide⟩
  | bool b =>
    cases b with
    | true =>
      obtain rfl := valueText_true.1 h
      exact ⟨'t', _, rfl, by decide, by decide⟩
    | false =>
      obtain rfl := valueText_false.1 h
      exact ⟨'f', _, rfl, by decide, by decide⟩
  | number n =>
    obtain ⟨l, hspelled, -⟩ := valueText_number.1 h
    obtain ⟨ch, more, rfl, hch⟩ := hspelled.isNumber.exists_cons
    exact ⟨ch, more, rfl, (number_char hch).1, (number_char hch).2.1⟩
  | string s =>
    obtain ⟨body, -, rfl⟩ := valueText_string.1 h
    exact ⟨'"', _, rfl, by decide, by decide⟩
  | array items =>
    obtain ⟨_, _, _, _, _, _, heq⟩ := valueText_array.1 h
    exact exists_enclosed_opening (by decide) (by decide) heq
  | object members =>
    obtain ⟨_, _, _, _, _, _, _, _, heq⟩ := valueText_object.1 h
    exact exists_enclosed_opening (by decide) (by decide) heq

/-- Before a number a reader of values reads the number. -/
theorem readValue_number {c c₁ : Cursor} {ch : Char} {more : List Char}
    (hch : ch = '-' ∨ ch.isDigit = true) (hskip : c.skipSpace = c₁) (hrest : c₁.rest = ch :: more) :
    readValue levels c = (readNumber c₁).map fun (n, c) => (.number n, c) := by
  obtain ⟨-, -, hquote, harray, hobject, hnull, htrue, hfalse⟩ := number_char hch
  have hnumber : (ch = '-' || ch.isDigit) = true := by simpa using hch
  cases levels <;> simp [readValue, hskip, hrest, hnumber] <;> rfl

/-- Before an array a reader of values reads a list of values. -/
theorem readValue_array {c c₁ : Cursor} {more : List Char} (hskip : c.skipSpace = c₁)
    (hrest : c₁.rest = '[' :: more) :
    readValue levels c = (readList readValue levels c).map fun (items, c) => (.array items, c) := by
  cases levels <;> simp [readValue, readList, hskip, hrest] <;> rfl

/-- Before an object a reader of values reads members. -/
theorem readValue_object {c c₁ : Cursor} {more : List Char} (hskip : c.skipSpace = c₁)
    (hrest : c₁.rest = '\x7b' :: more) :
    readValue levels c = (readMembers levels c).map fun (members, c) => (.object members, c) := by
  cases levels <;> simp [readValue, readMembers, hskip, hrest] <;> rfl

theorem readNumber_of_numberText {n : Number} {c : Cursor} {rest : List Char}
    (h : NumberText n text) (hends : Ends rest) (hc : c.At strays (text ++ rest)) :
    ∃ c', readNumber c = .ok (n, c') ∧ c'.At strays rest := by
  obtain ⟨l, hspelled, heval⟩ := h
  obtain ⟨c', hread, hc'⟩ := Literal.read_of_spelled .endInValue hspelled hends hc
  refine ⟨c', ?_, hc'⟩
  simp [readNumber, hread, heval, bind, Except.bind, pure, Except.pure]

/-- If values are read that nest one level less, then a value is read from its texts. -/
theorem readValue_accepts_of (h : ∀ deeper, levels = deeper + 1 →
    Accepts strays readValue deeper (valueForm NumberText deeper)) :
    Accepts strays readValue levels (valueForm NumberText levels) := by
  refine .padded ValueText.exists_cons ?_
  intro v inner htext more c c₁ rest hmore hends hskip hc₁
  have hword : ∀ {word : List Char} {ch : Char}, inner = ch :: word →
      ∃ c', c₁.next.word word = .ok c' ∧ c'.Before strays rest := by
    rintro word ch rfl
    obtain ⟨c', hword, hc'⟩ := hc₁.next.word word
    exact ⟨c', hword, hc'.before⟩
  cases v with
  | null =>
    obtain rfl := valueText_null.1 htext
    obtain ⟨c', hword, hc'⟩ := hword rfl
    refine ⟨c', ?_, hc'⟩
    cases more <;> simp [readValue, hskip, hc₁.rest, hword, bind, Except.bind, pure, Except.pure]
  | bool b =>
    cases b with
    | true =>
      obtain rfl := valueText_true.1 htext
      obtain ⟨c', hword, hc'⟩ := hword rfl
      refine ⟨c', ?_, hc'⟩
      cases more <;> simp [readValue, hskip, hc₁.rest, hword, bind, Except.bind, pure, Except.pure]
    | false =>
      obtain rfl := valueText_false.1 htext
      obtain ⟨c', hword, hc'⟩ := hword rfl
      refine ⟨c', ?_, hc'⟩
      cases more <;> simp [readValue, hskip, hc₁.rest, hword, bind, Except.bind, pure, Except.pure]
  | number n =>
    have hnumber := valueText_number.1 htext
    obtain ⟨c', hread, hc'⟩ := readNumber_of_numberText hnumber hends hc₁
    obtain ⟨l, hspelled, -⟩ := hnumber
    obtain ⟨ch, tail, rfl, hch⟩ := hspelled.isNumber.exists_cons
    refine ⟨c', ?_, hc'.before⟩
    rw [readValue_number hch hskip hc₁.rest, hread]
    rfl
  | string s =>
    obtain ⟨body, hbody, rfl⟩ := valueText_string.1 htext
    obtain ⟨c', hread, hc'⟩ := StringLiteral.read_of_spells hbody (by simpa using hc₁.next)
    refine ⟨c', ?_, hc'.before⟩
    cases more <;>
      simp [readValue, hskip, hc₁.rest, quoted, hread, bind, Except.bind, pure, Except.pure]
  | array items =>
    obtain ⟨deeper, rfl, htext⟩ := valueText_array.1 htext
    obtain ⟨c', hread, hc'⟩ := (readList_accepts (h deeper rfl)).reads (.of_core htext) hmore hends
      (Cursor.before_of_skip hskip hc₁)
    obtain ⟨_, _, _, _, rfl⟩ := htext
    obtain ⟨_, heq⟩ := exists_enclosed_cons '[' ']' _ _
    rw [heq] at hc₁
    refine ⟨c', ?_, hc'⟩
    rw [readValue_array hskip hc₁.rest, hread]
    rfl
  | object members =>
    obtain ⟨deeper, rfl, htext⟩ := valueText_object.1 htext
    obtain ⟨c', hread, hc'⟩ := (readMembers_accepts (h deeper rfl)).reads (.of_core htext) hmore hends
      (Cursor.before_of_skip hskip hc₁)
    obtain ⟨_, _, _, _, _, _, rfl⟩ := htext
    obtain ⟨_, heq⟩ := exists_enclosed_cons '\x7b' '\x7d' _ _
    rw [heq] at hc₁
    refine ⟨c', ?_, hc'⟩
    rw [readValue_object hskip hc₁.rest, hread]
    rfl

/-- A value is read from its texts. -/
theorem readValue_accepts (levels : Nat) : Accepts strays readValue levels (valueForm NumberText levels) := by
  induction levels with
  | zero => exact readValue_accepts_of fun _ h => by cases h
  | succ levels ih =>
    refine readValue_accepts_of fun deeper h => ?_
    cases h
    exact ih

/-- A text is that of one value only. -/
theorem valueForm_inj {v w : Value} (h : valueForm NumberText levels v text)
    (h' : valueForm NumberText levels w text) : v = w :=
  (@readValue_accepts false levels).unique h h'

end JobWorker.Json
