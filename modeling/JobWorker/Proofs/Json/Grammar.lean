/-
Which texts are JSON, and what they stand for.

The grammar is written down here without regard to how a text is read: a text is put together from
its parts, and white space may stand around every part.  A `Form` of a kind of value says which
texts stand for each value.  Strings have many texts, for every character may be escaped; integers
have one, for other ways to write a number make it a floating-point number.

A value that nothing is made of only has to be well formed.  Its surrogates need no partners, its
numbers no limits, and where bytes need not be text its strings no text.
-/
import JobWorker.Json.Number
import JobWorker.Json.Printer
import Mathlib.Data.List.Forall2

namespace JobWorker.Json

/-- Which texts stand for a value. -/
abbrev Form (α : Type) := α → List Char → Prop

/-! ### White space and brackets -/

/-- A text of white space. -/
def Padding (text : List Char) : Prop := ∀ c ∈ text, isSpace c = true

/-- A text of some kind with white space around it. -/
inductive Padded (core : List Char → Prop) : List Char → Prop
  | around {before inner after : List Char} : Padding before → core inner → Padding after →
      Padded core (before ++ inner ++ after)

theorem padding_nil : Padding [] := by simp [Padding]

theorem Padding.append {text more : List Char} (h : Padding text) (h' : Padding more) :
    Padding (text ++ more) :=
  List.forall_mem_append.2 ⟨h, h'⟩

theorem Padded.of_core {core : List Char → Prop} {text : List Char} (h : core text) :
    Padded core text := by
  simpa using Padded.around padding_nil h padding_nil

theorem Padded.imp {core core' : List Char → Prop} {text : List Char} (h : Padded core text)
    (hcore : ∀ inner, core inner → core' inner) : Padded core' text := by
  obtain ⟨hbefore, hinner, hafter⟩ := h
  exact .around hbefore (hcore _ hinner) hafter

/-- More white space may stand around a text that has some around it. -/
theorem Padded.padded {core : List Char → Prop} {text before after : List Char} (h : Padded core text)
    (hbefore : Padding before) (hafter : Padding after) : Padded core (before ++ text ++ after) := by
  obtain ⟨hbefore', hinner, hafter'⟩ := h
  next before' inner after' =>
  have := Padded.around (hbefore.append hbefore') hinner (hafter'.append hafter)
  simpa using this

/-- The parts behind the first, each after a comma, and the closing bracket. -/
def furtherParts (closing : Char) : List (List Char) → List Char
  | [] => [closing]
  | part :: parts => ',' :: part ++ furtherParts closing parts

/-- Parts in brackets; where there are none, white space may still stand between the brackets. -/
def enclosed (opening closing : Char) (blank : List Char) : List (List Char) → List Char
  | [] => opening :: blank ++ [closing]
  | part :: parts => opening :: part ++ furtherParts closing parts

/-- The text of a member of an object. -/
def memberText (name value : List Char) : List Char := name ++ ':' :: value

theorem chars_array (items : List Value) :
    (Value.array items).chars = enclosed '[' ']' [] (items.map Value.chars) := by
  have htail : ∀ items : List Value, tailChars items = furtherParts ']' (items.map Value.chars) := by
    intro items
    induction items with
    | nil => rfl
    | cons item items ih => simp [tailChars, furtherParts, ih]
  cases items with
  | nil => rfl
  | cons item items => simp [Value.chars, enclosed, htail]

theorem chars_object (members : List (String × Value)) :
    (Value.object members).chars = enclosed '\x7b' '\x7d' []
      (members.map fun m => memberText (StringLiteral.write m.1) m.2.chars) := by
  have htail : ∀ members : List (String × Value), memberChars members = furtherParts '\x7d'
      (members.map fun m => memberText (StringLiteral.write m.1) m.2.chars) := by
    intro members
    induction members with
    | nil => rfl
    | cons m members ih => simp [memberChars, furtherParts, memberText, ih]
  cases members with
  | nil => rfl
  | cons m members => simp [Value.chars, enclosed, memberText, htail]

/-! ### Lists, item by item -/

section

variable {α β : Type} {R : α → β → Prop} {xs : List α} {ys : List β}

/-- What is related to something in a list is related to something in the other. -/
theorem exists_mem_of_forall₂ (h : List.Forall₂ R xs ys) {x : α} (hx : x ∈ xs) :
    ∃ y ∈ ys, R x y := by
  induction h with
  | nil => cases hx
  | @cons x' y' xs ys hxy _ ih =>
    rcases List.mem_cons.1 hx with rfl | hx
    · exact ⟨y', by simp, hxy⟩
    · obtain ⟨y, hy, hxy⟩ := ih hx
      exact ⟨y, by simp [hy], hxy⟩

/-- What holds of everything that is related to something holds of a whole list. -/
theorem forall_mem_of_forall₂ {P : β → Prop} (h : List.Forall₂ R xs ys) (hP : ∀ {x y}, R x y → P y) :
    ∀ y ∈ ys, P y := by
  induction h with
  | nil => simp
  | cons hxy _ ih => exact List.forall_mem_cons.2 ⟨hP hxy, ih⟩

end

/-! ### Strings -/

/-- A text in quotes. -/
def quoted (body : List Char) : List Char := '"' :: body ++ ['"']

/-- The characters that a text between quotes stands for. -/
inductive Spells : List Char → List Char → Prop
  | nil : Spells [] []
  | plain {c : Char} {chars text : List Char} : c ≠ '"' → c ≠ '\\' → 0x20 ≤ c.toNat →
      Spells chars text → Spells (c :: chars) (c :: text)
  | short {letter c : Char} {chars text : List Char} : StringLiteral.shortEscape? letter = some c →
      Spells chars text → Spells (c :: chars) ('\\' :: letter :: text)
  | code {a b x y : Char} {n : Nat} {chars text : List Char} :
      StringLiteral.hexDigits? a b x y = some n →
      StringLiteral.isLeading n = false → StringLiteral.isTrailing n = false →
      Spells chars text → Spells (Char.ofNat n :: chars) ('\\' :: 'u' :: a :: b :: x :: y :: text)
  | pair {a b x y a' b' x' y' : Char} {n n' : Nat} {chars text : List Char} :
      StringLiteral.hexDigits? a b x y = some n → StringLiteral.isLeading n = true →
      StringLiteral.hexDigits? a' b' x' y' = some n' → StringLiteral.isTrailing n' = true →
      Spells chars text → Spells (StringLiteral.paired n n' :: chars)
        ('\\' :: 'u' :: a :: b :: x :: y :: '\\' :: 'u' :: a' :: b' :: x' :: y' :: text)

/-- The texts of a string. -/
def stringForm : Form String := fun s =>
  Padded fun inner => ∃ body, Spells s.toList body ∧ inner = quoted body

/-- A text that may stand between quotes; `strays` says whether marks for stray bytes may stand
there. -/
inductive Quotable (strays : Bool) : List Char → Prop
  | nil : Quotable strays []
  | plain {c : Char} {text : List Char} : c ≠ '"' → c ≠ '\\' → 0x20 ≤ c.toNat →
      Quotable strays text → Quotable strays (c :: text)
  | stray {text : List Char} : strays = true → Quotable strays text →
      Quotable strays (strayMark :: text)
  | short {letter : Char} {text : List Char} :
      (StringLiteral.shortEscape? letter).isSome = true →
      Quotable strays text → Quotable strays ('\\' :: letter :: text)
  | code {a b x y : Char} {text : List Char} :
      (StringLiteral.hexDigits? a b x y).isSome = true →
      Quotable strays text → Quotable strays ('\\' :: 'u' :: a :: b :: x :: y :: text)

/-- A text in quotes that is well formed. -/
def IsQuoted (strays : Bool) (text : List Char) : Prop :=
  ∃ body, Quotable strays body ∧ text = quoted body

/-! ### Numbers and other values -/

/-- The texts of an integer. -/
def intForm : Form Int := fun n => Padded (· = Decimal.intText n)

/-- The texts of a value that may be null. -/
def optionForm {α : Type} (form : Form α) : Form (Option α)
  | none => Padded (· = ['n', 'u', 'l', 'l'])
  | some x => form x

/-- The texts of an array whose items are of one kind. -/
def listForm {α : Type} (form : Form α) : Form (List α) := fun items =>
  Padded fun inner => ∃ blank texts, Padding blank ∧ List.Forall₂ form items texts ∧
    inner = enclosed '[' ']' blank texts

theorem listForm_written {α : Type} {form : Form α} {json : α → Value}
    (h : ∀ x, form x (json x).chars) (items : List α) :
    listForm form items (Value.array (items.map json)).chars := by
  refine .of_core ⟨[], items.map fun x => (json x).chars, padding_nil, ?_, ?_⟩
  · rw [List.forall₂_map_right_iff, List.forall₂_same]
    exact fun x _ => h x
  · rw [chars_array, List.map_map]
    rfl

/-- A row of digits. -/
def IsDigits (text : List Char) : Prop := text ≠ [] ∧ ∀ c ∈ text, c.isDigit = true

/-- The digits before the point; a zero stands alone. -/
def IsWhole (text : List Char) : Prop := IsDigits text ∧ (text.head? = some '0' → text = ['0'])

/-- The point and the digits after it, if there are any. -/
inductive IsFraction : List Char → Prop
  | none : IsFraction []
  | digits {text : List Char} : IsDigits text → IsFraction ('.' :: text)

/-- The power of ten, if there is one. -/
inductive IsPower : List Char → Prop
  | none : IsPower []
  | digits {mark : Char} {sign text : List Char} : mark = 'e' ∨ mark = 'E' →
      sign ∈ [[], ['+'], ['-']] → IsDigits text → IsPower (mark :: sign ++ text)

/-- A number, however large. -/
inductive IsNumber : List Char → Prop
  | parts {sign whole fraction power : List Char} : sign ∈ [[], ['-']] → IsWhole whole →
      IsFraction fraction → IsPower power → IsNumber (sign ++ whole ++ fraction ++ power)

/-- The texts of the sign of a power of ten. -/
inductive SignText : Bool → List Char → Prop
  | none : SignText false []
  | plus : SignText false ['+']
  | minus : SignText true ['-']

/-- The texts of the digits behind the point. -/
inductive FractionText : Option (List Char) → List Char → Prop
  | none : FractionText none []
  | digits {text : List Char} : IsDigits text → FractionText (some text) ('.' :: text)

/-- The texts of a power of ten. -/
inductive PowerText : Option Power → List Char → Prop
  | none : PowerText none []
  | digits {mark : Char} {negative : Bool} {sign text : List Char} : mark = 'e' ∨ mark = 'E' →
      SignText negative sign → IsDigits text → PowerText (some ⟨negative, text⟩) (mark :: sign ++ text)

/-- The texts of a literal. -/
inductive Literal.Spelled : Literal → List Char → Prop
  | parts {negative : Bool} {whole fractionText powerText : List Char}
      {fraction : Option (List Char)} {power : Option Power} : IsWhole whole →
      FractionText fraction fractionText → PowerText power powerText →
      Spelled ⟨negative, whole, fraction, power⟩
        ((if negative then ['-'] else []) ++ whole ++ fractionText ++ powerText)

/-- A literal is a number. -/
theorem Literal.Spelled.isNumber {l : Literal} {number : List Char} (h : l.Spelled number) :
    IsNumber number := by
  obtain ⟨hwhole, hfraction, hpower⟩ := h
  next negative _ _ _ _ _ =>
  refine .parts (by cases negative <;> simp) hwhole ?_ ?_
  · cases hfraction with
    | none => exact .none
    | digits hdigits => exact .digits hdigits
  · cases hpower with
    | none => exact .none
    | digits hmark hsign hdigits => exact .digits hmark (by cases hsign <;> simp) hdigits

/-- A number is a literal. -/
theorem IsNumber.exists_spelled {number : List Char} (h : IsNumber number) :
    ∃ l : Literal, l.Spelled number := by
  obtain ⟨hsign, hwhole, hfraction, hpower⟩ := h
  next sign whole fractionText powerText =>
  obtain ⟨negative, rfl⟩ : ∃ negative, sign = if negative = true then ['-'] else [] := by
    simp only [List.mem_cons, List.not_mem_nil, or_false] at hsign
    rcases hsign with rfl | rfl
    · exact ⟨false, rfl⟩
    · exact ⟨true, rfl⟩
  obtain ⟨fraction, hfraction⟩ : ∃ fraction, FractionText fraction fractionText := by
    cases hfraction with
    | none => exact ⟨none, .none⟩
    | digits hdigits => exact ⟨some _, .digits hdigits⟩
  obtain ⟨power, hpower⟩ : ∃ power, PowerText power powerText := by
    cases hpower with
    | none => exact ⟨none, .none⟩
    | digits hmark hsign hdigits =>
      simp only [List.mem_cons, List.not_mem_nil, or_false] at hsign
      rcases hsign with rfl | rfl | rfl
      · exact ⟨some _, .digits hmark .none hdigits⟩
      · exact ⟨some _, .digits hmark .plus hdigits⟩
      · exact ⟨some _, .digits hmark .minus hdigits⟩
  exact ⟨_, .parts hwhole hfraction hpower⟩

/-- The texts of a number: the literals that amount to it. -/
def NumberText : Form Number := fun n text => ∃ l : Literal, l.Spelled text ∧ l.evaluate = .number n

/-- A text that is a JSON value, but for marks of stray bytes if they may stand in strings. -/
inductive WellFormed (strays : Bool) : List Char → Prop
  | padded {before text after : List Char} : Padding before → WellFormed strays text → Padding after →
      WellFormed strays (before ++ text ++ after)
  | nullWord : WellFormed strays ['n', 'u', 'l', 'l']
  | trueWord : WellFormed strays ['t', 'r', 'u', 'e']
  | falseWord : WellFormed strays ['f', 'a', 'l', 's', 'e']
  | number {text : List Char} : IsNumber text → WellFormed strays text
  | string {text : List Char} : IsQuoted strays text → WellFormed strays text
  | array {blank : List Char} {items : List (List Char)} : Padding blank →
      (∀ item ∈ items, WellFormed strays item) → WellFormed strays (enclosed '[' ']' blank items)
  | object {blank : List Char} {members : List (List Char × List Char)} : Padding blank →
      (∀ m ∈ members, Padded (IsQuoted strays) m.1) → (∀ m ∈ members, WellFormed strays m.2) →
      WellFormed strays (enclosed '\x7b' '\x7d' blank (members.map fun m => memberText m.1 m.2))

end JobWorker.Json
