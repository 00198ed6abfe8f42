/-
Reading takes every text of a value as that value.

A cursor is compared with a text from where it stands, exactly (`At`) or but for white space
(`Before`): every reader skips the white space before its value, and leaves that behind it to the
next.  A number ends only where something follows that cannot be part of it, and so every statement
about a value says what may follow it (`Ends`).

A reader `Accepts` a form when it reads each of its texts, wherever one stands and as deep as the
reader needs.  Forms are put together from forms, and readers from readers; the lemmas follow them.
-/
import JobWorker.Proofs.Json.Grammar
import Mathlib.Data.List.DropRight

namespace JobWorker.Json

variable {α : Type} {c : Cursor} {strays : Bool} {ch : Char} {text rest : List Char}

/-! ### Where a cursor stands -/

/-- The cursor stands before a text, in which there may be stray marks or not. -/
structure Cursor.At (c : Cursor) (strays : Bool) (text : List Char) : Prop where
  rest : c.rest = text
  strays : c.strays = strays

/-- The cursor stands before a text, but for white space. -/
structure Cursor.Before (c : Cursor) (strays : Bool) (text : List Char) : Prop where
  rest : c.rest.dropWhile isSpace = text.dropWhile isSpace
  strays : c.strays = strays

namespace Cursor

theorem At.before (h : c.At strays text) : c.Before strays text := ⟨by rw [h.rest], h.strays⟩

theorem At.next (h : c.At strays (ch :: text)) : c.next.At strays text :=
  ⟨by rw [rest_next, h.rest, List.tail_cons], by rw [strays_next, h.strays]⟩

theorem At.drop {read : List Char} (h : c.At strays (read ++ text)) : (c.drop read.length).At strays text :=
  ⟨by rw [rest_drop, h.rest, List.drop_left], by rw [strays_drop, h.strays]⟩

/-- Where something stands that is no white space, skipping white space goes there. -/
theorem Before.skip (h : c.Before strays (ch :: text)) (hch : isSpace ch = false) :
    ∃ c', c.skipSpace = c' ∧ c'.At strays (ch :: text) := by
  refine ⟨c.skipSpace, rfl, ?_, by rw [strays_skipSpace, h.strays]⟩
  rw [rest_skipSpace, h.rest]
  simp [hch]

/-- Where the cursor goes over white space, it stands before what is behind. -/
theorem before_of_skip {c₁ : Cursor} (hskip : c.skipSpace = c₁) (h : c₁.At strays text) :
    c.Before strays text := by
  subst hskip
  refine ⟨?_, by rw [← h.strays, strays_skipSpace]⟩
  rw [← h.rest, rest_skipSpace, List.dropWhile_idempotent]

theorem before_padding {blank : List Char} (h : Padding blank) :
    c.Before strays (blank ++ text) ↔ c.Before strays text := by
  have hdrop : (blank ++ text).dropWhile isSpace = text.dropWhile isSpace :=
    List.dropWhile_append_of_pos h
  constructor
  · intro hc
    exact ⟨hc.rest.trans hdrop, hc.strays⟩
  · intro hc
    exact ⟨hc.rest.trans hdrop.symm, hc.strays⟩

/-- What the cursor stands before is no longer than the text that is left. -/
theorem Before.length_le (h : c.Before strays text) : (text.dropWhile isSpace).length ≤ c.rest.length := by
  rw [← h.rest]
  exact (List.dropWhile_sublist isSpace).length_le

theorem at_ofChars (text : List Char) : (Cursor.ofChars text).At false text := ⟨rfl, rfl⟩

/-- A word is read to its end. -/
theorem At.word (word : List Char) (h : c.At strays (word ++ text)) :
    ∃ c', Cursor.word word c = .ok c' ∧ c'.At strays text := by
  induction word generalizing c with
  | nil => exact ⟨c, rfl, h⟩
  | cons w word ih =>
    obtain ⟨c', hword, hc'⟩ := ih h.next
    refine ⟨c', ?_, hc'⟩
    rw [Cursor.word, h.rest]
    simpa using hword

end Cursor

theorem exists_enclosed_cons (opening closing : Char) (blank : List Char)
    (parts : List (List Char)) : ∃ more, enclosed opening closing blank parts = opening :: more := by
  cases parts <;> exact ⟨_, rfl⟩

/-- There are fewer parts than characters, wherever the parts stand. -/
theorem length_furtherParts (closing : Char) (parts : List (List Char)) :
    parts.length < (furtherParts closing parts).length := by
  induction parts with
  | nil => simp [furtherParts]
  | cons part parts ih =>
    simp [furtherParts]
    omega

theorem length_part_lt (closing : Char) {part : List Char} {parts : List (List Char)}
    (h : part ∈ parts) : part.length < (furtherParts closing parts).length := by
  induction parts with
  | nil => cases h
  | cons first parts ih =>
    simp only [furtherParts, List.cons_append, List.length_cons, List.length_append]
    rcases List.mem_cons.1 h with rfl | hmem
    · omega
    · have := ih hmem
      omega

/-- Brackets are longer than what they enclose. -/
theorem length_enclosed_lt (opening closing : Char) (blank : List Char) {part : List Char}
    {parts : List (List Char)} (h : part ∈ parts) :
    part.length + 1 < (enclosed opening closing blank parts).length := by
  cases parts with
  | nil => cases h
  | cons first parts =>
    have hfirst := length_furtherParts closing parts
    simp only [enclosed, List.cons_append, List.length_cons, List.length_append]
    rcases List.mem_cons.1 h with rfl | hmem
    · omega
    · have := length_part_lt closing hmem
      omega

/-- The text that is left is fuel enough for the parts that are left. -/
theorem Cursor.Before.fuel_parts {closing : Char} (h : isSpace closing = false)
    {parts : List (List Char)} (hc : c.Before strays (furtherParts closing parts ++ rest)) :
    parts.length < c.rest.length + 1 := by
  have hlt := length_furtherParts closing parts
  have hle := hc.length_le
  have hdrop : (furtherParts closing parts ++ rest).dropWhile isSpace =
      furtherParts closing parts ++ rest := by
    cases parts with
    | nil => simp [furtherParts, h]
    | cons part parts =>
      have hcomma : isSpace ',' = false := by decide
      simp [furtherParts, hcomma]
  rw [hdrop, List.length_append] at hle
  omega

/-! ### What follows a value -/

/-- What may follow a value: nothing, white space, a comma or a closing bracket. -/
def Ends (rest : List Char) : Prop :=
  ∀ ch ∈ rest.head?, isSpace ch = true ∨ ch = ',' ∨ ch = ']' ∨ ch = '\x7d'

theorem ends_nil : Ends [] := by simp [Ends]

theorem Ends.padding {blank : List Char} (h : Padding blank) (hrest : Ends rest) :
    Ends (blank ++ rest) := by
  cases blank with
  | nil => exact hrest
  | cons b blank =>
    intro ch hch
    obtain rfl : b = ch := by simpa using hch
    exact .inl (h b (by simp))

theorem ends_furtherParts {closing : Char} (h : closing = ']' ∨ closing = '\x7d')
    (parts : List (List Char)) : Ends (furtherParts closing parts ++ rest) := by
  intro ch hch
  cases parts with
  | nil =>
    obtain rfl : closing = ch := by simpa [furtherParts] using hch
    exact .inr (.inr h)
  | cons part parts =>
    obtain rfl : ',' = ch := by simpa [furtherParts] using hch
    exact .inr (.inl rfl)

/-- No digit, point or power of ten follows a value. -/
theorem Ends.not_number (h : Ends rest) {ch : Char} (hch : ch ∈ rest.head?) :
    ch.isDigit = false ∧ ch ≠ '.' ∧ ch ≠ 'e' ∧ ch ≠ 'E' := by
  rcases h ch hch with hspace | rfl | rfl | rfl
  · simp only [isSpace, Bool.or_eq_true, decide_eq_true_eq] at hspace
    rcases hspace with ((rfl | rfl) | rfl) | rfl <;> decide
  all_goals decide

/-! ### How a value begins -/

/-- How a text begins, but for white space. -/
def Opens (p : Char → Prop) (text : List Char) : Prop :=
  ∃ ch more, text.dropWhile isSpace = ch :: more ∧ p ch

variable {p : Char → Prop}

/-- A text opens in one way only. -/
theorem Opens.exists_both {q : Char → Prop} (h : Opens p text) (h' : Opens q text) : ∃ ch, p ch ∧ q ch := by
  obtain ⟨ch, more, hdrop, hp⟩ := h
  obtain ⟨ch', more', hdrop', hq⟩ := h'
  rw [hdrop] at hdrop'
  obtain ⟨rfl, -⟩ := List.cons.inj hdrop'
  exact ⟨ch, hp, hq⟩

theorem opens_cons (hspace : isSpace ch = false) (h : p ch) : Opens p (ch :: text) :=
  ⟨ch, text, by simp [hspace], h⟩

theorem Opens.append (h : Opens p text) (after : List Char) : Opens p (text ++ after) := by
  obtain ⟨ch, more, heq, hp⟩ := h
  refine ⟨ch, more ++ after, ?_, hp⟩
  rw [List.dropWhile_append, heq]
  rfl

theorem Opens.around {before : List Char} (h : Opens p text) (hbefore : Padding before)
    (after : List Char) : Opens p (before ++ text ++ after) := by
  refine Opens.append ?_ after
  rw [Opens, List.dropWhile_append_of_pos hbefore]
  exact h

theorem Padded.opens {core : List Char → Prop} (h : Padded core text)
    (hcore : ∀ inner, core inner → ∃ ch more, inner = ch :: more ∧ isSpace ch = false ∧ p ch) :
    Opens p text := by
  obtain ⟨hbefore, hinner, -⟩ := h
  obtain ⟨ch, more, rfl, hspace, hp⟩ := hcore _ hinner
  exact (opens_cons hspace hp).around hbefore _

/-- Before a text the cursor comes to stand at its first character. -/
theorem Opens.skip (h : Opens p text) (hc : c.Before strays (text ++ rest)) :
    ∃ c' ch more, c.skipSpace = c' ∧ c'.rest = ch :: more ∧ p ch ∧ c'.Before strays (text ++ rest) := by
  obtain ⟨ch, more, heq, hp⟩ := h.append rest
  refine ⟨c.skipSpace, ch, more, rfl, by rw [Cursor.rest_skipSpace, hc.rest, heq], hp, ?_, ?_⟩
  · rw [Cursor.rest_skipSpace, List.dropWhile_idempotent, hc.rest]
  · rw [Cursor.strays_skipSpace, hc.strays]

/-! ### Strings -/

theorem exists_quoted_cons (body : List Char) :
    ∃ ch more, quoted body = ch :: more ∧ isSpace ch = false ∧ ch = '"' :=
  ⟨'"', body ++ ['"'], rfl, by decide, rfl⟩

namespace StringLiteral

theorem readHex_of_at {a b x y : Char} {n : Nat} (h : hexDigits? a b x y = some n)
    (hc : c.At strays (a :: b :: x :: y :: text)) : ∃ c', readHex c = .ok (n, c') ∧ c'.At strays text := by
  have hdigits : c.At strays ([a, b, x, y] ++ text) := hc
  refine ⟨c.drop 4, ?_, hdigits.drop⟩
  simp [readHex, hc.rest, h]

theorem readCodePoint_of_code {a b x y : Char} {n : Nat} (h : hexDigits? a b x y = some n)
    (hleading : isLeading n = false) (htrailing : isTrailing n = false)
    (hc : c.At strays (a :: b :: x :: y :: text)) :
    ∃ c', readCodePoint c = .ok (Char.ofNat n, c') ∧ c'.At strays text := by
  obtain ⟨c', hread, hc'⟩ := readHex_of_at h hc
  refine ⟨c', ?_, hc'⟩
  simp [readCodePoint, hread, hleading, htrailing, bind, Except.bind, pure, Except.pure]

theorem expectEscape_of_at (hc : c.At strays (ch :: text)) :
    ∃ c', expectEscape ch c = .ok c' ∧ c'.At strays text :=
  ⟨c.next, by simp [expectEscape, hc.rest], hc.next⟩

theorem readCodePoint_of_pair {a b x y a' b' x' y' : Char} {n n' : Nat}
    (h : hexDigits? a b x y = some n) (hleading : isLeading n = true)
    (h' : hexDigits? a' b' x' y' = some n') (htrailing : isTrailing n' = true)
    (hc : c.At strays (a :: b :: x :: y :: '\\' :: 'u' :: a' :: b' :: x' :: y' :: text)) :
    ∃ c', readCodePoint c = .ok (paired n n', c') ∧ c'.At strays text := by
  obtain ⟨c₁, hread, hc₁⟩ := readHex_of_at h hc
  obtain ⟨c₂, hslash, hc₂⟩ := expectEscape_of_at hc₁
  obtain ⟨c₃, hmark, hc₃⟩ := expectEscape_of_at hc₂
  obtain ⟨c', hread', hc'⟩ := readHex_of_at h' hc₃
  have hnot : isTrailing n = false := by
    simp only [isLeading, isTrailing, Bool.and_eq_true, decide_eq_true_eq, Bool.and_eq_false_iff,
      decide_eq_false_iff_not] at hleading ⊢
    omega
  refine ⟨c', ?_, hc'⟩
  simp [readCodePoint, hread, hnot, hleading, hslash, hmark, hread', htrailing, bind, Except.bind,
    pure, Except.pure]

theorem readEscape_of_short {meant : Char} (h : shortEscape? ch = some meant)
    (hc : c.At strays (ch :: text)) : ∃ c', readEscape c = .ok (meant, c') ∧ c'.At strays text := by
  refine ⟨c.next, ?_, hc.next⟩
  have hu : ch ≠ 'u' := by
    rintro rfl
    cases h
  simp [readEscape, hc.rest, hu, h]

theorem readEscape_of_code (hc : c.At strays ('u' :: text)) : readEscape c = readCodePoint c.next := by
  simp [readEscape, hc.rest]

/-- A character that needs no escape is read as it is. -/
theorem readChars_plain {fuel : Nat} (hquote : ch ≠ '"') (hslash : ch ≠ '\\')
    (hcontrol : 0x20 ≤ ch.toNat) (hc : c.At strays (ch :: text)) :
    readChars (fuel + 1) c = (readChars fuel c.next).map fun (more, c) => (ch :: more, c) := by
  have hmark : ch ≠ strayMark := by
    rintro rfl
    exact absurd hcontrol (by decide)
  simp [readChars, hc.rest, hquote, hslash, hmark, Nat.not_lt.2 hcontrol]
  rfl

/-- An escape is read as the character that it stands for. -/
theorem readChars_escape {fuel : Nat} {meant : Char} {c' : Cursor} (hc : c.At strays ('\\' :: text))
    (h : readEscape c.next = .ok (meant, c')) :
    readChars (fuel + 1) c = (readChars fuel c').map fun (more, c) => (meant :: more, c) := by
  simp [readChars, hc.rest, h]
  rfl

/-- Reading the characters of a string gives what the text between the quotes spells. -/
theorem readChars_of_spells {chars body : List Char} (h : Spells chars body) :
    ∀ (fuel : Nat) (c : Cursor), body.length < fuel → c.At strays (body ++ '"' :: rest) →
      ∃ c', readChars fuel c = .ok (chars, c') ∧ c'.At strays rest := by
  -- every step of the grammar is one step of the reader, on a text that is shorter
  induction h with
  | nil =>
    intro fuel c hfuel hc
    obtain ⟨fuel, rfl⟩ := Nat.exists_eq_succ_of_ne_zero (Nat.ne_of_gt hfuel)
    exact ⟨c.next, by simp [readChars, hc.rest], hc.next⟩
  | plain hquote hslash hcontrol _ ih =>
    intro fuel c hfuel hc
    obtain ⟨fuel, rfl⟩ := Nat.exists_eq_succ_of_ne_zero (Nat.ne_zero_of_lt hfuel)
    obtain ⟨c', hread, hc'⟩ := ih fuel _ (by simpa using hfuel) hc.next
    exact ⟨c', by rw [readChars_plain hquote hslash hcontrol hc, hread]; rfl, hc'⟩
  | short hmeant _ ih =>
    intro fuel c hfuel hc
    obtain ⟨fuel, rfl⟩ := Nat.exists_eq_succ_of_ne_zero (Nat.ne_zero_of_lt hfuel)
    obtain ⟨c₁, hescape, hc₁⟩ := readEscape_of_short hmeant hc.next
    obtain ⟨c', hread, hc'⟩ := ih fuel _ (by simp at hfuel; omega) hc₁
    exact ⟨c', by rw [readChars_escape hc hescape, hread]; rfl, hc'⟩
  | code hdigits hleading htrailing _ ih =>
    intro fuel c hfuel hc
    obtain ⟨fuel, rfl⟩ := Nat.exists_eq_succ_of_ne_zero (Nat.ne_zero_of_lt hfuel)
    obtain ⟨c₁, hescape, hc₁⟩ := readCodePoint_of_code hdigits hleading htrailing hc.next.next
    obtain ⟨c', hread, hc'⟩ := ih fuel _ (by simp at hfuel; omega) hc₁
    rw [← readEscape_of_code hc.next] at hescape
    exact ⟨c', by rw [readChars_escape hc hescape, hread]; rfl, hc'⟩
  | pair hdigits hleading hdigits' htrailing _ ih =>
    intro fuel c hfuel hc
    obtain ⟨fuel, rfl⟩ := Nat.exists_eq_succ_of_ne_zero (Nat.ne_zero_of_lt hfuel)
    obtain ⟨c₁, hescape, hc₁⟩ :=
      readCodePoint_of_pair hdigits hleading hdigits' htrailing hc.next.next
    obtain ⟨c', hread, hc'⟩ := ih fuel _ (by simp at hfuel; omega) hc₁
    rw [← readEscape_of_code hc.next] at hescape
    exact ⟨c', by rw [readChars_escape hc hescape, hread]; rfl, hc'⟩

/-- Reading a string behind its opening quote. -/
theorem read_of_spells {s : String} {body : List Char} (h : Spells s.toList body)
    (hc : c.At strays (body ++ '"' :: rest)) : ∃ c', read c = .ok (s, c') ∧ c'.At strays rest := by
  have hfuel : body.length < c.rest.length + 1 := by
    rw [hc.rest]
    simp only [List.length_append, List.length_cons]
    omega
  obtain ⟨c', hread, hc'⟩ := readChars_of_spells h _ c hfuel hc
  refine ⟨c', ?_, hc'⟩
  rw [read, hread]
  simp [bind, Except.bind, pure, Except.pure]

/-! ### What is written is a text of the string -/

theorem hexDigit?_digitChar : ∀ n < 16, hexDigit? (Nat.digitChar n) = some n := by decide

theorem hexDigits?_hexPair {n : Nat} (h : n < 0x20) :
    hexDigits? '0' '0' (Nat.digitChar (n / 16)) (Nat.digitChar (n % 16)) = some n := by
  have hzero : hexDigit? '0' = some 0 := by decide
  have hhigh := hexDigit?_digitChar (n / 16) (by omega)
  have hlow := hexDigit?_digitChar (n % 16) (by omega)
  simp only [hexDigits?, hzero, hhigh, hlow, Option.bind_eq_bind, Option.bind_some]
  congr 1
  omega

/-- The text of one character, before the text of others. -/
theorem spells_writeChar {chars body : List Char} (h : Spells chars body) (c : Char) :
    Spells (c :: chars) (writeChar c ++ body) := by
  unfold writeChar
  split
  case h_8 hquote hslash _ _ _ _ _ =>
    split
    · next hcontrol =>
      have hcode := Spells.code (hexDigits?_hexPair hcontrol)
        (by simp [isLeading]; omega) (by simp [isTrailing]; omega) h
      rwa [Char.ofNat_toNat] at hcode
    · next hplain => exact .plain hquote hslash (Nat.le_of_not_lt hplain) h
  all_goals exact .short rfl h

theorem spells_write (chars : List Char) : Spells chars (chars.flatMap writeChar) := by
  induction chars with
  | nil => exact .nil
  | cons c chars ih => exact spells_writeChar ih c

end StringLiteral

theorem stringForm_opens {s : String} (h : stringForm s text) : Opens (· = '"') text := by
  refine h.opens ?_
  rintro _ ⟨body, -, rfl⟩
  exact exists_quoted_cons body

theorem stringForm_write (s : String) : stringForm s (StringLiteral.write s) :=
  .of_core ⟨_, StringLiteral.spells_write s.toList, rfl⟩

end JobWorker.Json
