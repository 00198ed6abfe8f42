/-
Blank characters, blank texts and trimming.

A character is blank when it has the property White_Space.  That is wider than the white space
of a JSON text, and it leaves out U+200B, U+180E and U+FEFF, which only look like blanks.
-/
import JobWorker.Text.Ranges

namespace JobWorker.Text

/-- The characters with the property White_Space. -/
def whiteSpace : Ranges :=
  [(0x9, 0xD), (0x20, 0x20), (0x85, 0x85), (0xA0, 0xA0), (0x1680, 0x1680), (0x2000, 0x200A),
   (0x2028, 0x2029), (0x202F, 0x202F), (0x205F, 0x205F), (0x3000, 0x3000)]

/-- Whether a character is white space. -/
def isBlank (c : Char) : Bool := whiteSpace.has c

/-- A text without the blanks before its first other character. -/
def trimStart (text : List Char) : List Char := text.dropWhile isBlank

/-- A text without the blanks after its last other character. -/
def trimEnd (text : List Char) : List Char := (text.reverse.dropWhile isBlank).reverse

/-- A text without the blanks around it. -/
def trim (text : List Char) : List Char := trimEnd (trimStart text)

/-- Whether a text holds nothing but white space; the empty text does. -/
def isBlankText (text : String) : Bool := text.toList.all isBlank

theorem dropWhile_isBlank_eq_nil_iff {text : List Char} :
    text.dropWhile isBlank = [] ↔ ∀ c ∈ text, isBlank c = true := by
  induction text with
  | nil => simp
  | cons c rest ih => by_cases h : isBlank c = true <;> simp [h, ih]

/-- What is left after the leading blanks starts with no blank. -/
theorem isBlank_of_trimStart_eq_cons {text rest : List Char} {c : Char}
    (h : trimStart text = c :: rest) : isBlank c = false := by
  induction text with
  | nil => simp [trimStart] at h
  | cons d more ih =>
    by_cases hd : isBlank d = true
    · exact ih (by simpa [trimStart, hd] using h)
    · have : d :: more = c :: rest := by simpa [trimStart, hd] using h
      simp_all

/-- Nothing is left of a text by trimming exactly when it is blank. -/
theorem trim_eq_nil_iff {text : List Char} : trim text = [] ↔ ∀ c ∈ text, isBlank c = true := by
  rw [← dropWhile_isBlank_eq_nil_iff]
  constructor
  · intro h
    cases hd : text.dropWhile isBlank with
    | nil => rfl
    | cons c rest =>
      have hc : isBlank c = false := isBlank_of_trimStart_eq_cons hd
      have hall : (trimStart text).reverse.dropWhile isBlank = [] := by simpa [trim, trimEnd] using h
      have := dropWhile_isBlank_eq_nil_iff.1 hall c (by simp [trimStart, hd])
      simp [hc] at this
  · intro h
    simp [trim, trimStart, trimEnd, h]

/-- A text without blanks is what trimming leaves of it and the blanks around it. -/
theorem trim_append_append {before core after : List Char} (hbefore : ∀ c ∈ before, isBlank c = true)
    (hcore : ∀ c ∈ core, isBlank c = false) (hafter : ∀ c ∈ after, isBlank c = true) :
    trim (before ++ core ++ after) = core := by
  cases core with
  | nil =>
    rw [List.append_nil]
    exact trim_eq_nil_iff.2 (List.forall_mem_append.2 ⟨hbefore, hafter⟩)
  | cons c core =>
    have hstart : trimStart (before ++ (c :: core) ++ after) = c :: core ++ after := by
      rw [trimStart, List.append_assoc, List.dropWhile_append_of_pos hbefore]
      simp [hcore c (by simp)]
    rw [trim, hstart, trimEnd, List.reverse_append,
      List.dropWhile_append_of_pos (by simpa using hafter)]
    cases hrev : (c :: core).reverse with
    | nil => simp at hrev
    | cons d rest =>
      have hd : isBlank d = false := hcore d (List.mem_reverse.1 (by simp [hrev]))
      rw [List.dropWhile_cons_of_neg (by simp [hd]), ← hrev, List.reverse_reverse]

theorem isBlank_of_isDigit {c : Char} (h : c.isDigit = true) : isBlank c = false := by
  have hrange : 48 ≤ c.toNat ∧ c.toNat ≤ 57 := by
    simpa [Char.isDigit, UInt32.le_iff_toNat_le] using h
  rw [← Bool.not_eq_true]
  intro hblank
  obtain ⟨run, hrun, hc⟩ := Ranges.has_iff.1 hblank
  simp only [whiteSpace, List.mem_cons, List.not_mem_nil, or_false] at hrun
  rcases hrun with rfl | rfl | rfl | rfl | rfl | rfl | rfl | rfl | rfl | rfl <;> simp only at hc <;> omega

end JobWorker.Text
