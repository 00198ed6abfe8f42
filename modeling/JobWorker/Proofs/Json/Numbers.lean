/-
Numbers are read to their end, and integers as themselves.

A literal is read part by part, and every part ends where the text goes on with something that
cannot belong to it.  What the digits of an integer amount to is computed digit by digit; as long as
the whole integer fits a word, so does every beginning of it, and no digit is left out.
-/
import JobWorker.Proofs.Json.Reading

namespace JobWorker.Json

variable {c : Cursor} {strays : Bool} {ended : Cause} {text rest : List Char}

/-! ### The parts of a literal -/

theorem leadingDigits_append {digits : List Char} (h : IsDigits digits)
    (htext : ∀ ch ∈ text.head?, ch.isDigit = false) : leadingDigits (digits ++ text) = digits := by
  rw [leadingDigits, List.takeWhile_append_of_pos h.2]
  cases text with
  | nil => simp
  | cons ch text => simp [htext ch (by simp)]

/-- Behind the first digit of digits no zero has been passed. -/
theorem IsDigits.exists_cons {digits : List Char} (h : IsDigits digits) :
    ∃ d more, digits = d :: more ∧ d.isDigit = true := by
  obtain ⟨d, more, rfl⟩ := List.exists_cons_of_ne_nil h.1
  exact ⟨d, more, rfl, h.2 d (by simp)⟩

theorem FractionText.not_digit {fraction : Option (List Char)} {spelling : List Char}
    (h : FractionText fraction spelling) (htext : ∀ ch ∈ text.head?, ch.isDigit = false) :
    ∀ ch ∈ (spelling ++ text).head?, ch.isDigit = false := by
  cases h with
  | none => exact htext
  | digits => simp

theorem PowerText.not_digit {power : Option Power} {spelling : List Char}
    (h : PowerText power spelling) (htext : ∀ ch ∈ text.head?, ch.isDigit = false ∧ ch ≠ '.') :
    ∀ ch ∈ (spelling ++ text).head?, ch.isDigit = false ∧ ch ≠ '.' := by
  cases h with
  | none => exact htext
  | digits hmark => rcases hmark with rfl | rfl <;> simp

namespace Literal

theorem readWhole_of_at (ended : Cause) {whole : List Char} (h : IsWhole whole)
    (htext : ∀ ch ∈ text.head?, ch.isDigit = false) (hc : c.At strays (whole ++ text)) :
    ∃ c', readWhole ended c = .ok (whole, c') ∧ c'.At strays text := by
  obtain ⟨d, more, rfl, hd⟩ := h.1.exists_cons
  by_cases hzero : d = '0'
  · obtain rfl : more = [] := by simpa [hzero] using h.2 (by simp [hzero])
    refine ⟨c.next, ?_, hc.next⟩
    have hnot : (text.head?.map Char.isDigit).getD false = false := by
      cases text with
      | nil => rfl
      | cons ch text => simpa using htext ch (by simp)
    subst hzero
    simp [readWhole, hc.rest, hnot]
  · refine ⟨c.drop (d :: more).length, ?_, hc.drop⟩
    have hlead := leadingDigits_append h.1 htext
    rw [readWhole, hc.rest]
    simp only [List.cons_append] at hlead ⊢
    simp [hd, hlead]

theorem readFraction_none (h : ∀ ch ∈ text.head?, ch ≠ '.') (hc : c.At strays text) :
    readFraction ended c = .ok (none, c) := by
  rw [readFraction, hc.rest]
  split
  · next more => exact absurd rfl (h '.' rfl)
  · rfl

theorem readFraction_of_at (ended : Cause) {fraction : Option (List Char)} {spelling : List Char}
    (h : FractionText fraction spelling)
    (htext : ∀ ch ∈ text.head?, ch.isDigit = false ∧ ch ≠ '.') (hc : c.At strays (spelling ++ text)) :
    ∃ c', readFraction ended c = .ok (fraction, c') ∧ c'.At strays text := by
  cases h with
  | none => exact ⟨c, readFraction_none (fun ch hch => (htext ch hch).2) hc, hc⟩
  | @digits digits hdigits =>
    obtain ⟨d, more, rfl, -⟩ := hdigits.exists_cons
    have hlead := leadingDigits_append hdigits fun ch hch => (htext ch hch).1
    refine ⟨c.next.drop (d :: more).length, ?_, hc.next.drop⟩
    rw [readFraction, hc.rest]
    simp only [List.cons_append] at hlead ⊢
    rw [hlead]

theorem readPower_none (h : ∀ ch ∈ text.head?, ch ≠ 'e' ∧ ch ≠ 'E') (hc : c.At strays text) :
    readPower ended c = .ok (none, c) := by
  rw [readPower, hc.rest]
  cases text with
  | nil => rfl
  | cons ch text =>
    obtain ⟨hlower, hupper⟩ := h ch rfl
    simp [hlower, hupper]

theorem readSign_of_at {negative : Bool} {sign : List Char} (h : SignText negative sign)
    (htext : ∀ ch ∈ text.head?, ch.isDigit = true) (hc : c.At strays (sign ++ text)) :
    ∃ c', readSign c = (negative, c') ∧ c'.At strays text := by
  cases h with
  | none =>
    refine ⟨c, ?_, hc⟩
    cases text with
    | nil => simp [readSign, hc.rest]
    | cons ch text =>
      have hplus : ch ≠ '+' := by
        rintro rfl
        exact absurd (htext '+' rfl) (by decide)
      have hminus : ch ≠ '-' := by
        rintro rfl
        exact absurd (htext '-' rfl) (by decide)
      simp [readSign, hc.rest, hplus, hminus]
  | plus => exact ⟨c.next, by simp [readSign, hc.rest], hc.next⟩
  | minus => exact ⟨c.next, by simp [readSign, hc.rest], hc.next⟩

theorem readPower_of_at (ended : Cause) {power : Option Power} {spelling : List Char}
    (h : PowerText power spelling)
    (htext : ∀ ch ∈ text.head?, ch.isDigit = false ∧ ch ≠ 'e' ∧ ch ≠ 'E')
    (hc : c.At strays (spelling ++ text)) :
    ∃ c', readPower ended c = .ok (power, c') ∧ c'.At strays text := by
  cases h with
  | none => exact ⟨c, readPower_none (fun ch hch => (htext ch hch).2) hc, hc⟩
  | @digits mark negative sign digits hmark hsign hdigits =>
    have hlead := leadingDigits_append hdigits fun ch hch => (htext ch hch).1
    obtain ⟨d, more, rfl, hd⟩ := hdigits.exists_cons
    have hc' : c.At strays (mark :: (sign ++ ((d :: more) ++ text))) := by simpa using hc
    obtain ⟨c₁, hread, hc₁⟩ := readSign_of_at hsign (by simpa using hd) hc'.next
    refine ⟨c₁.drop (d :: more).length, ?_, hc₁.drop⟩
    have hpower : (mark = 'e' || mark = 'E') = true := by simpa using hmark
    rw [readPower, hc'.rest]
    simp only [hpower, if_true, hread, hc₁.rest, hlead]

/-- A sign in front of the digits is seen and passed. -/
theorem at_behind_sign {negative : Bool} {whole : List Char} (hwhole : IsWhole whole)
    (hc : c.At strays ((if negative then ['-'] else []) ++ whole ++ text)) :
    decide (c.rest.head? = some '-') = negative ∧
      (if c.rest.head? = some '-' then c.next else c).At strays (whole ++ text) := by
  obtain ⟨d, more, rfl, hd⟩ := hwhole.1.exists_cons
  have hnot : d ≠ '-' := by
    rintro rfl
    exact absurd hd (by decide)
  cases negative with
  | false =>
    have hhead : c.rest.head? ≠ some '-' := by simpa [hc.rest] using hnot
    rw [if_neg hhead]
    exact ⟨by simp [hhead], hc⟩
  | true =>
    have hhead : c.rest.head? = some '-' := by simp [hc.rest]
    rw [if_pos hhead]
    exact ⟨by simp [hhead], hc.next⟩

/-- A literal is read to its end, whatever it amounts to. -/
theorem read_of_spelled (ended : Cause) {l : Literal} {number : List Char} (h : l.Spelled number)
    (hends : Ends rest) (hc : c.At strays (number ++ rest)) :
    ∃ c', read ended c = .ok (l, c') ∧ c'.At strays rest := by
  obtain ⟨hwhole, hfraction, hpower⟩ := h
  have hbehind := hpower.not_digit fun ch hch => ⟨(hends.not_number hch).1, (hends.not_number hch).2.1⟩
  have hpoint := hfraction.not_digit fun ch hch => (hbehind ch hch).1
  obtain ⟨hminus, hstart⟩ := at_behind_sign hwhole (by simpa using hc)
  obtain ⟨c₁, hread₁, hc₁⟩ := readWhole_of_at ended hwhole hpoint hstart
  obtain ⟨c₂, hread₂, hc₂⟩ := readFraction_of_at ended hfraction hbehind hc₁
  obtain ⟨c₃, hread₃, hc₃⟩ := readPower_of_at ended hpower
    (fun ch hch => ⟨(hends.not_number hch).1, (hends.not_number hch).2.2⟩) hc₂
  refine ⟨c₃, ?_, hc₃⟩
  simp [read, hminus, hread₁, hread₂, hread₃, bind, Except.bind, pure, Except.pure]

end Literal

/-! ### Integers -/

/-- The first digit of a number other than zero is no zero. -/
theorem head_toDigits {n : Nat} : (Nat.toDigits 10 n).head? = some '0' → n = 0 := by
  induction n using Nat.strongRecOn with
  | ind n ih =>
    intro h
    by_cases hlt : n < 10
    · rw [Nat.toDigits_of_lt_base hlt] at h
      exact Nat.digitChar_eq_zero.1 (by simpa using h)
    · rw [Nat.toDigits_of_base_le (by decide) (by omega),
        List.head?_append_of_ne_nil _ (Decimal.toDigits_ne_nil _)] at h
      have hzero : n / 10 = 0 := ih (n / 10) (by omega) h
      omega

theorem isWhole_toDigits (n : Nat) : IsWhole (Nat.toDigits 10 n) := by
  refine ⟨⟨Decimal.toDigits_ne_nil n, fun c hc => Decimal.isDigit_of_mem_toDigits hc⟩, ?_⟩
  intro h
  rw [head_toDigits h]
  rfl

/-- Digits are taken in as long as the whole number stays below the limit. -/
theorem absorb_eq {limit : Nat} {digits : List Char} {value : Nat}
    (h : Nat.ofDigitChars 10 digits value < limit) :
    absorb limit value digits = (Nat.ofDigitChars 10 digits value, 0) := by
  induction digits generalizing value with
  | nil => rfl
  | cons d digits ih =>
    have hlonger : value * 10 + Decimal.ofDigits [d] = 10 * value + (d.toNat - '0'.toNat) := by
      simp [Decimal.ofDigits, Nat.ofDigitChars_cons, Nat.mul_comm]
    rw [Nat.ofDigitChars_cons] at h ⊢
    have hle := Decimal.le_ofDigitChars digits (10 * value + (d.toNat - '0'.toNat))
    simp only [absorb, hlonger]
    rw [if_pos (by omega), ih h]

/-- Whether an integer fits a signed or an unsigned word of 64 bits. -/
def FitsWord (n : Int) : Prop := Decimal.leastInt64 ≤ n ∧ n ≤ Decimal.greatestUInt64

/-- The digits of an integer that fits a word amount to it. -/
theorem evaluate_toDigits {n : Int} (h : FitsWord n) :
    Literal.evaluate ⟨n < 0, Nat.toDigits 10 n.natAbs, none, none⟩ = .number (.integer n) := by
  obtain ⟨hleast, hgreatest⟩ := h
  have hword : wordLimit = 18446744073709551616 := by decide
  have hhalf : Decimal.twoTo 63 = 9223372036854775808 := by decide
  rw [Decimal.leastInt64] at hleast
  rw [Decimal.greatestUInt64] at hgreatest
  have hvalue : Nat.ofDigitChars 10 (Nat.toDigits 10 n.natAbs) 0 = n.natAbs :=
    Decimal.ofDigits_toDigits n.natAbs
  have habsorb : absorb wordLimit 0 (Nat.toDigits 10 n.natAbs) = (n.natAbs, 0) := by
    rw [absorb_eq (by omega), hvalue]
  by_cases hneg : n < 0
  · simp only [Literal.evaluate, habsorb, hneg]
    rw [if_neg (by simp), if_pos ⟨trivial, by omega, by omega⟩]
    congr 2
    omega
  · simp only [Literal.evaluate, habsorb, hneg]
    rw [if_pos (by simp)]
    congr 2
    omega

/-- An integer is written as a literal of digits only. -/
theorem spelled_intText (n : Int) :
    Literal.Spelled ⟨n < 0, Nat.toDigits 10 n.natAbs, none, none⟩ (Decimal.intText n) := by
  have h := @Literal.Spelled.parts (n < 0) _ _ _ _ _ (isWhole_toDigits n.natAbs) .none .none
  by_cases hneg : n < 0 <;> simpa [Decimal.intText, hneg] using h

/-- An integer that fits a word is read as itself. -/
theorem readNumber_of_at {n : Int} (h : FitsWord n) (hends : Ends rest)
    (hc : c.At strays (Decimal.intText n ++ rest)) :
    ∃ c', readNumber c = .ok (.integer n, c') ∧ c'.At strays rest := by
  obtain ⟨c', hread, hc'⟩ := Literal.read_of_spelled .endInValue (spelled_intText n) hends hc
  refine ⟨c', ?_, hc'⟩
  simp [readNumber, hread, evaluate_toDigits h, bind, Except.bind, pure, Except.pure]

theorem isNumber_intText (n : Int) : IsNumber (Decimal.intText n) := (spelled_intText n).isNumber

theorem exists_digitChar {d : Char} (h : d.isDigit = true) : ∃ k < 10, Nat.digitChar k = d := by
  have hbounds : 48 ≤ d.toNat ∧ d.toNat ≤ 57 := by
    simpa [Char.isDigit, UInt32.le_iff_toNat_le] using h
  have hchar : ∀ k < 10, Nat.digitChar k = Char.ofNat (k + 48) := by decide
  refine ⟨d.toNat - 48, by omega, ?_⟩
  rw [hchar _ (by omega), Nat.sub_add_cancel hbounds.1, Char.ofNat_toNat]

/-- Digits other than a zero alone that do not begin with one are those of the number they denote. -/
theorem toDigits_of_isWhole {digits : List Char} (h : IsWhole digits) :
    Nat.toDigits 10 (Nat.ofDigitChars 10 digits 0) = digits := by
  induction digits using List.reverseRecOn with
  | nil => exact absurd rfl h.1.1
  | append_singleton digits d ih =>
    obtain ⟨k, hk, rfl⟩ := exists_digitChar (h.1.2 d (by simp))
    have hvalue : Nat.ofDigitChars 10 (digits ++ [Nat.digitChar k]) 0 =
        10 * Nat.ofDigitChars 10 digits 0 + k := by
      rw [Nat.ofDigitChars_append, Nat.ofDigitChars_cons_digitChar_of_lt_ten hk, Nat.ofDigitChars_nil]
    rcases eq_or_ne digits [] with rfl | hne
    · rw [hvalue, Nat.ofDigitChars_nil, Nat.mul_zero, Nat.zero_add, Nat.toDigits_of_lt_base hk]
      rfl
    · have hhead : digits.head? ≠ some '0' := by
        intro hzero
        have := congrArg List.length (h.2 (by rw [List.head?_append_of_ne_nil _ hne, hzero]))
        exact hne (by simpa using this)
      have hwhole : IsWhole digits :=
        ⟨⟨hne, fun c hc => h.1.2 c (by simp [hc])⟩, fun hzero => absurd hzero hhead⟩
      have hpos : 0 < Nat.ofDigitChars 10 digits 0 := by
        rw [Nat.pos_iff_ne_zero]
        intro hzero
        have := ih hwhole
        rw [hzero, Nat.toDigits_zero] at this
        exact hhead (by rw [← this]; rfl)
      rw [hvalue, Nat.toDigits_of_base_le (by decide) (by omega)]
      have hdiv : (10 * Nat.ofDigitChars 10 digits 0 + k) / 10 = Nat.ofDigitChars 10 digits 0 := by
        omega
      have hmod : (10 * Nat.ofDigitChars 10 digits 0 + k) % 10 = k := by omega
      rw [hdiv, hmod, ih hwhole]

/-- Digits none of which had to be left out amount to the number they denote. -/
theorem of_absorb_eq {limit value v : Nat} {digits : List Char} (hlimit : value < limit)
    (h : absorb limit value digits = (v, 0)) : v = Nat.ofDigitChars 10 digits value ∧ v < limit := by
  induction digits generalizing value with
  | nil =>
    cases h
    exact ⟨rfl, hlimit⟩
  | cons d digits ih =>
    have hlonger : value * 10 + Decimal.ofDigits [d] = 10 * value + (d.toNat - '0'.toNat) := by
      simp [Decimal.ofDigits, Nat.ofDigitChars_cons, Nat.mul_comm]
    rw [absorb, hlonger] at h
    split at h
    · next hlt =>
      rw [Nat.ofDigitChars_cons]
      exact ih hlt h
    · cases h

theorem evaluateFloat_ne_integer (negative : Bool) (significand : Nat) (e n : Int) :
    evaluateFloat negative significand e ≠ .number (.integer n) := by
  unfold evaluateFloat
  split <;> simp

theorem evaluatePower_ne_integer (negative : Bool) (significand : Nat) (e n : Int)
    (power : Option Power) : evaluatePower negative significand e power ≠ .number (.integer n) := by
  unfold evaluatePower
  split
  · exact evaluateFloat_ne_integer _ _ _ _
  split
  · exact evaluateFloat_ne_integer _ _ _ _
  · split <;> simp

theorem Literal.Spelled.isWhole {l : Literal} (h : l.Spelled text) : IsWhole l.whole := by
  obtain ⟨hwhole, -, -⟩ := h
  exact hwhole

/-- A literal that amounts to an integer is that integer's own. -/
theorem Literal.eq_of_evaluate {l : Literal} {n : Int} (hwhole : IsWhole l.whole)
    (h : l.evaluate = .number (.integer n)) :
    l = ⟨n < 0, Nat.toDigits 10 n.natAbs, none, none⟩ ∧ FitsWord n := by
  obtain ⟨negative, whole, fraction, power⟩ := l
  have hword : wordLimit = 18446744073709551616 := by decide
  have hhalf : Decimal.twoTo 63 = 9223372036854775808 := by decide
  have hfits : ∀ k : Int, FitsWord k ↔ -9223372036854775808 ≤ k ∧ k ≤ 18446744073709551615 :=
    fun k => Iff.rfl
  cases habsorb : absorb wordLimit 0 whole with
  | mk significand left =>
  cases fraction with
  | some digits => simp [Literal.evaluate, habsorb, evaluatePower_ne_integer] at h
  | none =>
  cases power with
  | some power => simp [Literal.evaluate, habsorb, evaluatePower_ne_integer] at h
  | none =>
  simp only [Literal.evaluate, habsorb] at h
  split at h
  · next hcase =>
    obtain ⟨rfl, hneg⟩ := hcase
    obtain ⟨rfl, hlt⟩ := of_absorb_eq (by decide) habsorb
    obtain rfl : negative = false := by simpa using hneg
    obtain rfl : (Nat.ofDigitChars 10 whole 0 : Int) = n := by simpa using h
    refine ⟨?_, (hfits _).2 (by omega)⟩
    simp [toDigits_of_isWhole hwhole]
  split at h
  · next hneg hcase =>
    obtain ⟨rfl, hpos, hle⟩ := hcase
    obtain ⟨rfl, hlt⟩ := of_absorb_eq (by decide) habsorb
    obtain rfl : negative = true := by simpa using hneg
    obtain rfl : -(Nat.ofDigitChars 10 whole 0 : Int) = n := by simpa using h
    refine ⟨?_, (hfits _).2 (by omega)⟩
    simp [toDigits_of_isWhole hwhole]
    omega
  · exact absurd h (evaluateFloat_ne_integer _ _ _ _)

/-- The one text of an integer. -/
theorem numberText_integer {n : Int} :
    NumberText (.integer n) text ↔ text = Decimal.intText n ∧ FitsWord n := by
  constructor
  · rintro ⟨l, hspelled, heval⟩
    obtain ⟨rfl, hfits⟩ := Literal.eq_of_evaluate hspelled.isWhole heval
    refine ⟨?_, hfits⟩
    generalize heq : (⟨_, _, _, _⟩ : Literal) = l at hspelled
    obtain ⟨-, hfraction, hpower⟩ := hspelled
    cases heq
    cases hfraction
    cases hpower
    by_cases hneg : n < 0 <;> simp [Decimal.intText, hneg]
  · rintro ⟨rfl, hfits⟩
    exact ⟨_, spelled_intText n, evaluate_toDigits hfits⟩

/-- A number begins with a sign or a digit. -/
theorem IsNumber.exists_cons {number : List Char} (h : IsNumber number) :
    ∃ ch more, number = ch :: more ∧ (ch = '-' ∨ ch.isDigit = true) := by
  obtain ⟨hsign, hwhole, -, -⟩ := h
  obtain ⟨d, more, rfl, hd⟩ := hwhole.1.exists_cons
  simp only [List.mem_cons, List.not_mem_nil, or_false] at hsign
  rcases hsign with rfl | rfl
  · exact ⟨d, _, rfl, .inr hd⟩
  · exact ⟨'-', _, rfl, .inl rfl⟩

/-- How a number begins sets it apart from white space and from every other value. -/
theorem number_char {ch : Char} (h : ch = '-' ∨ ch.isDigit = true) :
    isSpace ch = false ∧ ch ≠ ']' ∧ ch ≠ '"' ∧ ch ≠ '[' ∧ ch ≠ '\x7b' ∧
      ch ≠ 'n' ∧ ch ≠ 't' ∧ ch ≠ 'f' := by
  rcases h with rfl | hdigit
  · decide
  · refine ⟨?_, ?_, ?_, ?_, ?_, ?_, ?_, ?_⟩
    · by_contra hspace
      simp only [isSpace, Bool.not_eq_false, Bool.or_eq_true, decide_eq_true_eq] at hspace
      rcases hspace with ((rfl | rfl) | rfl) | rfl <;> exact absurd hdigit (by decide)
    all_goals
      rintro rfl
      exact absurd hdigit (by decide)

end JobWorker.Json
