/-
Numbers and the decimals that their texts stand for.

Taken exactly, a literal stands for a decimal: its digits, times a power of ten.  A number that is no
integer is written as a literal for the decimal of its fewest digits, wherever the point is set.  The
number nearest to that decimal is the number itself, so a reader who rounds once reads what was written.
-/
import JobWorker.Proofs.Decimal.Shortest
import JobWorker.Proofs.Json.Numbers
import Mathlib.Data.List.DropRight

namespace JobWorker.Decimal

/-! ### Rows of digits -/

section

variable {digits : List Char} {n : Nat} {k : Int}

theorem ofDigits_zeros_append (n : Nat) (digits : List Char) :
    ofDigits (List.replicate n '0' ++ digits) = ofDigits digits := by
  rw [ofDigits, Nat.ofDigitChars_append, Nat.ofDigitChars_replicate_zero, Nat.mul_zero]
  rfl

theorem ofDigits_append_zeros (digits : List Char) (n : Nat) :
    ofDigits (digits ++ List.replicate n '0') = 10 ^ n * ofDigits digits := by
  rw [ofDigits, Nat.ofDigitChars_append, Nat.ofDigitChars_replicate_zero]
  rfl

/-- What is dropped at the end of digits are zeros. -/
theorem exists_dropEndZeros (hne : digits ≠ []) (hhead : digits.head? ≠ some '0') :
    ∃ t, digits = dropEndZeros digits ++ List.replicate t '0' ∧ dropEndZeros digits ≠ [] := by
  have hzeros : digits.rtakeWhile (· = '0') = List.replicate (digits.rtakeWhile (· = '0')).length '0' :=
    List.eq_replicate_of_mem fun c hc => by simpa using List.mem_rtakeWhile_imp hc
  have hsplit := @List.rdropWhile_append_rtakeWhile _ (· = '0') digits
  rw [hzeros] at hsplit
  generalize (digits.rtakeWhile (· = '0')).length = t at hsplit
  generalize hkept : digits.rdropWhile (· = '0') = kept at hsplit
  cases kept with
  | nil =>
    -- nothing but zeros, so the first digit is one
    cases t with
    | zero => exact absurd hsplit.symm hne
    | succ t => exact absurd (by rw [← hsplit]; rfl) hhead
  | cons c kept =>
    have hdrop : dropEndZeros digits = c :: kept := by rw [dropEndZeros, ← List.rdropWhile, hkept]
    exact ⟨t, hdrop ▸ hsplit.symm, hdrop ▸ List.cons_ne_nil c kept⟩

namespace Scientific

/-- The decimal that a scientific form stands for. -/
def value (s : Scientific) : ℚ := ofDigits s.digits * 10 ^ (s.exponent + 1 - s.digits.length)

/-- A scientific form that begins with a zero only when it is zero. -/
structure Proper (s : Scientific) : Prop where
  digits : Json.IsDigits s.digits
  first : s.digits.head? = some '0' → s = zero

theorem proper_zero : zero.Proper := ⟨⟨by decide, by simp [zero]⟩, fun _ => rfl⟩

theorem value_zero : zero.value = 0 := by simp [value, zero, ofDigits, Nat.ofDigitChars]

theorem value_ofNat (hn : 0 < n) : (ofNat n k).value = n * 10 ^ k := by
  obtain ⟨t, hsplit, -⟩ := exists_dropEndZeros (toDigits_ne_nil n)
    fun h => hn.ne' (Json.head_toDigits h)
  have hvalue : (n : ℚ) = 10 ^ t * ofDigits (dropEndZeros (Nat.toDigits 10 n)) := by
    rw [← @Nat.cast_ofNat ℚ 10, ← Nat.cast_pow, ← Nat.cast_mul, ← ofDigits_append_zeros, ← hsplit,
      ofDigits_toDigits]
  have hlength : ((Nat.toDigits 10 n).length : Int) = (dropEndZeros (Nat.toDigits 10 n)).length + t := by
    rw [← @List.length_replicate _ t '0', ← Nat.cast_add, ← List.length_append, ← hsplit]
  have hten : (10 : ℚ) ≠ 0 := by norm_num
  rw [value, ofNat, hvalue]
  simp only
  rw [hlength, show k + ((dropEndZeros (Nat.toDigits 10 n)).length + t) - 1 + 1 -
    (dropEndZeros (Nat.toDigits 10 n)).length = t + k by omega, zpow_add₀ hten, zpow_natCast]
  ring

theorem proper_ofNat (hn : 0 < n) : (ofNat n k).Proper := by
  have hhead : (Nat.toDigits 10 n).head? ≠ some '0' := fun h => hn.ne' (Json.head_toDigits h)
  obtain ⟨t, hsplit, hne⟩ := exists_dropEndZeros (toDigits_ne_nil n) hhead
  refine ⟨⟨hne, fun c hc => ?_⟩, fun hzero => absurd ?_ hhead⟩
  · refine isDigit_of_mem_toDigits (n := n) ?_
    rw [hsplit]
    exact List.mem_append_left _ hc
  · rw [hsplit, List.head?_append_of_ne_nil _ hne]
    exact hzero

/-- The fewest digits of a number are a decimal that the number attracts, or zero. -/
theorem shortest_spec {m : Magnitude} (hm : m.Canonical) : (shortest m).Proper ∧
    (m = .zero ∧ (shortest m).value = 0 ∨ m.Attracts (shortest m).value ∧ 0 < (shortest m).value) := by
  rcases Nat.eq_zero_or_pos m.mantissa with hzero | hpos
  · rw [shortest, if_pos hzero]
    exact ⟨proper_zero, .inl ⟨hm.eq_zero hzero, value_zero⟩⟩
  · obtain ⟨n, k, hshortest, hattracts⟩ := exists_decimal hm hpos
    have hdecimal := hattracts.pos hpos
    have hn : 0 < n := by
      rw [Nat.pos_iff_ne_zero]
      rintro rfl
      simp at hdecimal
    rw [hshortest, value_ofNat hn]
    exact ⟨proper_ofNat hn, .inr ⟨hattracts, hdecimal⟩⟩

end Scientific

end

/-! ### Which numbers there are -/

namespace Magnitude

variable {n : Nat} {a b m : Magnitude} {e : Int}

/-- Rounding keeps numbers from one on away from zero. -/
theorem num_pos_of_ofNat? (hn : 0 < n) (h : ofNat? n = some m) : 0 < m.num := by
  refine Nat.mul_pos ?_ (twoTo_pos _)
  have hone : (1 : ℚ) ≤ (n : ℚ) / (1 : Nat) := by
    rw [Nat.cast_one, div_one]
    exact_mod_cast hn
  have he := scaleOf_spec hn Nat.one_pos
  have hnormal : leastNormal ≤ mantissaAt n 1 (scaleOf n 1) := by
    refine leastNormal_le_mantissaAt Nat.one_pos (he.normal.resolve_left fun hleast => ?_)
    have hlt := hone.trans_lt he.lt
    rw [hleast] at hlt
    exact absurd hlt (not_lt.mpr (zpow_le_one_of_nonpos₀ (by norm_num) (by decide)))
  have hpos : 0 < leastNormal := twoTo_pos _
  rw [ofNat?, ofRatio?_eq hn Nat.one_pos he] at h
  obtain ⟨rounded, hrounded, hrest⟩ : ∃ rounded : Magnitude, 0 < rounded.mantissa ∧
      (if greatestExponent < rounded.exponent then none else some rounded) = some m := by
    refine ⟨_, ?_, h⟩
    split
    · exact hpos
    · exact hpos.trans_le hnormal
  split at hrest
  · cases hrest
  · cases hrest
    exact hrounded

theorem canonical_of_timesPower? (h : a.timesPower? e = some m) : m.Canonical := by
  unfold timesPower? at h
  cases hpower : ofNat? (tenTo e.natAbs) with
  | none => simp [hpower] at h
  | some power =>
    simp only [hpower, Option.bind_eq_bind, Option.bind_some] at h
    split at h
    · exact canonical_of_ofRatio? (Nat.mul_pos (twoTo_pos _) (twoTo_pos _)) h
    · exact canonical_of_ofRatio?
        (Nat.mul_pos (twoTo_pos _) (num_pos_of_ofNat? (tenTo_pos _) hpower)) h

/-- Scaling gives the numbers that there are. -/
theorem canonical_of_scaled? (h : scaled? n e = some m) : m.Canonical := by
  unfold scaled? at h
  cases ha : ofNat? n with
  | none => simp [ha] at h
  | some a =>
    simp only [ha, Option.bind_eq_bind, Option.bind_some] at h
    split at h
    · exact canonical_of_timesPower? h
    split at h
    · cases h
      exact canonical_zero
    split at h
    · cases h
    cases hb : a.timesPower? (-powerLimit) with
    | none => simp [hb] at h
    | some b =>
      simp only [hb, Option.bind_some] at h
      split at h
      · exact canonical_of_timesPower? h
      · cases h
        exact canonical_zero

end Magnitude

end JobWorker.Decimal

namespace JobWorker.Json

open Decimal

/-! ### What a literal stands for -/

section

variable {l l' : Literal} {text : List Char} {negative : Bool} {s : Scientific}

/-- The power of ten at the end of a literal. -/
def Power.value (p : Power) : Int := if p.negative then -(ofDigits p.digits : Int) else ofDigits p.digits

namespace Literal

/-- The digits of a literal, taken as a whole number. -/
def significand (l : Literal) : Nat := ofDigits (l.whole ++ l.fraction.getD [])

/-- The power of ten for which the last digit of a literal stands. -/
def scale (l : Literal) : Int := l.power.elim 0 Power.value - (l.fraction.getD []).length

/-- The decimal that a literal stands for, without its sign. -/
def size (l : Literal) : ℚ := l.significand * 10 ^ l.scale

/-- The floating-point number that is nearest to a literal, unless that is out of range. -/
def nearest? (l : Literal) : Option Binary64 :=
  (Magnitude.ofRatio? (l.significand * tenTo l.scale.toNat) (tenTo (-l.scale).toNat)).map
    fun m => ⟨l.negative, m⟩

theorem size_eq_div (l : Literal) : l.size =
    ((l.significand * tenTo l.scale.toNat : Nat) : ℚ) / (tenTo (-l.scale).toNat : Nat) := by
  rw [size, Nat.cast_mul, cast_tenTo, cast_tenTo, ← zpow_natCast, ← zpow_natCast]
  rcases le_total 0 l.scale with h | h
  · rw [Int.toNat_of_nonneg h, Int.toNat_of_nonpos (by omega)]
    simp
  · rw [Int.toNat_of_nonpos h, Int.toNat_of_nonneg (by omega), zpow_neg]
    simp [div_eq_mul_inv]

/-- A literal for a decimal that a number attracts is nearest to it. -/
theorem nearest?_of_attracts {m : Magnitude} (hm : m.Canonical) (hpos : 0 < l.size)
    (h : m.Attracts l.size) : l.nearest? = some ⟨l.negative, m⟩ := by
  have hsignificand : 0 < l.significand := by
    rw [Nat.pos_iff_ne_zero]
    rintro hzero
    rw [size, hzero, Nat.cast_zero, zero_mul] at hpos
    exact lt_irrefl _ hpos
  rw [size_eq_div] at h
  rw [nearest?, Magnitude.ofRatio?_of_attracts hm (Nat.mul_pos hsignificand (tenTo_pos _))
    (tenTo_pos _) h]
  rfl

theorem nearest?_of_zero (h : l.size = 0) : l.nearest? = some ⟨l.negative, .zero⟩ := by
  have hten : (10 : ℚ) ^ l.scale ≠ 0 := zpow_ne_zero _ (by norm_num)
  have hzero : l.significand = 0 := by
    exact_mod_cast (mul_eq_zero.mp h).resolve_right hten
  rw [nearest?, hzero, Nat.zero_mul]
  rfl

/-- A text is that of one literal at most. -/
theorem Spelled.unique (h : l.Spelled text) (h' : l'.Spelled text) : l = l' := by
  have hc := Cursor.at_ofChars text
  rw [← List.append_nil text] at hc
  obtain ⟨_, hread, -⟩ := read_of_spelled .endInValue h ends_nil hc
  obtain ⟨_, hread', -⟩ := read_of_spelled .endInValue h' ends_nil hc
  rw [hread] at hread'
  cases hread'
  rfl

end Literal

/-! ### Setting the point -/

/-- A text with a point between digits, and the decimal that it stands for. -/
inductive Pointed (x : ℚ) : List Char → Prop
  | digits {whole fraction : List Char} : IsWhole whole → IsDigits fraction →
      (ofDigits (whole ++ fraction) : ℚ) * 10 ^ (-(fraction.length : Int)) = x →
      Pointed x (whole ++ '.' :: fraction)

/-- Below one, zeros stand between the point and the first digit. -/
theorem pointed_of_neg (h : s.Proper) (hnegative : s.exponent < 0) :
    Pointed s.value (Layout.positional s) := by
  obtain ⟨zeros, hzeros⟩ : ∃ zeros : Nat, s.exponent = -(zeros : Int) - 1 :=
    ⟨(-s.exponent).toNat - 1, by omega⟩
  have htext : Layout.positional s = ['0'] ++ '.' :: (List.replicate zeros '0' ++ s.digits) := by
    rw [Layout.positional, if_pos hnegative, show (-s.exponent).toNat - 1 = zeros by omega]
    rfl
  rw [htext]
  refine .digits ⟨⟨by decide, by simp⟩, fun _ => rfl⟩ ⟨by simp [h.digits.1], fun c hc => ?_⟩ ?_
  · rcases List.mem_append.mp hc with hc | hc
    · rw [List.eq_of_mem_replicate hc]
      rfl
    · exact h.digits.2 c hc
  · have hdigits := ofDigits_zeros_append (zeros + 1) s.digits
    rw [List.replicate_succ] at hdigits
    rw [List.singleton_append, ← List.cons_append, hdigits, Scientific.value, List.length_append,
      List.length_replicate]
    congr 2
    push_cast
    omega

/-- What stands before a point is whole if the digits of a scientific form begin it. -/
theorem isWhole_of_proper (h : s.Proper) {places : Nat} (hplaces : 0 < places)
    (hzero : s = .zero → places = 1) :
    IsWhole (s.digits.take places ++ List.replicate (places - s.digits.length) '0') := by
  obtain ⟨d, more, hdigits, hd⟩ := h.digits.exists_cons
  obtain ⟨places, rfl⟩ := Nat.exists_eq_succ_of_ne_zero hplaces.ne'
  refine ⟨⟨by simp [hdigits], fun c hc => ?_⟩, fun hhead => ?_⟩
  · rcases List.mem_append.mp hc with hc | hc
    · exact h.digits.2 c (List.mem_of_mem_take hc)
    · rw [List.eq_of_mem_replicate hc]
      rfl
  · obtain rfl : s = .zero := h.first (by simpa [hdigits] using hhead)
    rw [hzero rfl]
    rfl

/-- From one on, zeros fill the places up to the point, and one may stand behind it. -/
theorem pointed_of_nonneg (h : s.Proper) (hnonneg : 0 ≤ s.exponent) :
    Pointed s.value (Layout.positional s) := by
  rw [Layout.positional, if_neg (by omega)]
  simp only
  generalize hplaces : s.exponent.toNat + 1 = places
  have hwhole : IsWhole (s.digits.take places ++ List.replicate (places - s.digits.length) '0') := by
    refine isWhole_of_proper h (by omega) ?_
    rintro rfl
    exact hplaces.symm
  rcases lt_or_ge places s.digits.length with hlt | hge
  · have hdrop : s.digits.drop places ≠ [] := by simpa using hlt
    rw [if_neg hdrop]
    refine .digits hwhole ⟨hdrop, fun c hc => h.digits.2 c (List.mem_of_mem_drop hc)⟩ ?_
    rw [Nat.sub_eq_zero_of_le hlt.le, List.replicate_zero, List.append_nil, List.take_append_drop,
      Scientific.value, List.length_drop]
    congr 2
    omega
  · rw [if_pos (List.drop_eq_nil_of_le hge)]
    refine .digits hwhole ⟨by decide, by simp⟩ ?_
    have hten : (10 : ℚ) ≠ 0 := by norm_num
    rw [List.take_of_length_le hge, List.append_assoc, show ['0'] = List.replicate 1 '0' from rfl,
      List.replicate_append_replicate, ofDigits_append_zeros, Scientific.value, List.length_replicate,
      Nat.cast_mul, Nat.cast_pow, Nat.cast_ofNat, mul_right_comm, ← zpow_natCast, ← zpow_add₀ hten,
      mul_comm]
    congr 2
    omega

/-- A decimal with its point in place is a literal for it. -/
theorem exists_spelled_positional (negative : Bool) (h : s.Proper) :
    ∃ l : Literal, l.Spelled ((if negative then ['-'] else []) ++ Layout.positional s) ∧
      l.negative = negative ∧ l.fraction.isSome ∧ l.size = s.value := by
  have hpointed : Pointed s.value (Layout.positional s) :=
    (lt_or_ge s.exponent 0).elim (pointed_of_neg h) (pointed_of_nonneg h)
  generalize Layout.positional s = text at hpointed
  obtain ⟨hwhole, hfraction, hvalue⟩ := hpointed
  next whole fraction =>
  refine ⟨⟨negative, whole, some fraction, none⟩, ?_, rfl, rfl, ?_⟩
  · have hspelled := @Literal.Spelled.parts negative _ _ _ _ _ hwhole (.digits hfraction) .none
    rwa [List.append_nil, List.append_assoc] at hspelled
  · rw [← hvalue, Literal.size, Literal.significand, Literal.scale]
    simp

/-- A decimal in scientific form is a literal for it. -/
theorem exists_spelled_scientific (negative : Bool) (h : s.Proper) :
    ∃ l : Literal, l.Spelled ((if negative then ['-'] else []) ++ Layout.scientific s) ∧
      l.negative = negative ∧ l.power.isSome ∧ l.size = s.value := by
  obtain ⟨d, more, hdigits, hd⟩ := h.digits.exists_cons
  have hwhole : IsWhole [d] := ⟨⟨by simp, by simpa using hd⟩, by simp⟩
  obtain ⟨fraction, spelling, hfraction, hspelling, hrow⟩ : ∃ fraction spelling,
      FractionText fraction spelling ∧ spelling = (if more = [] then [] else '.' :: more) ∧
      fraction.getD [] = more := by
    by_cases hmore : more = []
    · exact ⟨none, _, .none, (if_pos hmore).symm, hmore.symm⟩
    · refine ⟨some more, _, .digits ⟨hmore, fun c hc => ?_⟩, (if_neg hmore).symm, rfl⟩
      exact h.digits.2 c (hdigits ▸ List.mem_cons_of_mem d hc)
  obtain ⟨sign, hsign, hmark⟩ : ∃ sign, SignText (s.exponent < 0) sign ∧
      sign = [if s.exponent < 0 then '-' else '+'] := by
    by_cases hnegative : s.exponent < 0
    · exact ⟨_, by rw [decide_eq_true hnegative]; exact .minus, by rw [if_pos hnegative]⟩
    · exact ⟨_, by rw [decide_eq_false hnegative]; exact .plus, by rw [if_neg hnegative]⟩
  have hpower := PowerText.digits (.inl rfl : 'e' = 'e' ∨ 'e' = 'E') hsign
    (isWhole_toDigits s.exponent.natAbs).1
  refine ⟨⟨negative, [d], fraction, some ⟨s.exponent < 0, Nat.toDigits 10 s.exponent.natAbs⟩⟩,
    ?_, rfl, rfl, ?_⟩
  · have hspelled := @Literal.Spelled.parts negative _ _ _ _ _ hwhole hfraction hpower
    rw [hspelling, hmark] at hspelled
    rw [Layout.scientific, hdigits]
    simpa using hspelled
  · have hexponent : Power.value ⟨s.exponent < 0, Nat.toDigits 10 s.exponent.natAbs⟩ = s.exponent := by
      rw [Power.value, ofDigits_toDigits]
      by_cases hnegative : s.exponent < 0
      · rw [if_pos (decide_eq_true hnegative)]
        omega
      · rw [if_neg (by simpa using hnegative)]
        omega
    rw [Literal.size, Literal.significand, Literal.scale, hrow, Option.elim_some, hexponent,
      Scientific.value, hdigits, List.singleton_append, List.length_cons]
    congr 2
    push_cast
    omega

/-- However a number is set, its text is a literal for its fewest digits. -/
theorem exists_spelled_text (layout : Layout) {x : Binary64} (h : (shortest x.magnitude).Proper) :
    ∃ l : Literal, l.Spelled (layout.text x) ∧ l.negative = x.negative ∧
      (l.fraction.isSome ∨ l.power.isSome) ∧ l.size = (shortest x.magnitude).value := by
  have hsign : layout.text x = (if x.negative then ['-'] else []) ++
      if layout.least ≤ (shortest x.magnitude).exponent ∧ (shortest x.magnitude).exponent ≤ layout.most
      then Layout.positional (shortest x.magnitude) else Layout.scientific (shortest x.magnitude) := by
    unfold Layout.text
    cases x.negative <;> rfl
  rw [hsign]
  by_cases hplace : layout.least ≤ (shortest x.magnitude).exponent ∧
      (shortest x.magnitude).exponent ≤ layout.most
  · obtain ⟨l, hspelled, hnegative, hfraction, hsize⟩ := exists_spelled_positional x.negative h
    exact ⟨l, by rwa [if_pos hplace], hnegative, .inl hfraction, hsize⟩
  · obtain ⟨l, hspelled, hnegative, hpower, hsize⟩ := exists_spelled_scientific x.negative h
    exact ⟨l, by rwa [if_neg hplace], hnegative, .inr hpower, hsize⟩

end

/-! ### Numbers for a reader who rounds once -/

/-- The texts of a number for a reader who takes literals exactly and rounds once: an integer that fits a
word has its digits, and every other literal stands for the floating-point number nearest to it. -/
def NearestText : Form Number
  | .integer n, text => text = Decimal.intText n ∧ FitsWord n
  | .float x, text => (¬ ∃ n, text = Decimal.intText n ∧ FitsWord n) ∧
      ∃ l : Literal, l.Spelled text ∧ l.nearest? = some x

variable {l : Literal} {n : Number} {x : Binary64} {text : List Char}

/-- A literal with a fraction or a power of ten is no integer. -/
theorem Literal.Spelled.not_integer (h : l.Spelled text)
    (hfloat : l.fraction.isSome ∨ l.power.isSome) : ¬ ∃ n, text = Decimal.intText n ∧ FitsWord n := by
  rintro ⟨n, rfl, -⟩
  obtain rfl := h.unique (spelled_intText n)
  simp at hfloat

/-- **A reader who rounds once reads the number that was written.** -/
theorem nearestText_float (hx : x.magnitude.Canonical) : NearestText (.float x) (Number.text (.float x)) := by
  obtain ⟨hproper, hvalue⟩ := Scientific.shortest_spec hx
  obtain ⟨l, hspelled, hnegative, hfloat, hsize⟩ := exists_spelled_text floatLayout hproper
  refine ⟨hspelled.not_integer hfloat, l, hspelled, ?_⟩
  rcases hvalue with ⟨hzero, hvalue⟩ | ⟨hattracts, hpos⟩
  · rw [Literal.nearest?_of_zero (hsize.trans hvalue), hnegative, ← hzero]
  · rw [← hsize] at hattracts hpos
    rw [Literal.nearest?_of_attracts hx hpos hattracts, hnegative]

theorem canonical_of_evaluateFloat {negative : Bool} {significand : Nat} {e : Int}
    (h : evaluateFloat negative significand e = .number (.float x)) : x.magnitude.Canonical := by
  unfold evaluateFloat at h
  split at h
  · rename_i hscaled
    cases h
    exact Magnitude.canonical_of_scaled? hscaled
  · cases h

theorem canonical_of_evaluatePower {negative : Bool} {significand : Nat} {e : Int}
    {power : Option Power} (h : evaluatePower negative significand e power = .number (.float x)) :
    x.magnitude.Canonical := by
  unfold evaluatePower at h
  split at h
  · exact canonical_of_evaluateFloat h
  split at h
  · exact canonical_of_evaluateFloat h
  split at h
  · cases h
  · cases h
    exact Magnitude.canonical_zero

/-- What a literal amounts to is one of the numbers that there are. -/
theorem Literal.canonical_of_evaluate (h : l.evaluate = .number (.float x)) : x.magnitude.Canonical := by
  unfold Literal.evaluate at h
  simp only at h
  split at h
  · split at h
    · cases h
    split at h
    · cases h
    · exact canonical_of_evaluateFloat h
  · exact canonical_of_evaluatePower h
  · exact canonical_of_evaluatePower h

/-- A number that was read is written so that a reader who rounds once reads it. -/
theorem nearestText_of_numberText (h : NumberText n text) : NearestText n n.text := by
  cases n with
  | integer n => exact ⟨rfl, (numberText_integer.1 h).2⟩
  | float x =>
    obtain ⟨l, -, heval⟩ := h
    exact nearestText_float (Literal.canonical_of_evaluate heval)

theorem NearestText.isNumber (h : NearestText n text) : IsNumber text := by
  cases n with
  | integer n => exact h.1 ▸ isNumber_intText n
  | float x =>
    obtain ⟨-, l, hspelled, -⟩ := h
    exact hspelled.isNumber

/-- A text is that of one number at most. -/
theorem nearestText_leftUnique : Relator.LeftUnique NearestText := by
  intro n n' text h h'
  cases n with
  | integer n =>
    cases n' with
    | integer n' => rw [Decimal.intText_inj (h.1.symm.trans h'.1)]
    | float x' => exact (h'.1 ⟨n, h⟩).elim
  | float x =>
    cases n' with
    | integer n' => exact (h.1 ⟨n', h'⟩).elim
    | float x' =>
      obtain ⟨-, l, hspelled, hnearest⟩ := h
      obtain ⟨-, l', hspelled', hnearest'⟩ := h'
      obtain rfl := hspelled.unique hspelled'
      rw [hnearest] at hnearest'
      rw [Option.some.inj hnearest']

end JobWorker.Json
