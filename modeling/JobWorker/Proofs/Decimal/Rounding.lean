/-
Rounding to the nearest floating-point number.

A quotient is brought to the scale at which its mantissa has 53 bits, and is rounded there.  The scale is
known by two inequalities, and so is the whole number next to a quotient; what rounding comes to follows
from these alone.  Around each number lie the quotients that are rounded to it, up to half the way to its
neighbours, and a tie goes to the even mantissa.  The one place to look at is a power of two from below:
the quotient has a smaller scale there, and is rounded up to the next.
-/
import JobWorker.Decimal.Binary64
import Mathlib.Algebra.Order.Field.Power
import Mathlib.Data.Rat.Cast.Order
import Mathlib.Tactic.FieldSimp
import Mathlib.Tactic.Linarith
import Mathlib.Tactic.Positivity

namespace JobWorker.Decimal

theorem twoTo_pos (n : Nat) : 0 < twoTo n := Nat.pow_pos (by decide)

theorem tenTo_pos (n : Nat) : 0 < tenTo n := Nat.pow_pos (by decide)

theorem cast_twoTo (n : Nat) : ((twoTo n : Nat) : ℚ) = 2 ^ n := by simp [twoTo]

theorem cast_tenTo (n : Nat) : ((tenTo n : Nat) : ℚ) = 10 ^ n := by simp [tenTo]

namespace Magnitude

/-! ### The whole number next to a quotient -/

/-- The whole number that is at most half away from a quotient, and even if it is just half away. -/
theorem roundDiv_eq {n d k : Nat} (hd : 0 < d) (hlow : 2 * k * d ≤ 2 * n + d)
    (hhigh : 2 * n ≤ 2 * k * d + d)
    (heven : 2 * k * d = 2 * n + d ∨ 2 * n = 2 * k * d + d → k % 2 = 0) : roundDiv n d = k := by
  have hn : d * (n / d) + n % d = n := Nat.div_add_mod n d
  have hr : n % d < d := Nat.mod_lt n hd
  unfold roundDiv
  simp only
  generalize n / d = q at hn ⊢
  generalize n % d = r at hn hr ⊢
  subst hn
  rw [Nat.mul_assoc] at hlow hhigh heven
  rw [Nat.mul_comm d] at hlow hhigh heven
  have hle : q ≤ k := by
    by_contra hlt
    have hmore : (k + 1) * d ≤ q * d := Nat.mul_le_mul_right d (by omega)
    rw [Nat.add_mul] at hmore
    omega
  have hge : k ≤ q + 1 := by
    by_contra hlt
    have hmore : (q + 2) * d ≤ k * d := Nat.mul_le_mul_right d (by omega)
    rw [Nat.add_mul] at hmore
    omega
  obtain rfl | rfl : k = q ∨ k = q + 1 := by omega
  · rw [if_neg]
    rintro (hmore | ⟨htie, hodd⟩)
    · omega
    · have := heven (.inr (by omega))
      omega
  · rw [Nat.add_mul] at hlow hhigh heven
    rw [if_pos]
    by_cases htie : 2 * r = d
    · have := heven (.inl (by omega))
      exact .inr ⟨htie, by omega⟩
    · exact .inl (by omega)

/-- The same for a quotient of rational numbers. -/
theorem roundDiv_eq_of_rat {n d k : Nat} (hd : 0 < d) (hlow : (k : ℚ) - 1 / 2 ≤ n / d)
    (hhigh : (n : ℚ) / d ≤ k + 1 / 2)
    (heven : (n : ℚ) / d = k - 1 / 2 ∨ (n : ℚ) / d = k + 1 / 2 → k % 2 = 0) : roundDiv n d = k := by
  have hd' : (0 : ℚ) < d := by exact_mod_cast hd
  rw [le_div_iff₀ hd'] at hlow
  rw [div_le_iff₀ hd'] at hhigh
  rw [div_eq_iff hd'.ne', div_eq_iff hd'.ne'] at heven
  refine roundDiv_eq hd ?_ ?_ ?_
  · have : (2 * k * d : ℚ) ≤ 2 * n + d := by linarith
    exact_mod_cast this
  · have : (2 * n : ℚ) ≤ 2 * k * d + d := by linarith
    exact_mod_cast this
  · rintro (h | h)
    · have h : (2 * k * d : ℚ) = 2 * n + d := by exact_mod_cast h
      exact heven (.inl (by linarith))
    · have h : (2 * n : ℚ) = 2 * k * d + d := by exact_mod_cast h
      exact heven (.inr (by linarith))

/-- Rounding does not go past a whole number. -/
theorem roundDiv_le {n d k : Nat} (hd : 0 < d) (h : n ≤ k * d) : roundDiv n d ≤ k := by
  have hn : d * (n / d) + n % d = n := Nat.div_add_mod n d
  have hk : n / d ≤ k := Nat.div_le_of_le_mul (by rwa [Nat.mul_comm] at h)
  unfold roundDiv
  simp only
  split
  · rename_i hup
    -- what is rounded up leaves a remainder
    have hne : n / d ≠ k := by
      rintro rfl
      rw [Nat.mul_comm] at h
      omega
    omega
  · exact hk

theorem le_roundDiv {n d k : Nat} (hd : 0 < d) (h : k * d ≤ n) : k ≤ roundDiv n d := by
  have hk : k ≤ n / d := (Nat.le_div_iff_mul_le hd).mpr h
  unfold roundDiv
  simp only
  split <;> omega

/-! ### The scale of a quotient -/

theorem scaled_div (n d : Nat) (e : Int) :
    ((n * twoTo (-e).toNat : Nat) : ℚ) / ((d * twoTo e.toNat : Nat) : ℚ) = n / d / 2 ^ e := by
  have htwo : (2 : ℚ) ≠ 0 := by norm_num
  rw [Nat.cast_mul, Nat.cast_mul, cast_twoTo, cast_twoTo, ← zpow_natCast, ← zpow_natCast]
  rcases le_total 0 e with he | he
  · rw [Int.toNat_of_nonneg he, Int.toNat_of_nonpos (by omega)]
    simp [div_div]
  · rw [Int.toNat_of_nonpos he, Int.toNat_of_nonneg (by omega), zpow_neg]
    simp only [Nat.cast_zero, zpow_zero, mul_one]
    field_simp

/-- The scale at which a quotient has a mantissa of 53 bits, or the least scale. -/
structure ScaleAt (x : ℚ) (e : Int) : Prop where
  least : leastExponent ≤ e
  lt : x < 2 ^ (e + 53)
  normal : e = leastExponent ∨ 2 ^ (e + 52) ≤ x

theorem ScaleAt.unique {x : ℚ} {e e' : Int} (h : ScaleAt x e) (h' : ScaleAt x e') : e = e' := by
  have hle : ∀ {e e' : Int}, ScaleAt x e → ScaleAt x e' → e ≤ e' := by
    intro e e' h h'
    rcases h.normal with rfl | hnormal
    · exact h'.least
    · have hlt : (2 : ℚ) ^ (e + 52) < 2 ^ (e' + 53) := hnormal.trans_lt h'.lt
      have := (zpow_lt_zpow_iff_right₀ (by norm_num : (1 : ℚ) < 2)).mp hlt
      omega
  exact Int.le_antisymm (hle h h') (hle h' h)

/-- A natural number between powers of two. -/
theorem log2_bounds {n : Nat} (hn : 0 < n) :
    (2 : ℚ) ^ (n.log2 : Int) ≤ n ∧ (n : ℚ) < 2 ^ ((n.log2 : Int) + 1) := by
  have hle : 2 ^ n.log2 ≤ n := Nat.log2_self_le (by omega)
  have hlt : n < 2 ^ (n.log2 + 1) := Nat.lt_log2_self
  constructor
  · rw [zpow_natCast]
    exact_mod_cast hle
  · rw [show (n.log2 : Int) + 1 = ((n.log2 + 1 : Nat) : Int) by push_cast; rfl, zpow_natCast]
    exact_mod_cast hlt

theorem leastNormal_mul (e : Int) : (leastNormal : ℚ) * 2 ^ e = 2 ^ (e + 52) := by
  rw [leastNormal, cast_twoTo, ← zpow_natCast, ← zpow_add₀ (by norm_num), Int.add_comm]
  rfl

theorem twice_leastNormal_mul (e : Int) : ((2 * leastNormal : Nat) : ℚ) * 2 ^ e = 2 ^ (e + 53) := by
  rw [Nat.cast_mul, mul_assoc, leastNormal_mul, show e + 53 = e + 52 + 1 by omega,
    zpow_add_one₀ (by norm_num), mul_comm]
  rfl

/-- What a quotient is at a scale, in whole numbers. -/
theorem scaled_lt_iff {n d : Nat} (hd : 0 < d) (k : Nat) (e : Int) :
    n * twoTo (-e).toNat < k * (d * twoTo e.toNat) ↔ (n : ℚ) / d < k * 2 ^ e := by
  have hpos : (0 : ℚ) < ((d * twoTo e.toNat : Nat) : ℚ) := by
    exact_mod_cast Nat.mul_pos hd (twoTo_pos _)
  rw [← div_lt_iff₀ (by positivity : (0 : ℚ) < 2 ^ e), ← scaled_div, div_lt_iff₀ hpos]
  exact_mod_cast Iff.rfl

/-- The logarithms of both numbers tell the scale of their quotient but for one. -/
theorem guess_bounds {n d : Nat} (hn : 0 < n) (hd : 0 < d) {guess : Int}
    (hguess : (n.log2 : Int) - d.log2 - 52 = guess) :
    (2 : ℚ) ^ (guess + 51) ≤ n / d ∧ (n : ℚ) / d < 2 ^ (guess + 53) := by
  have htwo : (2 : ℚ) ≠ 0 := by norm_num
  have hd' : (0 : ℚ) < d := by exact_mod_cast hd
  obtain ⟨hnle, hnlt⟩ := log2_bounds hn
  obtain ⟨hdle, hdlt⟩ := log2_bounds hd
  constructor
  · rw [le_div_iff₀ hd']
    calc (2 : ℚ) ^ (guess + 51) * d ≤ 2 ^ (guess + 51) * 2 ^ ((d.log2 : Int) + 1) :=
        mul_le_mul_of_nonneg_left hdlt.le (by positivity)
      _ = 2 ^ (n.log2 : Int) := by
        rw [← zpow_add₀ htwo, ← hguess]
        congr 1
        omega
      _ ≤ n := hnle
  · rw [div_lt_iff₀ hd']
    calc (n : ℚ) < 2 ^ ((n.log2 : Int) + 1) := hnlt
      _ = 2 ^ (guess + 53) * 2 ^ (d.log2 : Int) := by
        rw [← zpow_add₀ htwo, ← hguess]
        congr 1
        omega
      _ ≤ 2 ^ (guess + 53) * d := mul_le_mul_of_nonneg_left hdle (by positivity)

theorem scaleOf_spec {n d : Nat} (hn : 0 < n) (hd : 0 < d) :
    ScaleAt ((n : ℚ) / d) (scaleOf n d) := by
  unfold scaleOf
  simp only
  generalize hguess : (n.log2 : Int) - d.log2 - 52 = guess
  obtain ⟨hge, hlt⟩ := guess_bounds hn hd hguess
  simp only [scaled_lt_iff hd, leastNormal_mul]
  obtain ⟨exact, hexact, hlt, hge⟩ : ∃ exact, exact
      = (if (n : ℚ) / d < 2 ^ (guess + 52) then guess - 1 else guess) ∧
      (n : ℚ) / d < 2 ^ (exact + 53) ∧ (2 : ℚ) ^ (exact + 52) ≤ n / d := by
    refine ⟨_, rfl, ?_⟩
    split
    · rename_i hless
      exact ⟨by rwa [show guess - 1 + 53 = guess + 52 by omega],
        by rwa [show guess - 1 + 52 = guess + 51 by omega]⟩
    · rename_i hnot
      exact ⟨hlt, not_lt.mp hnot⟩
  rw [← hexact]
  rcases le_total leastExponent exact with hle | hle
  · rw [max_eq_left hle]
    exact ⟨hle, hlt, .inr hge⟩
  · rw [max_eq_right hle]
    exact ⟨le_refl _, hlt.trans_le (zpow_le_zpow_right₀ (by norm_num) (by omega)), .inl rfl⟩

/-! ### The nearest number -/

/-- The exact value of a number. -/
def value (m : Magnitude) : ℚ := m.mantissa * 2 ^ m.exponent

theorem value_eq (m : Magnitude) : m.value = (m.num : ℚ) / m.den := by
  have h := scaled_div m.mantissa 1 (-m.exponent)
  rw [neg_neg, one_mul, Nat.cast_one, div_one, zpow_neg, div_inv_eq_mul] at h
  rw [value, num, den, h]

/-- The numbers as they come from rounding: within the limits, and with all 53 bits where the scale
allows. -/
structure Canonical (m : Magnitude) : Prop where
  mantissa : m.mantissa < 2 * leastNormal
  least : leastExponent ≤ m.exponent
  most : m.exponent ≤ greatestExponent
  normal : m.exponent = leastExponent ∨ leastNormal ≤ m.mantissa

theorem canonical_zero : zero.Canonical := ⟨by decide, by decide, by decide, .inl rfl⟩

theorem Canonical.eq_zero {m : Magnitude} (hm : m.Canonical) (h : m.mantissa = 0) : m = zero := by
  obtain ⟨mantissa, exponent⟩ := m
  obtain rfl : mantissa = 0 := h
  obtain rfl : exponent = leastExponent := hm.normal.resolve_right (Nat.not_le_of_lt (twoTo_pos _))
  rfl

/-- What is rounded at the scale of a quotient. -/
def mantissaAt (n d : Nat) (e : Int) : Nat := roundDiv (n * twoTo (-e).toNat) (d * twoTo e.toNat)

section

variable {n d : Nat} {e : Int}

theorem ofRatio?_eq (hn : 0 < n) (hd : 0 < d) (he : ScaleAt ((n : ℚ) / d) e) :
    ofRatio? n d =
      let rounded : Magnitude :=
        if mantissaAt n d e = 2 * leastNormal then ⟨leastNormal, e + 1⟩ else ⟨mantissaAt n d e, e⟩
      if greatestExponent < rounded.exponent then none else some rounded := by
  rw [ofRatio?, if_neg (by omega), (scaleOf_spec hn hd).unique he]
  rfl

/-- At its scale a quotient has a mantissa of 53 bits at most. -/
theorem mantissaAt_le (hd : 0 < d) (he : ScaleAt ((n : ℚ) / d) e) :
    mantissaAt n d e ≤ 2 * leastNormal := by
  refine roundDiv_le (Nat.mul_pos hd (twoTo_pos _)) (Nat.le_of_lt ((scaled_lt_iff hd _ e).mpr ?_))
  rw [twice_leastNormal_mul]
  exact he.lt

theorem leastNormal_le_mantissaAt (hd : 0 < d) (h : (2 : ℚ) ^ (e + 52) ≤ n / d) :
    leastNormal ≤ mantissaAt n d e := by
  refine le_roundDiv (Nat.mul_pos hd (twoTo_pos _)) (Nat.le_of_not_lt ?_)
  rw [scaled_lt_iff hd, leastNormal_mul]
  exact not_lt.mpr h

/-- Rounding gives the numbers that there are. -/
theorem canonical_of_ofRatio? (hd : 0 < d) {m : Magnitude} (h : ofRatio? n d = some m) :
    m.Canonical := by
  rcases Nat.eq_zero_or_pos n with rfl | hn
  · cases h
    exact canonical_zero
  have he := scaleOf_spec hn hd
  rw [ofRatio?_eq hn hd he] at h
  simp only at h
  have hle := mantissaAt_le hd he
  have hnormal : scaleOf n d = leastExponent ∨ leastNormal ≤ mantissaAt n d (scaleOf n d) :=
    he.normal.imp_right fun hge => leastNormal_le_mantissaAt hd hge
  generalize mantissaAt n d (scaleOf n d) = mantissa at h hle hnormal
  by_cases hfull : mantissa = 2 * leastNormal
  · rw [if_pos hfull] at h
    split at h
    · cases h
    · rename_i hmost
      cases h
      have hleast : leastNormal < 2 * leastNormal := by decide
      exact ⟨hleast, Int.le_trans he.least (by simp), not_lt.mp hmost, .inr (le_refl _)⟩
  · rw [if_neg hfull] at h
    split at h
    · cases h
    · rename_i hmost
      cases h
      exact ⟨Nat.lt_of_le_of_ne hle hfull, he.least, not_lt.mp hmost, hnormal⟩

/-! ### What is rounded to a number -/

/-- Whether the number below is only half as far as the number above: it has a smaller scale. -/
def IsNarrow (m : Magnitude) : Prop := m.mantissa = leastNormal ∧ leastExponent < m.exponent

instance (m : Magnitude) : Decidable m.IsNarrow := inferInstanceAs (Decidable (_ ∧ _))

/-- How far down a number reaches, in units of its scale. -/
def reach (m : Magnitude) : ℚ := if m.IsNarrow then 1 / 4 else 1 / 2

/-- A number attracts what is at most half the way to its neighbours from it.  It attracts what lies in
the middle if its mantissa is even. -/
structure Attracts (m : Magnitude) (x : ℚ) : Prop where
  low : (m.mantissa - m.reach) * 2 ^ m.exponent ≤ x
  high : x ≤ (m.mantissa + 1 / 2) * 2 ^ m.exponent
  even : x = (m.mantissa - m.reach) * 2 ^ m.exponent ∨ x = (m.mantissa + 1 / 2) * 2 ^ m.exponent →
    m.mantissa % 2 = 0

theorem reach_le (m : Magnitude) : m.reach ≤ 1 / 2 := by
  unfold reach
  split <;> norm_num

/-- Only zero attracts zero. -/
theorem Attracts.pos {m : Magnitude} {x : ℚ} (h : m.Attracts x) (hpos : 0 < m.mantissa) : 0 < x := by
  have hmantissa : (1 : ℚ) ≤ m.mantissa := by exact_mod_cast hpos
  exact (mul_pos (by linarith [m.reach_le]) (by positivity)).trans_le h.low

/-- What a number attracts is rounded to it where both have the same scale. -/
theorem ofRatio?_of_sameScale {m : Magnitude} (hm : m.Canonical) (hn : 0 < n) (hd : 0 < d)
    (h : m.Attracts ((n : ℚ) / d))
    (hscale : m.exponent = leastExponent ∨ 2 ^ (m.exponent + 52) ≤ (n : ℚ) / d) :
    ofRatio? n d = some m := by
  have hunit : (0 : ℚ) < 2 ^ m.exponent := by positivity
  have hmantissa : (m.mantissa : ℚ) + 1 ≤ (2 * leastNormal : Nat) := by exact_mod_cast hm.mantissa
  have he : ScaleAt ((n : ℚ) / d) m.exponent := by
    refine ⟨hm.least, h.high.trans_lt ?_, hscale⟩
    rw [← twice_leastNormal_mul]
    exact mul_lt_mul_of_pos_right (by linarith) hunit
  have hround : mantissaAt n d m.exponent = m.mantissa := by
    refine roundDiv_eq_of_rat (Nat.mul_pos hd (twoTo_pos _)) ?_ ?_ ?_
    · rw [scaled_div, le_div_iff₀ hunit]
      exact le_trans (mul_le_mul_of_nonneg_right (by linarith [m.reach_le]) hunit.le) h.low
    · rw [scaled_div, div_le_iff₀ hunit]
      exact h.high
    · rw [scaled_div, div_eq_iff hunit.ne', div_eq_iff hunit.ne']
      rintro (heq | heq)
      · -- so far down only a number reaches that is not narrow
        refine h.even (.inl (le_antisymm ?_ h.low))
        rw [heq]
        exact mul_le_mul_of_nonneg_right (by linarith [m.reach_le]) hunit.le
      · exact h.even (.inr heq)
  rw [ofRatio?_eq hn hd he, hround, if_neg (Nat.ne_of_lt hm.mantissa)]
  simp only
  rw [if_neg (not_lt.mpr hm.most)]

/-- What a power of two attracts from below its scale is rounded up to the next mantissa, which is the
power itself. -/
theorem ofRatio?_of_narrow {e : Int} (hm : Canonical ⟨leastNormal, e⟩) (hleast : leastExponent < e)
    (hn : 0 < n) (hd : 0 < d) (hlow : ((leastNormal : ℚ) - 1 / 4) * 2 ^ e ≤ (n : ℚ) / d)
    (hless : (n : ℚ) / d < 2 ^ (e + 52)) : ofRatio? n d = some ⟨leastNormal, e⟩ := by
  have hbig : (2 : ℚ) ≤ leastNormal := by exact_mod_cast (by decide : 2 ≤ leastNormal)
  have hhalf : (2 : ℚ) ^ e = 2 ^ (e - 1) * 2 := by
    rw [← zpow_add_one₀ (by norm_num), sub_add_cancel]
  have hunit : (0 : ℚ) < 2 ^ (e - 1) := by positivity
  have he : ScaleAt ((n : ℚ) / d) (e - 1) := by
    refine ⟨by omega, by rwa [show e - 1 + 53 = e + 52 by omega], .inr ?_⟩
    rw [← leastNormal_mul]
    refine le_trans ?_ hlow
    rw [hhalf, ← mul_assoc, mul_right_comm]
    exact mul_le_mul_of_nonneg_right (by linarith) hunit.le
  have hround : mantissaAt n d (e - 1) = 2 * leastNormal := by
    rw [← leastNormal_mul, hhalf] at hless
    rw [hhalf] at hlow
    refine roundDiv_eq_of_rat (Nat.mul_pos hd (twoTo_pos _)) ?_ ?_ fun _ => Nat.mul_mod_right 2 _
    · rw [scaled_div, le_div_iff₀ hunit, Nat.cast_mul, Nat.cast_ofNat]
      linarith
    · rw [scaled_div, div_le_iff₀ hunit, Nat.cast_mul, Nat.cast_ofNat]
      linarith
  rw [ofRatio?_eq hn hd he, hround, if_pos rfl]
  simp only [sub_add_cancel]
  rw [if_neg (not_lt.mpr hm.most)]

/-- **What a number attracts is rounded to it.** -/
theorem ofRatio?_of_attracts {m : Magnitude} (hm : m.Canonical) (hn : 0 < n) (hd : 0 < d)
    (h : m.Attracts ((n : ℚ) / d)) : ofRatio? n d = some m := by
  by_cases hscale : m.exponent = leastExponent ∨ 2 ^ (m.exponent + 52) ≤ (n : ℚ) / d
  · exact ofRatio?_of_sameScale hm hn hd h hscale
  obtain ⟨hexponent, hless⟩ := not_or.mp hscale
  have hless := not_le.mp hless
  have hunit : (0 : ℚ) < 2 ^ m.exponent := by positivity
  -- only a power of two reaches below its scale
  have hnarrow : m.IsNarrow := by
    refine ⟨?_, lt_of_le_of_ne hm.least (Ne.symm hexponent)⟩
    by_contra hne
    have hmore : leastNormal + 1 ≤ m.mantissa := by
      have := hm.normal.resolve_left hexponent
      omega
    have hmore : (leastNormal : ℚ) + 1 ≤ m.mantissa := by exact_mod_cast hmore
    have hlow : (leastNormal : ℚ) * 2 ^ m.exponent < (m.mantissa - m.reach) * 2 ^ m.exponent :=
      mul_lt_mul_of_pos_right (by linarith [m.reach_le]) hunit
    rw [leastNormal_mul] at hlow
    linarith [h.low]
  have hlow := h.low
  rw [reach, if_pos hnarrow] at hlow
  obtain ⟨mantissa, exponent⟩ := m
  obtain ⟨rfl, hleast⟩ := hnarrow
  exact ofRatio?_of_narrow hm hleast hn hd hlow hless

end

end Magnitude

end JobWorker.Decimal
