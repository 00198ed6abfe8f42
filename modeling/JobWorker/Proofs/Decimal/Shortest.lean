/-
The fewest digits of a number lead back to it.

What is written lies in the interval of the number, which is just what the number attracts.  That some
decimal of 17 digits always lies in it is a matter of widths: a number has at most 53 bits, so it takes 16
powers of ten below its first digit to get under the distance between neighbours, also where one of them
is only half as far.
-/
import JobWorker.Decimal.Shortest
import JobWorker.Proofs.Decimal.Rounding
import Mathlib.Tactic.NormNum
import Mathlib.Tactic.Ring

namespace JobWorker.Decimal

/-! ### The interval of a number -/

/-- To multiply by a power of ten or to divide by its inverse is the same, but for one factor. -/
theorem exists_factor {b : Nat} (hb : 0 < b) (k : Int) :
    ∃ c : ℚ, 0 < c ∧ (∀ a : Nat, ((a * tenTo (-k).toNat : Nat) : ℚ) = a / b * c) ∧
      ∀ n : Nat, ((n * (b * tenTo k.toNat) : Nat) : ℚ) = n * 10 ^ k * c := by
  have hten : (10 : ℚ) ≠ 0 := by norm_num
  have hb' : (0 : ℚ) < b := by exact_mod_cast hb
  have hsame : ((tenTo (-k).toNat : Nat) : ℚ) * 10 ^ k = (tenTo k.toNat : Nat) := by
    rw [cast_tenTo, cast_tenTo, ← zpow_natCast, ← zpow_natCast, ← zpow_add₀ hten]
    congr 1
    omega
  refine ⟨b * (tenTo (-k).toNat : Nat), ?_, ?_, ?_⟩
  · exact mul_pos hb' (by exact_mod_cast tenTo_pos _)
  · intro a
    rw [Nat.cast_mul, ← mul_assoc, div_mul_cancel₀ _ hb'.ne']
  · intro n
    rw [Nat.cast_mul, Nat.cast_mul, ← hsame]
    ring

namespace Magnitude

variable {m : Magnitude} {k : Int}

theorem den_pos (m : Magnitude) : 0 < 4 * m.den := Nat.mul_pos (by decide) (twoTo_pos _)

theorem unit_div (e : Int) : ((twoTo e.toNat : Nat) : ℚ) / ((twoTo (-e).toNat : Nat) : ℚ) = 2 ^ e := by
  have h := scaled_div 1 1 (-e)
  rw [neg_neg, one_mul, one_mul, Nat.cast_one, div_one, zpow_neg, one_div, inv_inv] at h
  exact h

/-- Some units above or below the number, in quarters. -/
theorem quarters_div (m : Magnitude) (q : ℚ) :
    (4 * (m.num : ℚ) + q * (twoTo m.exponent.toNat : Nat)) / (4 * m.den : Nat)
      = (m.mantissa + q / 4) * 2 ^ m.exponent := by
  have hden : ((twoTo (-m.exponent).toNat : Nat) : ℚ) ≠ 0 := by exact_mod_cast (twoTo_pos _).ne'
  rw [← unit_div, num, den, Nat.cast_mul, Nat.cast_mul, Nat.cast_ofNat]
  field_simp

/-- The ends of the interval of a number are how far it reaches. -/
theorem lower_div (hpos : 0 < m.mantissa) :
    (m.interval.lower : ℚ) / (4 * m.den : Nat) = (m.mantissa - m.reach) * 2 ^ m.exponent := by
  obtain ⟨q, hq, hreach, hlower⟩ : ∃ q : Nat, q ≤ 4 ∧ m.reach = (q : ℚ) / 4 ∧
      m.interval.lower = 4 * m.num - q * twoTo m.exponent.toNat := by
    by_cases hnarrow : m.IsNarrow
    · refine ⟨1, by decide, by rw [reach, if_pos hnarrow, Nat.cast_one], ?_⟩
      simp only [interval, if_pos (show _ ∧ _ from hnarrow), one_mul]
    · refine ⟨2, by decide, by rw [reach, if_neg hnarrow]; norm_num, ?_⟩
      simp only [interval, if_neg (show ¬ (_ ∧ _) from hnarrow)]
  have hle : q * twoTo m.exponent.toNat ≤ 4 * m.num :=
    Nat.mul_le_mul hq (Nat.le_mul_of_pos_left _ hpos)
  have hdiv := quarters_div m (-q)
  rw [neg_div, ← sub_eq_add_neg, neg_mul, ← sub_eq_add_neg, ← hreach] at hdiv
  rw [hlower, Nat.cast_sub hle, ← hdiv, Nat.cast_mul, Nat.cast_mul]
  norm_num

theorem upper_div (m : Magnitude) :
    (m.interval.upper : ℚ) / (4 * m.den : Nat) = (m.mantissa + 1 / 2) * 2 ^ m.exponent := by
  have hupper : (m.interval.upper : ℚ) = 4 * m.num + 2 * (twoTo m.exponent.toNat : Nat) := by
    simp [interval]
  rw [hupper, quarters_div]
  ring

/-- What lies in the interval of a number is what the number attracts. -/
theorem has_shift_iff (hpos : 0 < m.mantissa) {n : Nat} :
    (m.interval.shift k).has n = true ↔ m.Attracts (n * 10 ^ k) := by
  obtain ⟨c, hc, hends, hscaled⟩ := exists_factor m.den_pos k
  have hlow : m.interval.lower * tenTo (-k).toNat ≤ n * (4 * m.den * tenTo k.toNat) ↔
      (m.mantissa - m.reach) * 2 ^ m.exponent ≤ (n : ℚ) * 10 ^ k := by
    rw [← @Nat.cast_le ℚ, hends, hscaled, lower_div hpos, mul_le_mul_iff_left₀ hc]
  have hhigh : n * (4 * m.den * tenTo k.toNat) ≤ m.interval.upper * tenTo (-k).toNat ↔
      (n : ℚ) * 10 ^ k ≤ (m.mantissa + 1 / 2) * 2 ^ m.exponent := by
    rw [← @Nat.cast_le ℚ, hends, hscaled, upper_div, mul_le_mul_iff_left₀ hc]
  have hlow' : m.interval.lower * tenTo (-k).toNat < n * (4 * m.den * tenTo k.toNat) ↔
      (m.mantissa - m.reach) * 2 ^ m.exponent < (n : ℚ) * 10 ^ k := by
    rw [← @Nat.cast_lt ℚ, hends, hscaled, lower_div hpos, mul_lt_mul_iff_left₀ hc]
  have hhigh' : n * (4 * m.den * tenTo k.toNat) < m.interval.upper * tenTo (-k).toNat ↔
      (n : ℚ) * 10 ^ k < (m.mantissa + 1 / 2) * 2 ^ m.exponent := by
    rw [← @Nat.cast_lt ℚ, hends, hscaled, upper_div, mul_lt_mul_iff_left₀ hc]
  unfold Interval.has
  split
  · rename_i hclosed
    have heven : m.mantissa % 2 = 0 := of_decide_eq_true hclosed
    rw [Bool.and_eq_true, decide_eq_true_iff, decide_eq_true_iff]
    exact ⟨fun ⟨h, h'⟩ => ⟨hlow.mp h, hhigh.mp h', fun _ => heven⟩,
      fun h => ⟨hlow.mpr h.low, hhigh.mpr h.high⟩⟩
  · rename_i hopen
    have hodd : m.mantissa % 2 ≠ 0 := fun heven => hopen (decide_eq_true heven)
    rw [Bool.and_eq_true, decide_eq_true_iff, decide_eq_true_iff]
    constructor
    · rintro ⟨h, h'⟩
      have h := hlow'.mp h
      have h' := hhigh'.mp h'
      exact ⟨h.le, h'.le, fun heq => (heq.elim h.ne' h'.ne).elim⟩
    · intro h
      exact ⟨hlow'.mpr (lt_of_le_of_ne h.low fun heq => hodd (h.even (.inl heq.symm))),
        hhigh'.mpr (lt_of_le_of_ne h.high fun heq => hodd (h.even (.inr heq)))⟩

end Magnitude

/-! ### The decimals next to a number -/

namespace Interval

variable {i : Interval} {n : Nat}

theorem has_of_nearest? (h : i.nearest? = some n) : i.has n = true := by
  unfold nearest? at h
  simp only at h
  split at h
  · rename_i hbelow habove
    split at h
    · cases h
      exact hbelow
    · cases h
      exact habove
  · rename_i hbelow _
    cases h
    exact hbelow
  · rename_i _ habove
    cases h
    exact habove
  · cases h

theorem nearest?_of_has
    (h : i.has (i.value / i.denominator) = true ∨ i.has (i.value / i.denominator + 1) = true) :
    ∃ n, i.nearest? = some n := by
  unfold nearest?
  simp only
  split
  · split <;> exact ⟨_, rfl⟩
  · exact ⟨_, rfl⟩
  · exact ⟨_, rfl⟩
  · rename_i hbelow habove
    rcases h with h | h
    · rw [h] at hbelow
      cases hbelow
    · rw [h] at habove
      cases habove

end Interval

namespace Magnitude

variable {m : Magnitude} {k : Int}

theorem value_div (m : Magnitude) : (m.interval.value : ℚ) / (4 * m.den : Nat) = m.value := by
  have hdiv := quarters_div m 0
  rw [zero_mul, add_zero, zero_div, add_zero] at hdiv
  rw [value, ← hdiv]
  simp [interval]

/-- A number lies between the decimals next to it. -/
theorem between_decimals (m : Magnitude) (k : Int) :
    let below := (m.interval.shift k).value / (m.interval.shift k).denominator
    (below : ℚ) * 10 ^ k ≤ m.value ∧ m.value < ((below + 1 : Nat) : ℚ) * 10 ^ k := by
  obtain ⟨c, hc, hends, hscaled⟩ := exists_factor m.den_pos k
  simp only
  generalize hbelow : (m.interval.shift k).value / (m.interval.shift k).denominator = below
  have hpos : 0 < 4 * m.den * tenTo k.toNat := Nat.mul_pos m.den_pos (tenTo_pos _)
  have hdef : m.interval.value * tenTo (-k).toNat / (4 * m.den * tenTo k.toNat) = below := hbelow
  constructor
  · have hle : below * (4 * m.den * tenTo k.toNat) ≤ m.interval.value * tenTo (-k).toNat := by
      rw [← hdef]
      exact Nat.div_mul_le_self _ _
    rwa [← @Nat.cast_le ℚ, hends, hscaled, value_div, mul_le_mul_iff_left₀ hc] at hle
  · have hlt : m.interval.value * tenTo (-k).toNat < (below + 1) * (4 * m.den * tenTo k.toNat) := by
      rw [← hdef, Nat.mul_comm (_ / _ + 1)]
      exact Nat.lt_mul_div_succ _ hpos
    rwa [← @Nat.cast_lt ℚ, hends, hscaled, value_div, mul_lt_mul_iff_left₀ hc] at hlt

/-- Sixteen powers of ten below a number, decimals are closer together than numbers. -/
theorem tenTo_lt_width (hm : m.Canonical) (h : (10 : ℚ) ^ 16 * 10 ^ k ≤ m.value) :
    (10 : ℚ) ^ k < (1 / 2 + m.reach) * 2 ^ m.exponent := by
  have hunit : (0 : ℚ) < 2 ^ m.exponent := by positivity
  unfold value at h
  by_cases hnarrow : m.IsNarrow
  · rw [reach, if_pos hnarrow]
    have hmantissa : (m.mantissa : ℚ) = 4503599627370496 := by
      rw [hnarrow.1]
      norm_num [leastNormal, twoTo]
    rw [hmantissa] at h
    linarith
  · rw [reach, if_neg hnarrow]
    have hmantissa : (m.mantissa : ℚ) < 9007199254740992 := by
      exact_mod_cast (show m.mantissa < 9007199254740992 from hm.mantissa)
    have hless := mul_lt_mul_of_pos_right hmantissa hunit
    linarith

/-- With seventeen digits there is a decimal in the interval of a number. -/
theorem nearest?_of_digits (hm : m.Canonical) (hpos : 0 < m.mantissa)
    (h : (10 : ℚ) ^ 16 * 10 ^ k ≤ m.value) : ∃ n, (m.interval.shift k).nearest? = some n := by
  have hunit : (0 : ℚ) < 2 ^ m.exponent := by positivity
  have hten : (0 : ℚ) < 10 ^ k := by positivity
  have hreach : 0 < m.reach := by
    unfold reach
    split <;> norm_num
  have hreach' := mul_pos hreach hunit
  have hwidth := tenTo_lt_width hm h
  obtain ⟨hbelow, habove⟩ := between_decimals m k
  refine Interval.nearest?_of_has ?_
  rw [has_shift_iff hpos, has_shift_iff hpos]
  generalize (m.interval.shift k).value / (m.interval.shift k).denominator = below at hbelow habove ⊢
  rw [Nat.cast_add, Nat.cast_one, add_mul, one_mul] at habove ⊢
  unfold value at hbelow habove
  -- either the decimal below is within reach, or the one above is not far
  rcases lt_or_ge ((m.mantissa - m.reach) * 2 ^ m.exponent) ((below : ℚ) * 10 ^ k) with hlow | hlow
  · refine .inl ⟨hlow.le, by nlinarith, fun heq => ?_⟩
    rcases heq with heq | heq
    · exact absurd heq hlow.ne'
    · nlinarith
  · have hhigh : (below : ℚ) * 10 ^ k + 10 ^ k < (m.mantissa + 1 / 2) * 2 ^ m.exponent := by
      linarith
    refine .inr ⟨by linarith, hhigh.le, fun heq => ?_⟩
    rcases heq with heq | heq
    · linarith
    · exact absurd heq hhigh.ne

end Magnitude

/-! ### The first digit -/

theorem le_mul_stepsTo {d : Nat} :
    ∀ {fuel n : Nat}, d ≤ n * 10 ^ fuel → d ≤ n * 10 ^ stepsTo d fuel n := by
  intro fuel
  induction fuel with
  | zero => intro n h; exact h
  | succ fuel ih =>
      intro n h
      unfold stepsTo
      split
      · rename_i hle
        simpa using hle
      · rw [Nat.pow_succ', ← Nat.mul_assoc]
        exact ih (by rwa [Nat.pow_succ', ← Nat.mul_assoc] at h)

/-- The power of ten of its first digit does not exceed a quotient. -/
theorem zpow_decimalExponent_le {n d : Nat} (hd : 0 < d) (hfuel : d ≤ n * 10 ^ 400) :
    (10 : ℚ) ^ decimalExponent n d ≤ n / d := by
  have hd' : (0 : ℚ) < d := by exact_mod_cast hd
  unfold decimalExponent
  split
  · rename_i hle
    have hpos : 0 < n / d := Nat.div_pos hle hd
    obtain ⟨length, hlength⟩ : ∃ length, (Nat.toDigits 10 (n / d)).length = length + 1 :=
      Nat.exists_eq_succ_of_ne_zero Nat.length_toDigits_pos.ne'
    have hdigits : 10 ^ length ≤ n / d := by
      rcases Nat.eq_zero_or_pos length with rfl | hlength'
      · exact hpos
      · by_contra hless
        have := (Nat.length_toDigits_le_iff (b := 10) (by decide) hlength').mpr (Nat.lt_of_not_le hless)
        omega
    rw [hlength, Nat.cast_add, Nat.cast_one, add_sub_cancel_right, zpow_natCast, le_div_iff₀ hd']
    have : 10 ^ length * d ≤ n := (Nat.mul_le_mul_right d hdigits).trans (Nat.div_mul_le_self n d)
    exact_mod_cast this
  · have hsteps := le_mul_stepsTo hfuel
    rw [zpow_neg, zpow_natCast, le_div_iff₀ hd', inv_mul_le_iff₀ (by positivity)]
    rw [mul_comm]
    exact_mod_cast hsteps

/-! ### The fewest digits -/

/-- **The fewest digits of a number stand for a decimal that the number attracts.** -/
theorem exists_decimal {m : Magnitude} (hm : m.Canonical) (hpos : 0 < m.mantissa) :
    ∃ n k, shortest m = Scientific.ofNat n k ∧ m.Attracts ((n : ℚ) * 10 ^ k) := by
  have hpowers : ∀ {e k : Nat}, e ≤ 3 * k → twoTo e ≤ 10 ^ k := by
    intro e k hle
    calc twoTo e ≤ 2 ^ (3 * k) := Nat.pow_le_pow_right (by decide) hle
      _ = (2 ^ 3) ^ k := Nat.pow_mul 2 3 k
      _ ≤ 10 ^ k := Nat.pow_le_pow_left (by decide) k
  have hfuel : m.den ≤ m.num * 10 ^ 400 := by
    have hleast : -1074 ≤ m.exponent := hm.least
    exact (hpowers (by omega)).trans (Nat.le_mul_of_pos_left _ (Nat.mul_pos hpos (twoTo_pos _)))
  have hden : 0 < m.den := twoTo_pos _
  have hfirst := zpow_decimalExponent_le hden hfuel
  rw [← Magnitude.value_eq] at hfirst
  unfold shortest
  rw [if_neg hpos.ne']
  generalize decimalExponent m.num m.den = first at hfirst
  simp only
  -- the search ends with seventeen digits at the latest
  have hlast : ∃ n, (m.interval.shift (first - 16)).nearest? = some n := by
    refine Magnitude.nearest?_of_digits hm hpos ?_
    rwa [← zpow_natCast, ← zpow_add₀ (by norm_num), show ((16 : Nat) : Int) + (first - 16) = first by
      push_cast; omega]
  obtain ⟨s, hs⟩ : ∃ s, (List.range mostDigits).findSome? (fun count : Nat =>
      (m.interval.shift (first - count)).nearest?.map fun n => Scientific.ofNat n (first - count))
        = some s := by
    refine Option.isSome_iff_exists.mp (List.findSome?_isSome_iff.mpr ⟨16, by decide, ?_⟩)
    obtain ⟨n, hn⟩ := hlast
    simp [hn]
  obtain ⟨count, -, hcount⟩ := List.exists_of_findSome?_eq_some hs
  obtain ⟨n, hn, rfl⟩ := Option.map_eq_some_iff.mp hcount
  rw [hs]
  exact ⟨n, _, rfl, (Magnitude.has_shift_iff hpos).mp (Interval.has_of_nearest? hn)⟩

end JobWorker.Decimal
