/-
Integers in decimal digits.

Writing uses as few digits as possible and a minus sign for negative numbers.  Reading is more
generous: a plus sign and leading zeros are accepted, and nothing else.
-/

namespace JobWorker.Decimal

/-- The digits of an integer, after a minus sign if it is negative. -/
def intText (n : Int) : List Char :=
  if n < 0 then '-' :: Nat.toDigits 10 n.natAbs else Nat.toDigits 10 n.natAbs

/-- The number that a row of digits denotes. -/
def ofDigits (digits : List Char) : Nat := Nat.ofDigitChars 10 digits 0

/-- The number that a text of digits only denotes. -/
def nat? (text : List Char) : Option Nat :=
  if !text.isEmpty && text.all Char.isDigit then some (ofDigits text) else none

/-- The number that a text of digits, with or without a sign before them, denotes. -/
def int? : List Char → Option Int
  | '+' :: digits => (nat? digits).map fun (n : Nat) => (n : Int)
  | '-' :: digits => (nat? digits).map fun (n : Nat) => -(n : Int)
  | digits => (nat? digits).map fun (n : Nat) => (n : Int)

/-- More digits never make a number smaller. -/
theorem le_ofDigitChars (digits : List Char) (value : Nat) :
    value ≤ Nat.ofDigitChars 10 digits value := by
  induction digits generalizing value with
  | nil => exact Nat.le_refl value
  | cons d digits ih =>
    rw [Nat.ofDigitChars_cons]
    exact Nat.le_trans (by omega) (ih _)

/-- Reading back what was written gives the number again. -/
theorem ofDigits_toDigits (n : Nat) : ofDigits (Nat.toDigits 10 n) = n :=
  Nat.ofDigitChars_toDigits (by decide) (by decide)

theorem isDigit_of_mem_toDigits {n : Nat} {c : Char} (h : c ∈ Nat.toDigits 10 n) :
    c.isDigit = true :=
  Nat.isDigit_of_mem_toDigits (by decide) (by decide) h

theorem toDigits_ne_nil (n : Nat) : Nat.toDigits 10 n ≠ [] := by
  intro h
  have := Nat.length_toDigits_pos (b := 10) (n := n)
  simp [h] at this

theorem nat?_toDigits (n : Nat) : nat? (Nat.toDigits 10 n) = some n := by
  have hall : (Nat.toDigits 10 n).all Char.isDigit = true :=
    List.all_eq_true.2 fun c hc => isDigit_of_mem_toDigits hc
  have hne : (Nat.toDigits 10 n).isEmpty = false := List.isEmpty_eq_false_iff.2 (toDigits_ne_nil n)
  simp only [nat?, ofDigits_toDigits, hall, hne]
  rfl

/-- Every integer is read back from its digits. -/
theorem int?_intText (n : Int) : int? (intText n) = some n := by
  unfold intText
  split
  · next h =>
    rw [int?, nat?_toDigits, Option.map_some]
    congr 1
    omega
  · next h =>
    have hn : nat? (Nat.toDigits 10 n.natAbs) = some n.natAbs := nat?_toDigits _
    have hd := fun c (hc : c ∈ Nat.toDigits 10 n.natAbs) => isDigit_of_mem_toDigits hc
    cases hds : Nat.toDigits 10 n.natAbs with
    | nil => exact absurd hds (toDigits_ne_nil _)
    | cons d ds =>
      have : d.isDigit = true := hd d (by simp [hds])
      unfold int?
      split
      · next heq => cases heq; exact absurd this (by decide)
      · next heq => cases heq; exact absurd this (by decide)
      · rw [← hds, hn, Option.map_some]
        congr 1
        omega

/-- The text of an integer consists of digits and a minus sign. -/
theorem eq_minus_or_isDigit_of_mem_intText {n : Int} {c : Char} (h : c ∈ intText n) :
    c = '-' ∨ c.isDigit = true := by
  unfold intText at h
  split at h
  · exact (List.mem_cons.1 h).imp_right isDigit_of_mem_toDigits
  · exact .inr (isDigit_of_mem_toDigits h)

theorem intText_inj {n m : Int} (h : intText n = intText m) : n = m := by
  have := congrArg int? h
  simpa [int?_intText] using this

end JobWorker.Decimal
