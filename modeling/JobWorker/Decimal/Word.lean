/-
Whole numbers of 64 bits with a sign, read from a text.

The text is read from the left, so the first fault counts: a number that has become too large is
reported even if something that is no digit follows.
-/
import JobWorker.Decimal.Integer
import JobWorker.Decimal.Power

namespace JobWorker.Decimal

/-- Why a text is no number of 64 bits. -/
inductive WordFault where
  | empty
  | invalidDigit
  | tooLarge
  | tooSmall
  deriving DecidableEq, Repr

/-- The wording of a fault. -/
def WordFault.message : WordFault → String
  | .empty => "cannot parse integer from empty string"
  | .invalidDigit => "invalid digit found in string"
  | .tooLarge => "number too large to fit in target type"
  | .tooSmall => "number too small to fit in target type"

/-- The number up to `greatest` that digits denote. -/
def readMagnitude (greatest : Nat) (overflow : WordFault) (digits : List Char) :
    Except WordFault Nat :=
  digits.foldlM (fun (n : Nat) (c : Char) =>
    if c.isDigit then
      let m := n * 10 + (c.toNat - '0'.toNat)
      if m ≤ greatest then .ok m else .error overflow
    else .error .invalidDigit) 0

/-- Reads a number of 64 bits with a sign. -/
def readWord (text : List Char) : Except WordFault Int :=
  match text with
  | [] => .error .empty
  | ['+'] | ['-'] => .error .invalidDigit
  | '+' :: digits =>
    (readMagnitude greatestInt64.natAbs .tooLarge digits).map fun (n : Nat) => (n : Int)
  | '-' :: digits => (readMagnitude leastInt64.natAbs .tooSmall digits).map fun (n : Nat) => -(n : Int)
  | digits => (readMagnitude greatestInt64.natAbs .tooLarge digits).map fun (n : Nat) => (n : Int)

/-- Digits are read, up to the greatest number. -/
theorem readMagnitude_of_digits {greatest : Nat} {overflow : WordFault} {digits : List Char}
    (hdigits : ∀ c ∈ digits, c.isDigit = true) (hle : ofDigits digits ≤ greatest) :
    readMagnitude greatest overflow digits = .ok (ofDigits digits) := by
  unfold readMagnitude ofDigits
  rw [ofDigits] at hle
  -- the number of the digits so far is the greater the further reading has come
  generalize 0 = n at hle ⊢
  induction digits generalizing n with
  | nil => rfl
  | cons d digits ih =>
    obtain ⟨hd, hdigits⟩ := List.forall_mem_cons.1 hdigits
    rw [Nat.ofDigitChars_cons] at hle ⊢
    have hfits : n * 10 + (d.toNat - '0'.toNat) ≤ greatest := by
      rw [Nat.mul_comm]
      exact Nat.le_trans (le_ofDigitChars digits _) hle
    rw [List.foldlM_cons, if_pos hd]
    simp only [if_pos hfits, bind, Except.bind]
    rw [Nat.mul_comm n 10]
    exact ih hdigits _ hle

theorem readWord_of_digits {digits : List Char} (hne : digits ≠ [])
    (hdigits : ∀ c ∈ digits, c.isDigit = true)
    (hle : ofDigits digits ≤ greatestInt64.natAbs) :
    readWord digits = .ok (ofDigits digits : Int) := by
  unfold readWord
  split
  · exact absurd rfl hne
  · exact absurd (hdigits '+' List.mem_cons_self) (by decide)
  · exact absurd (hdigits '-' List.mem_cons_self) (by decide)
  · exact absurd (hdigits '+' List.mem_cons_self) (by decide)
  · exact absurd (hdigits '-' List.mem_cons_self) (by decide)
  · rw [readMagnitude_of_digits hdigits hle]
    rfl

end JobWorker.Decimal
