/-
Which texts spell a key.

A key is spelled as an integer literal or as a string.  The literal has no fraction, no power and no
leading zeros, and a minus sign is followed by no lonely zero, so that every integer has one.  In a
string, blanks, a plus sign and leading zeros make no difference.  Both ways are written down here
without regard to how a key is read, and what the reader accepts is shown to be these texts.
-/
import JobWorker.Proofs.Rest.Decoding
import JobWorker.Proofs.Text.Stripped

namespace JobWorker

open Json

/-! ### Integer literals -/

namespace Json

/-- The integer literals, and which integer each is. -/
inductive IntegerLiteral : Int → List Char → Prop
  | plain {digits : List Char} : IsWhole digits → IntegerLiteral (Decimal.ofDigits digits) digits
  | minus {digits : List Char} : IsWhole digits → digits ≠ ['0'] →
      IntegerLiteral (-Decimal.ofDigits digits) ('-' :: digits)

variable {digits text : List Char} {n : Int}

/-- Only a zero alone denotes zero. -/
theorem ofDigits_eq_zero_iff (h : IsWhole digits) : Decimal.ofDigits digits = 0 ↔ digits = ['0'] := by
  constructor
  · intro hzero
    rw [← toDigits_of_isWhole h, ← Decimal.ofDigits, hzero]
    rfl
  · rintro rfl
    rfl

/-- **Every integer has one literal**, its digits behind a minus sign if it is negative. -/
theorem integerLiteral_iff : IntegerLiteral n text ↔ text = Decimal.intText n := by
  constructor
  · intro h
    cases h with
    | plain hdigits =>
      have hnot : ¬ (Decimal.ofDigits text : Int) < 0 := by omega
      rw [Decimal.intText, if_neg hnot, Int.natAbs_natCast, Decimal.ofDigits,
        toDigits_of_isWhole hdigits]
    | @minus digits hdigits hzero =>
      have hpos : Decimal.ofDigits digits ≠ 0 := (ofDigits_eq_zero_iff hdigits).not.2 hzero
      have hneg : -(Decimal.ofDigits digits : Int) < 0 := by omega
      rw [Decimal.intText, if_pos hneg, Int.natAbs_neg, Int.natAbs_natCast, Decimal.ofDigits,
        toDigits_of_isWhole hdigits]
  · rintro rfl
    have hwhole : IsWhole (Nat.toDigits 10 n.natAbs) := isWhole_toDigits n.natAbs
    have hvalue : Decimal.ofDigits (Nat.toDigits 10 n.natAbs) = n.natAbs := Decimal.ofDigits_toDigits _
    rw [Decimal.intText]
    by_cases hneg : n < 0
    · have hzero : Nat.toDigits 10 n.natAbs ≠ ['0'] := by
        rw [Ne, ← ofDigits_eq_zero_iff hwhole, hvalue]
        omega
      have h := IntegerLiteral.minus hwhole hzero
      rw [hvalue] at h
      rwa [if_pos hneg, show n = -(n.natAbs : Int) by omega, Int.natAbs_neg, Int.natAbs_natCast]
    · have h := IntegerLiteral.plain hwhole
      rw [hvalue] at h
      rwa [if_neg hneg, show n = (n.natAbs : Int) by omega, Int.natAbs_natCast]

end Json

/-! ### Digits with a sign -/

namespace Decimal

/-- Digits with or without a sign, and which integer they denote. -/
inductive SignedDigits : Int → List Char → Prop
  | unsigned {digits : List Char} : IsDigits digits → SignedDigits (ofDigits digits) digits
  | plus {digits : List Char} : IsDigits digits → SignedDigits (ofDigits digits) ('+' :: digits)
  | minus {digits : List Char} : IsDigits digits → SignedDigits (-ofDigits digits) ('-' :: digits)

variable {digits text : List Char}

theorem nat?_eq_some_iff {m : Nat} : nat? digits = some m ↔ IsDigits digits ∧ m = ofDigits digits := by
  have hcond : (!digits.isEmpty && digits.all Char.isDigit) = true ↔ IsDigits digits := by
    simp [IsDigits]
  rw [nat?]
  by_cases h : IsDigits digits
  · rw [if_pos (hcond.2 h), Option.some.injEq, eq_comm]
    exact (and_iff_right h).symm
  · rw [if_neg (mt hcond.1 h)]
    simp [h]

/-- An integer is read from digits with or without a sign. -/
theorem int?_eq_some_iff {n : Int} : int? text = some n ↔ SignedDigits n text := by
  constructor
  · intro h
    unfold int? at h
    split at h
    all_goals
      obtain ⟨m, hm, rfl⟩ := Option.map_eq_some_iff.1 h
      obtain ⟨hdigits, rfl⟩ := nat?_eq_some_iff.1 hm
    · exact .plus hdigits
    · exact .minus hdigits
    · exact .unsigned hdigits
  · intro h
    cases h with
    | unsigned hdigits =>
      obtain ⟨d, more, rfl, hd⟩ := hdigits.exists_cons
      have hnat := nat?_eq_some_iff.2 ⟨hdigits, rfl⟩
      unfold int?
      split
      · next heq =>
        cases heq
        exact absurd hd (by decide)
      · next heq =>
        cases heq
        exact absurd hd (by decide)
      · rw [hnat, Option.map_some]
    | plus hdigits => rw [int?, nat?_eq_some_iff.2 ⟨hdigits, rfl⟩, Option.map_some]
    | minus hdigits => rw [int?, nat?_eq_some_iff.2 ⟨hdigits, rfl⟩, Option.map_some]

end Decimal

/-! ### Keys -/

namespace JobKey

/-- The texts that spell a key. -/
inductive Spelled (n : Int) : List Char → Prop
  | number {text : List Char} : Padded (IntegerLiteral n) text → Spelled n text
  | string {s : String} {core text : List Char} : stringForm s text → Text.Stripped s.toList core →
      Decimal.SignedDigits n core → Spelled n text

variable {key : JobKey} {n : Int} {text : List Char}

theorem ofText?_iff {s : String} : ofText? s = some key ↔
    ∃ core, Text.Stripped s.toList core ∧ Decimal.SignedDigits key.toInt core := by
  constructor
  · intro h
    refine ⟨_, Text.stripped_trim s.toList, Decimal.int?_eq_some_iff.1 ?_⟩
    unfold ofText? at h
    split at h
    · next n hn =>
      split at h
      · next hrange =>
        cases h
        rw [toInt_ofInt hrange, hn]
      · cases h
    · cases h
  · rintro ⟨core, hcore, hdigits⟩
    have hint := Decimal.int?_eq_some_iff.2 hdigits
    rw [← hcore.trim] at hint
    simp only [ofText?, hint, inRange_toInt, ofInt_toInt]
    rfl

/-- The texts of a key are those that spell it. -/
theorem form_iff : form key text ↔ Spelled key.toInt text := by
  constructor
  · rintro (h | ⟨hbefore, ⟨s, body, hkey, hbody, rfl⟩, hafter⟩)
    · exact .number (h.imp fun inner => integerLiteral_iff.2)
    · obtain ⟨core, hcore, hdigits⟩ := ofText?_iff.1 hkey
      exact .string (.around hbefore ⟨body, hbody, rfl⟩ hafter) hcore hdigits
  · intro h
    cases h with
    | number h => exact .inl (h.imp fun inner => integerLiteral_iff.1)
    | string hstring hcore hdigits =>
      obtain ⟨hbefore, ⟨body, hbody, rfl⟩, hafter⟩ := hstring
      exact .inr (.around hbefore ⟨_, body, ofText?_iff.2 ⟨_, hcore, hdigits⟩, hbody, rfl⟩ hafter)

/-- A key is read from the texts that spell it, and from no others. -/
theorem parse_eq_ok_iff {text : String} :
    parse read text = .ok key ↔ Spelled key.toInt text.toList :=
  ((read_yields deepest).readAll_iff (read_accepts.mono (Nat.zero_le _)) rfl).trans form_iff

/-- The decimal text of a key spells it, as a number or between blanks in a string. -/
theorem spelled_of_keyText (h : Rest.KeyText key.toInt text) : Spelled key.toInt text :=
  form_iff.1 (h.form_iff.2 rfl)

end JobKey

end JobWorker
