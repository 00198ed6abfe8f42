/-
Job keys.

The broker gives every job a signed number of 64 bits.  A key is written as a number; it is read
from a number or from a text of decimal digits, because some gateways send keys as texts.
-/
import JobWorker.Json.Reader
import JobWorker.Text.Blank

namespace JobWorker

/-- The number by which the broker knows a job. -/
structure JobKey where
  value : Int64
  deriving DecidableEq, Repr, Inhabited

namespace JobKey

/-- The key as a number. -/
def toInt (key : JobKey) : Int := key.value.toInt

/-- The key with a number in the range of 64 bits. -/
def ofInt (n : Int) : JobKey := ⟨Int64.ofInt n⟩

/-- The key in decimal digits. -/
def text (key : JobKey) : String := String.ofList (Decimal.intText key.toInt)

instance : ToString JobKey := ⟨text⟩

/-- The key as a JSON document. -/
def toJson (key : JobKey) : Json.Value := .int key.toInt

/-- Whether a number is in the range of keys. -/
def inRange (n : Int) : Bool := Decimal.leastInt64 ≤ n && n ≤ Decimal.greatestInt64

/-- The key that a text denotes: decimal digits, with or without a sign, between blanks. -/
def ofText? (text : String) : Option JobKey :=
  match Decimal.int? (Text.trim text.toList) with
  | some n => if inRange n then some (ofInt n) else none
  | none => none

/-- What a reader of keys expects, in words. -/
def expected : String := "a job key as an integer or a decimal string"

open Json in
/-- Reads a key. -/
def read : Reader JobKey := fun levels c =>
  let c := c.skipSpace
  match c.rest with
  | '"' :: _ => do
    let (s, c) ← StringLiteral.read c.next
    match ofText? s with
    | some key => return (key, c)
    | none => c.fail (.invalidKey s)
  | '[' :: _ =>
    if levels = 0 then c.failAt .nestedTooDeep
    else c.next.leaveArray.fail (.wrongType .array expected)
  | '\x7b' :: _ =>
    if levels = 0 then c.failAt .nestedTooDeep
    else c.next.leaveObject.fail (.wrongType .object expected)
  | ch :: _ =>
    if ch = '-' || ch.isDigit then do
      let (n, c) ← readNumber c
      match n with
      | .integer n => if inRange n then return (ofInt n, c) else c.fail (.keyOutOfRange n)
      | .float x => c.fail (.wrongType (.number (.float x)) expected)
    else refuse expected c
  | [] => refuse expected c

theorem inRange_iff {n : Int} : inRange n = true ↔ Decimal.leastInt64 ≤ n ∧ n ≤ Decimal.greatestInt64 := by
  simp [inRange]

theorem ofInt_toInt (key : JobKey) : ofInt key.toInt = key := by
  cases key
  simp [ofInt, toInt]

theorem toInt_ofInt {n : Int} (h : inRange n = true) : (ofInt n).toInt = n := by
  rw [inRange_iff, Decimal.leastInt64, Decimal.greatestInt64] at h
  simp only [ofInt, toInt, Int64.toInt_ofInt]
  apply Int.bmod_eq_of_le <;> simp [Int64.size] <;> omega

theorem inRange_toInt (key : JobKey) : inRange key.toInt = true := by
  have h₁ := key.value.le_toInt
  have h₂ := key.value.toInt_lt
  exact inRange_iff.2 ⟨h₁, Int.le_of_lt_add_one h₂⟩

end JobKey

end JobWorker
