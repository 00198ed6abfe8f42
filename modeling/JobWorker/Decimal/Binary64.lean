/-
Binary floating-point numbers of 64 bits, in exact arithmetic.

A finite number is a sign, a mantissa below 2^53 and a power of two; the subnormal numbers are
those with the least exponent and a mantissa below 2^52.  Every operation here computes the exact
quotient of two natural numbers first and rounds once, to the nearest number and on a tie to the
one with the even mantissa.
-/
import JobWorker.Decimal.Power

namespace JobWorker.Decimal

/-- A finite number without its sign: `mantissa * 2 ^ exponent`. -/
structure Magnitude where
  mantissa : Nat
  exponent : Int
  deriving DecidableEq, Repr, Inhabited

/-- A finite floating-point number. -/
structure Binary64 where
  negative : Bool
  magnitude : Magnitude
  deriving DecidableEq, Repr, Inhabited

namespace Magnitude

/-- The exponent that zero and the subnormal numbers have. -/
def leastExponent : Int := -1074

/-- The exponent of the largest finite numbers. -/
def greatestExponent : Int := 971

/-- The least mantissa of 53 bits. -/
def leastNormal : Nat := twoTo 52

/-- The number zero. -/
def zero : Magnitude := ⟨0, leastExponent⟩

/-- The numerator of the exact value. -/
def num (m : Magnitude) : Nat := m.mantissa * twoTo m.exponent.toNat

/-- The denominator of the exact value. -/
def den (m : Magnitude) : Nat := twoTo (-m.exponent).toNat

/-- The quotient of two numbers, rounded to the nearest whole number, a tie to the even one. -/
def roundDiv (n d : Nat) : Nat :=
  let q := n / d
  let r := n % d
  if d < 2 * r ∨ (2 * r = d ∧ q % 2 = 1) then q + 1 else q

/-- The exponent at which `n / d` has a mantissa of 53 bits, or the least exponent. -/
def scaleOf (n d : Nat) : Int :=
  let guess : Int := n.log2 - d.log2 - 52
  let exact :=
    if n * twoTo (-guess).toNat < leastNormal * (d * twoTo guess.toNat) then guess - 1 else guess
  max exact leastExponent

/-- The number nearest to `n / d`; none when that lies beyond the largest finite number. -/
def ofRatio? (n d : Nat) : Option Magnitude :=
  if n = 0 then some zero
  else
    let e := scaleOf n d
    let m := roundDiv (n * twoTo (-e).toNat) (d * twoTo e.toNat)
    let rounded : Magnitude := if m = 2 * leastNormal then ⟨leastNormal, e + 1⟩ else ⟨m, e⟩
    if greatestExponent < rounded.exponent then none else some rounded

/-- The number nearest to a natural number, if it is in range. -/
def ofNat? (n : Nat) : Option Magnitude := ofRatio? n 1

/-- The rounded product of two numbers. -/
def mul? (a b : Magnitude) : Option Magnitude := ofRatio? (a.num * b.num) (a.den * b.den)

/-- The rounded quotient of two numbers. -/
def div? (a b : Magnitude) : Option Magnitude := ofRatio? (a.num * b.den) (a.den * b.num)

/-- The largest power of ten by which `scaled?` multiplies or divides at once. -/
def powerLimit : Nat := 308

/-- A number times `10 ^ e`, or divided by `10 ^ (-e)` when `e` is negative. -/
def timesPower? (a : Magnitude) (e : Int) : Option Magnitude := do
  let power ← ofNat? (tenTo e.natAbs)
  if 0 ≤ e then a.mul? power else a.div? power

/-- `significand * 10 ^ e`, with one rounding for the significand, one for the power of ten and
one for their product or quotient.  A power below `10 ^ (-308)` is applied in two divisions, each
rounded, and what is smaller still is zero; none stands for a number out of range. -/
def scaled? (significand : Nat) (e : Int) : Option Magnitude := do
  let a ← ofNat? significand
  if e.natAbs ≤ powerLimit then a.timesPower? e
  else if significand = 0 then some zero
  else if 0 ≤ e then none
  else
    let b ← a.timesPower? (-powerLimit)
    let rest := e + powerLimit
    if rest.natAbs ≤ powerLimit then b.timesPower? rest else some zero

end Magnitude

end JobWorker.Decimal
