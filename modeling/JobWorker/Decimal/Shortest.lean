/-
The fewest decimal digits that read back as a floating-point number.

The reals that round to a number form an interval around it, which contains its ends exactly when
the mantissa is even.  For one digit, two digits and so on, the two decimals on either side of the
number are tried; the first count of digits with a decimal inside the interval wins.  If both are
inside, the nearer is taken, and of two equally near ones the even one.
-/
import JobWorker.Decimal.Binary64

namespace JobWorker.Decimal

/-- A decimal in scientific form: its digits with the point after the first, times `10 ^ exponent`. -/
structure Scientific where
  digits : List Char
  exponent : Int
  deriving DecidableEq, Repr, Inhabited

/-- The digits of zero. -/
def Scientific.zero : Scientific := ⟨['0'], 0⟩

/-- An interval of the reals that round to one number: the number, its lower and its upper end,
all over one denominator. -/
structure Interval where
  lower : Nat
  value : Nat
  upper : Nat
  denominator : Nat
  closed : Bool
  deriving DecidableEq, Repr

/-- The reals that round to a number.  Below a power of two the neighbour is only half as far. -/
def Magnitude.interval (m : Magnitude) : Interval :=
  let unit := twoTo m.exponent.toNat
  let narrow := m.mantissa = Magnitude.leastNormal ∧ Magnitude.leastExponent < m.exponent
  { lower := 4 * m.num - (if narrow then unit else 2 * unit)
    value := 4 * m.num
    upper := 4 * m.num + 2 * unit
    denominator := 4 * m.den
    closed := m.mantissa % 2 = 0 }

namespace Interval

/-- Multiplies every number of the interval by `10 ^ (-k)`. -/
def shift (i : Interval) (k : Int) : Interval :=
  let up := tenTo (-k).toNat
  { i with
    lower := i.lower * up
    value := i.value * up
    upper := i.upper * up
    denominator := i.denominator * tenTo k.toNat }

/-- Whether a whole number lies in the interval. -/
def has (i : Interval) (n : Nat) : Bool :=
  let scaled := n * i.denominator
  if i.closed then i.lower ≤ scaled && scaled ≤ i.upper
  else i.lower < scaled && scaled < i.upper

/-- The whole number in the interval that is nearest to its value, among the two next to it. -/
def nearest? (i : Interval) : Option Nat :=
  let below := i.value / i.denominator
  let distance := i.value - below * i.denominator
  let other := (below + 1) * i.denominator - i.value
  match i.has below, i.has (below + 1) with
  | true, true =>
    if distance < other ∨ (distance = other ∧ below % 2 = 0) then some below else some (below + 1)
  | true, false => some below
  | false, true => some (below + 1)
  | false, false => none

end Interval

/-- The least number of steps by which `n` has to be multiplied by ten to reach `d`. -/
def stepsTo (d : Nat) : Nat → Nat → Nat
  | 0, _ => 0
  | fuel + 1, n => if d ≤ n then 0 else stepsTo d fuel (n * 10) + 1

/-- The decimal exponent of `n / d`: the power of ten of its first digit. -/
def decimalExponent (n d : Nat) : Int :=
  if d ≤ n then ((Nat.toDigits 10 (n / d)).length : Int) - 1
  else -(stepsTo d 400 n : Int)

/-- The digits without the zeros at their end; one digit always stays. -/
def dropEndZeros (digits : List Char) : List Char :=
  match (digits.reverse.dropWhile (· = '0')).reverse with
  | [] => ['0']
  | kept => kept

/-- A whole number times `10 ^ k` in scientific form. -/
def Scientific.ofNat (n : Nat) (k : Int) : Scientific :=
  let digits := Nat.toDigits 10 n
  ⟨dropEndZeros digits, k + digits.length - 1⟩

/-- The most digits that a floating-point number needs. -/
def mostDigits : Nat := 17

/-- The fewest digits that read back as the number, nearest to it among those. -/
def shortest (m : Magnitude) : Scientific :=
  if m.mantissa = 0 then Scientific.zero
  else
    let interval := m.interval
    let first := decimalExponent m.num m.den
    let candidate (count : Nat) : Option Scientific :=
      let k := first - count
      (interval.shift k).nearest?.map fun n => Scientific.ofNat n k
    ((List.range mostDigits).findSome? candidate).getD Scientific.zero

end JobWorker.Decimal
