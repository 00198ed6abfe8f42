/-
Setting the digits of a number on the page.

A layout says which numbers are written positionally, always with a fraction, and which in
scientific form with a signed exponent.
-/
import JobWorker.Decimal.Shortest

namespace JobWorker.Decimal

/-- The decimal exponents for which a number is written positionally. -/
structure Layout where
  least : Int
  most : Int
  deriving DecidableEq, Repr

namespace Layout

/-- A decimal written with its point in place, and with at least one digit after it. -/
def positional (s : Scientific) : List Char :=
  if s.exponent < 0 then
    '0' :: '.' :: List.replicate ((-s.exponent).toNat - 1) '0' ++ s.digits
  else
    let places := s.exponent.toNat + 1
    let whole := s.digits.take places ++ List.replicate (places - s.digits.length) '0'
    let fraction := s.digits.drop places
    whole ++ '.' :: (if fraction = [] then ['0'] else fraction)

/-- A decimal written with one digit before the point and a signed power of ten after it. -/
def scientific (s : Scientific) : List Char :=
  let fraction := s.digits.drop 1
  s.digits.take 1 ++ (if fraction = [] then [] else '.' :: fraction) ++
    'e' :: (if s.exponent < 0 then '-' else '+') :: Nat.toDigits 10 s.exponent.natAbs

/-- A floating-point number in the fewest digits that read back as it. -/
def text (layout : Layout) (x : Binary64) : List Char :=
  let s := shortest x.magnitude
  let body := if layout.least ≤ s.exponent ∧ s.exponent ≤ layout.most then positional s else scientific s
  if x.negative then '-' :: body else body

end Layout

end JobWorker.Decimal
