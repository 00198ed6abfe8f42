/-
Number literals.

A literal is split into its parts before anything is computed, so that the text of a number and
the number itself can be spoken of apart.  The digits are taken into a word of 64 bits as long as
they fit; what no longer fits counts only as powers of ten.
-/
import JobWorker.Json.Cursor

namespace JobWorker.Json

/-- The power of ten at the end of a literal. -/
structure Power where
  negative : Bool
  digits : List Char
  deriving DecidableEq, Repr

/-- The parts of a number literal. -/
structure Literal where
  negative : Bool
  whole : List Char
  fraction : Option (List Char)
  power : Option Power
  deriving DecidableEq, Repr

/-- The digits at the beginning of a text. -/
def leadingDigits (text : List Char) : List Char := text.takeWhile Char.isDigit

namespace Literal

/-- Reads the digits before the point.  A zero stands alone. -/
def readWhole (ended : Cause) (c : Cursor) : Except Error (List Char × Cursor) :=
  match c.rest with
  | [] => c.fail ended
  | '0' :: rest =>
    if (rest.head?.map Char.isDigit).getD false then c.next.failAt .invalidNumber
    else .ok (['0'], c.next)
  | ch :: rest =>
    if ch.isDigit then
      let digits := leadingDigits (ch :: rest)
      .ok (digits, c.drop digits.length)
    else c.failAt .invalidNumber

/-- Reads the point and the digits after it, if there is a point. -/
def readFraction (ended : Cause) (c : Cursor) : Except Error (Option (List Char) × Cursor) :=
  match c.rest with
  | '.' :: rest =>
    match leadingDigits rest with
    | [] => c.next.failAt (if rest = [] then ended else .invalidNumber)
    | digits => .ok (some digits, c.next.drop digits.length)
  | _ => .ok (none, c)

/-- Reads the sign of a power of ten. -/
def readSign (c : Cursor) : Bool × Cursor :=
  match c.rest with
  | '+' :: _ => (false, c.next)
  | '-' :: _ => (true, c.next)
  | _ => (false, c)

/-- Reads the power of ten, if there is one. -/
def readPower (ended : Cause) (c : Cursor) : Except Error (Option Power × Cursor) :=
  match c.rest with
  | [] => .ok (none, c)
  | ch :: _ =>
    if ch = 'e' || ch = 'E' then
      let (negative, c) := readSign c.next
      match leadingDigits c.rest with
      | [] => c.failAt (if c.rest = [] then ended else .invalidNumber)
      | digits => .ok (some ⟨negative, digits⟩, c.drop digits.length)
    else .ok (none, c)

/-- Reads the parts of a literal.  `ended` says how a text that breaks off is reported. -/
def read (ended : Cause) (c : Cursor) : Except Error (Literal × Cursor) := do
  let negative := c.rest.head? = some '-'
  let (whole, c) ← readWhole ended (if negative then c.next else c)
  let (fraction, c) ← readFraction ended c
  let (power, c) ← readPower ended c
  return (⟨negative, whole, fraction, power⟩, c)

end Literal

/-- The first number that no longer fits an unsigned word of 64 bits. -/
def wordLimit : Nat := Decimal.twoTo 64

/-- The first number that no longer fits the exponent of a literal. -/
def powerLimit : Nat := Decimal.twoTo 31

/-- Appends digits to a number as long as it stays below a limit.  The answer is the number and
how many digits were left out. -/
def absorb (limit value : Nat) : List Char → Nat × Nat
  | [] => (value, 0)
  | d :: ds =>
    let longer := value * 10 + Decimal.ofDigits [d]
    if longer < limit then absorb limit longer ds else (value, ds.length + 1)

/-- What the parts of a literal amount to. -/
inductive Evaluation where
  /-- The number. -/
  | number (n : Number)
  /-- The number is too large, as is known when `unread` of the literal's last digits are left. -/
  | tooLarge (unread : Nat)
  deriving DecidableEq, Repr

/-- The floating-point number `significand * 10 ^ e`. -/
def evaluateFloat (negative : Bool) (significand : Nat) (e : Int) : Evaluation :=
  match Decimal.Magnitude.scaled? significand e with
  | some magnitude => .number (.float ⟨negative, magnitude⟩)
  | none => .tooLarge 0

/-- The floating-point number of a significand, the powers of ten that were left out of it, and the
power of ten that the literal ends in. -/
def evaluatePower (negative : Bool) (significand : Nat) (e : Int) : Option Power → Evaluation
  | none => evaluateFloat negative significand e
  | some power =>
    match absorb powerLimit 0 power.digits with
    | (value, 0) => evaluateFloat negative significand (if power.negative then e - value else e + value)
    | (_, left + 1) =>
      if significand ≠ 0 ∧ !power.negative then .tooLarge left
      else .number (.float ⟨negative, .zero⟩)

/-- The number that a literal denotes: an integer if it has neither fraction nor power of ten and
fits a signed or unsigned word of 64 bits, and a floating-point number otherwise.  Minus zero is a
floating-point number. -/
def Literal.evaluate (l : Literal) : Evaluation :=
  let (significand, left) := absorb wordLimit 0 l.whole
  match l.fraction, l.power with
  | none, none =>
    if left = 0 ∧ !l.negative then .number (.integer significand)
    else if left = 0 ∧ 0 < significand ∧ significand ≤ Decimal.twoTo 63 then .number (.integer (-significand))
    else evaluateFloat l.negative significand left
  | none, power => evaluatePower l.negative significand left power
  | some digits, power =>
    let (significand, unread) := absorb wordLimit significand digits
    evaluatePower l.negative significand ((left : Int) - (digits.length - unread : Nat)) power

/-- Reads a number; the cursor looks at its sign or first digit. -/
def readNumber (c : Cursor) : Except Error (Number × Cursor) := do
  let (literal, c) ← Literal.read .endInValue c
  match literal.evaluate with
  | .number n => return (n, c)
  | .tooLarge unread =>
    Except.error ⟨.numberOutOfRange, some ⟨c.place.line, c.place.column - unread⟩⟩

end JobWorker.Json
