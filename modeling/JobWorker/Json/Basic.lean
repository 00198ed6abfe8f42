/-
JSON values.

A number is an integer when it was written as one and fits a signed or unsigned word of 64 bits;
every other number is a floating-point number.  The members of an object read from a text stand
in the order of their names, each name once.
-/
import JobWorker.Decimal.Integer
import JobWorker.Decimal.Layout

namespace JobWorker.Json

/-- A number as it is kept. -/
inductive Number where
  | integer (n : Int)
  | float (x : Decimal.Binary64)
  deriving DecidableEq, Repr, Inhabited

/-- A JSON value. -/
inductive Value where
  | null
  | bool (b : Bool)
  | number (n : Number)
  | string (s : String)
  | array (items : List Value)
  | object (members : List (String × Value))
  deriving Repr, BEq, Inhabited

/-- The members of an object. -/
abbrev Members := List (String × Value)

/-- Numbers with a decimal exponent from -5 to 15 are written positionally. -/
def floatLayout : Decimal.Layout := ⟨-5, 15⟩

/-- The text of a number. -/
def Number.text : Number → List Char
  | .integer n => Decimal.intText n
  | .float x => floatLayout.text x

/-- An integer as a value. -/
def Value.int (n : Int) : Value := .number (.integer n)

/-- Adds a member at the place of its name, or replaces the value that the name had. -/
def Members.insert (name : String) (value : Value) : Members → Members
  | [] => [(name, value)]
  | (other, old) :: rest =>
    if name = other then (name, value) :: rest
    else if name < other then (name, value) :: (other, old) :: rest
    else (other, old) :: Members.insert name value rest

/-- The value that a name has. -/
def Members.get? (members : Members) (name : String) : Option Value :=
  (members.find? fun member => member.1 = name).map Prod.snd

/-- The members that are left when of equal names the last one counts, in the order of the names. -/
def Members.ofList (members : List (String × Value)) : Members :=
  members.foldl (fun kept member => Members.insert member.1 member.2 kept) []

end JobWorker.Json
