/-
Writing JSON documents.

The compact form has no white space.  The indented form puts every item and member on a line of
its own, two blanks deeper than its bracket, and leaves empty brackets closed.
-/
import JobWorker.Json.StringLiteral

namespace JobWorker.Json

mutual

/-- The compact text of a value. -/
def Value.chars : Value → List Char
  | .null => ['n', 'u', 'l', 'l']
  | .bool true => ['t', 'r', 'u', 'e']
  | .bool false => ['f', 'a', 'l', 's', 'e']
  | .number n => n.text
  | .string s => StringLiteral.write s
  | .array [] => ['[', ']']
  | .array (item :: items) => '[' :: item.chars ++ tailChars items
  | .object [] => ['\x7b', '\x7d']
  | .object ((name, value) :: members) =>
    '\x7b' :: StringLiteral.write name ++ ':' :: value.chars ++ memberChars members
termination_by structural v => v

/-- The text of the items behind the first and of the closing bracket. -/
def tailChars : List Value → List Char
  | [] => [']']
  | item :: items => ',' :: item.chars ++ tailChars items
termination_by structural items => items

/-- The text of the members behind the first and of the closing bracket. -/
def memberChars : List (String × Value) → List Char
  | [] => ['\x7d']
  | (name, value) :: members =>
    ',' :: StringLiteral.write name ++ ':' :: value.chars ++ memberChars members
termination_by structural members => members

end

/-- The compact text of a value. -/
def Value.text (v : Value) : String := String.ofList v.chars

/-- A new line and the blanks at its beginning. -/
def newLine (depth : Nat) : List Char := '\n' :: List.replicate (2 * depth) ' '

mutual

/-- The indented text of a value inside `depth` brackets. -/
def Value.indented (depth : Nat) : Value → List Char
  | .null => ['n', 'u', 'l', 'l']
  | .bool true => ['t', 'r', 'u', 'e']
  | .bool false => ['f', 'a', 'l', 's', 'e']
  | .number n => n.text
  | .string s => StringLiteral.write s
  | .array [] => ['[', ']']
  | .array (item :: items) =>
    '[' :: newLine (depth + 1) ++ item.indented (depth + 1) ++ tailIndented depth items
  | .object [] => ['\x7b', '\x7d']
  | .object ((name, value) :: members) =>
    '\x7b' :: newLine (depth + 1) ++ StringLiteral.write name ++ ':' :: ' ' ::
      value.indented (depth + 1) ++ memberIndented depth members
termination_by structural v => v

/-- The lines of the items behind the first and of the closing bracket. -/
def tailIndented (depth : Nat) : List Value → List Char
  | [] => newLine depth ++ [']']
  | item :: items =>
    ',' :: newLine (depth + 1) ++ item.indented (depth + 1) ++ tailIndented depth items
termination_by structural items => items

/-- The lines of the members behind the first and of the closing bracket. -/
def memberIndented (depth : Nat) : List (String × Value) → List Char
  | [] => newLine depth ++ ['\x7d']
  | (name, value) :: members =>
    ',' :: newLine (depth + 1) ++ StringLiteral.write name ++ ':' :: ' ' ::
      value.indented (depth + 1) ++ memberIndented depth members
termination_by structural members => members

end

/-- The indented text of a value. -/
def Value.pretty (v : Value) : String := String.ofList (v.indented 0)

end JobWorker.Json
