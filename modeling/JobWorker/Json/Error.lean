/-
Why a text is not the JSON document that was asked for, and where.

A cause names what is wrong; the wording is one function of the cause.  A place counts lines from
one and, within the line, the bytes read so far.
-/
import JobWorker.Json.Basic
import JobWorker.Text.Quoted

namespace JobWorker.Json

/-- A place in a text. -/
structure Place where
  line : Nat
  column : Nat
  deriving DecidableEq, Repr, Inhabited

/-- The place before the first character. -/
def Place.start : Place := ⟨1, 0⟩

/-- The place after one more character. -/
def Place.after (place : Place) (c : Char) : Place :=
  if c = '\n' then ⟨place.line + 1, 0⟩ else ⟨place.line, place.column + c.utf8Size⟩

/-- What stood where something else was expected. -/
inductive Found where
  | null
  | bool (b : Bool)
  | number (n : Number)
  | string (s : String)
  | array
  | object
  deriving DecidableEq, Repr

/-- What is wrong with a text. -/
inductive Cause where
  | endInArray
  | endInObject
  | endInString
  | endInValue
  | expectedColon
  | expectedItemOrEnd
  | expectedMemberOrEnd
  | expectedWord
  | expectedValue
  | invalidEscape
  | invalidNumber
  | numberOutOfRange
  | invalidCharacter
  | controlCharacter
  | nameNotString
  | loneSurrogate
  | surrogateUnpaired
  | trailingComma
  | trailingCharacters
  | nestedTooDeep
  | wrongType (found : Found) (expected : String)
  | outOfRange (n : Int) (expected : String)
  | missingField (name : String)
  | duplicateField (name : String)
  | wrongLength (length : Nat) (expected : String) (fields : Nat)
  | keyOutOfRange (n : Int)
  | invalidKey (text : String)
  deriving DecidableEq, Repr

/-- A cause and, for a fault in a text, its place. -/
structure Error where
  cause : Cause
  place : Option Place
  deriving DecidableEq, Repr

/-- What was found, in words. -/
def Found.text : Found → String
  | .null => "null"
  | .bool b => s!"boolean `{b}`"
  | .number (.integer n) => s!"integer `{n}`"
  | .number (.float x) => "floating point `" ++ String.ofList (floatLayout.text x) ++ "`"
  | .string s => "string " ++ Text.quoted s
  | .array => "sequence"
  | .object => "map"

/-- The wording of a cause. -/
def Cause.message : Cause → String
  | .endInArray => "EOF while parsing a list"
  | .endInObject => "EOF while parsing an object"
  | .endInString => "EOF while parsing a string"
  | .endInValue => "EOF while parsing a value"
  | .expectedColon => "expected `:`"
  | .expectedItemOrEnd => "expected `,` or `]`"
  | .expectedMemberOrEnd => "expected `,` or `\x7d`"
  | .expectedWord => "expected ident"
  | .expectedValue => "expected value"
  | .invalidEscape => "invalid escape"
  | .invalidNumber => "invalid number"
  | .numberOutOfRange => "number out of range"
  | .invalidCharacter => "invalid unicode code point"
  | .controlCharacter =>
    "control character (\\u0000-\\u001F) found while parsing a string"
  | .nameNotString => "key must be a string"
  | .loneSurrogate => "lone leading surrogate in hex escape"
  | .surrogateUnpaired => "unexpected end of hex escape"
  | .trailingComma => "trailing comma"
  | .trailingCharacters => "trailing characters"
  | .nestedTooDeep => "recursion limit exceeded"
  | .wrongType found expected => "invalid type: " ++ found.text ++ ", expected " ++ expected
  | .outOfRange n expected => s!"invalid value: integer `{n}`, expected " ++ expected
  | .missingField name => "missing field `" ++ name ++ "`"
  | .duplicateField name => "duplicate field `" ++ name ++ "`"
  | .wrongLength length expected fields =>
    s!"invalid length {length}, expected " ++ expected ++ s!" with {fields} " ++
      (if fields = 1 then "element" else "elements")
  | .keyOutOfRange n => s!"job key out of range: {n}"
  | .invalidKey text => "invalid job key: '" ++ text ++ "'"

/-- The wording of an error: the cause and, if it has one, the place. -/
def Error.message (e : Error) : String :=
  match e.place with
  | none => e.cause.message
  | some place => e.cause.message ++ s!" at line {place.line} column {place.column}"

end JobWorker.Json
