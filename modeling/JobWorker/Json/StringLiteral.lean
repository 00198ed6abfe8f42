/-
String literals.

Writing escapes only what it has to: the quote, the backslash and the control characters.  Reading
accepts every escape; characters outside the basic plane are escaped as a pair of surrogates, and a
surrogate without its partner is refused.  A string that is only skipped is checked less closely.
-/
import JobWorker.Json.Cursor

namespace JobWorker.Json.StringLiteral

/-! ### Reading -/

/-- The number that a hexadecimal digit denotes. -/
def hexDigit? (c : Char) : Option Nat :=
  if '0' ≤ c ∧ c ≤ '9' then some (c.toNat - '0'.toNat)
  else if 'a' ≤ c ∧ c ≤ 'f' then some (c.toNat - 'a'.toNat + 10)
  else if 'A' ≤ c ∧ c ≤ 'F' then some (c.toNat - 'A'.toNat + 10)
  else none

/-- The number that four hexadecimal digits denote. -/
def hexDigits? (a b c d : Char) : Option Nat := do
  return ((← hexDigit? a) * 16 + (← hexDigit? b)) * 256 + ((← hexDigit? c) * 16 + (← hexDigit? d))

/-- Reads four hexadecimal digits. -/
def readHex (c : Cursor) : Except Error (Nat × Cursor) :=
  match c.rest with
  | a :: b :: x :: y :: _ =>
    match hexDigits? a b x y with
    | some n => .ok (n, c.drop 4)
    | none => c.failPast 4 .invalidEscape
  | _ => c.failPast 4 (if c.bytesLeft < 4 then .endInString else .invalidEscape)

/-- Whether a number is a surrogate that begins a pair. -/
def isLeading (n : Nat) : Bool := 0xD800 ≤ n && n ≤ 0xDBFF

/-- Whether a number is a surrogate that ends a pair. -/
def isTrailing (n : Nat) : Bool := 0xDC00 ≤ n && n ≤ 0xDFFF

/-- The character that a pair of surrogates stands for. -/
def paired (leading trailing : Nat) : Char :=
  Char.ofNat ((leading - 0xD800) * 0x400 + (trailing - 0xDC00) + 0x10000)

/-- Reads one character of the escape that the rest of a pair begins with. -/
def expectEscape (expected : Char) (c : Cursor) : Except Error Cursor :=
  match c.rest with
  | [] => c.fail .endInString
  | ch :: _ => if ch = expected then .ok c.next else c.failAt .surrogateUnpaired

/-- Reads the digits of an escape by code point, and those of its partner for a surrogate. -/
def readCodePoint (c : Cursor) : Except Error (Char × Cursor) := do
  let (n, c) ← readHex c
  if isTrailing n then c.fail .loneSurrogate
  else if isLeading n then
    let c ← expectEscape '\\' c
    let c ← expectEscape 'u' c
    let (partner, c) ← readHex c
    if isTrailing partner then return (paired n partner, c) else c.fail .loneSurrogate
  else return (Char.ofNat n, c)

/-- The character that a one-letter escape stands for. -/
def shortEscape? : Char → Option Char
  | '"' => some '"'
  | '\\' => some '\\'
  | '/' => some '/'
  | 'b' => some '\x08'
  | 'f' => some '\x0c'
  | 'n' => some '\n'
  | 'r' => some '\r'
  | 't' => some '\t'
  | _ => none

/-- Reads an escape; the cursor stands behind the backslash. -/
def readEscape (c : Cursor) : Except Error (Char × Cursor) :=
  match c.rest with
  | [] => c.fail .endInString
  | ch :: _ =>
    if ch = 'u' then readCodePoint c.next
    else match shortEscape? ch with
      | some meant => .ok (meant, c.next)
      | none => c.failAt .invalidEscape

/-- Reads the characters of a string up to and including the closing quote. -/
def readChars : Nat → Cursor → Except Error (List Char × Cursor)
  | 0, c => c.fail .endInString
  | fuel + 1, c =>
    match c.rest with
    | [] => c.fail .endInString
    | ch :: _ =>
      if ch = '"' then .ok ([], c.next)
      else if ch = '\\' then do
        let (meant, c) ← readEscape c.next
        let (more, c) ← readChars fuel c
        return (meant :: more, c)
      else if c.strays && ch = strayMark then c.fail .invalidCharacter
      else if ch.toNat < 0x20 then c.next.fail .controlCharacter
      else do
        let (more, c) ← readChars fuel c.next
        return (ch :: more, c)

/-- Reads a string; the cursor stands behind the opening quote.  No string is longer than the text. -/
def read (c : Cursor) : Except Error (String × Cursor) := do
  let (chars, c) ← readChars (c.rest.length + 1) c
  return (String.ofList chars, c)

/-! ### Skipping -/

/-- Skips an escape; surrogates need no partner. -/
def skipEscape (c : Cursor) : Except Error Cursor :=
  match c.rest with
  | [] => c.fail .endInString
  | ch :: _ =>
    if ch = 'u' then (readHex c.next).map Prod.snd
    else if (shortEscape? ch).isSome then .ok c.next
    else c.failAt .invalidEscape

/-- Skips the characters of a string up to and including the closing quote. -/
def skipChars : Nat → Cursor → Except Error Cursor
  | 0, c => c.fail .endInString
  | fuel + 1, c =>
    match c.rest with
    | [] => c.fail .endInString
    | ch :: _ =>
      if ch = '"' then .ok c.next
      else if ch = '\\' then do skipChars fuel (← skipEscape c.next)
      else if c.strays && ch = strayMark then skipChars fuel c.next
      else if ch.toNat < 0x20 then c.fail .controlCharacter
      else skipChars fuel c.next

/-- Skips a string; the cursor stands behind the opening quote. -/
def skip (c : Cursor) : Except Error Cursor := skipChars (c.rest.length + 1) c

/-! ### Writing -/

/-- The lower-case hexadecimal digits of a number below 256. -/
def hexPair (n : Nat) : List Char := [Nat.digitChar (n / 16), Nat.digitChar (n % 16)]

/-- A character as it is written inside a string. -/
def writeChar (c : Char) : List Char :=
  match c with
  | '"' => ['\\', '"']
  | '\\' => ['\\', '\\']
  | '\x08' => ['\\', 'b']
  | '\x0c' => ['\\', 'f']
  | '\n' => ['\\', 'n']
  | '\r' => ['\\', 'r']
  | '\t' => ['\\', 't']
  | c => if c.toNat < 0x20 then ['\\', 'u', '0', '0'] ++ hexPair c.toNat else [c]

/-- A string in quotes. -/
def write (s : String) : List Char := '"' :: s.toList.flatMap writeChar ++ ['"']

end JobWorker.Json.StringLiteral
