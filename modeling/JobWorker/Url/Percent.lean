/-
Percent escapes.

A character that may not stand for itself is written as its bytes in UTF-8, each as a percent sign and
two hexadecimal digits.  Percent signs that are there already are left alone.
-/
import JobWorker.Json.StringLiteral

namespace JobWorker.Url.Percent

/-- An upper-case hexadecimal digit. -/
def hexDigit (n : Nat) : Char := (Nat.digitChar n).toUpper

/-- A byte as an escape. -/
def escape (b : UInt8) : List Char := ['%', hexDigit (b.toNat / 16), hexDigit (b.toNat % 16)]

/-- Whether a character is never written as it is. -/
def isControl (c : Char) : Bool := c.toNat < 0x20 || 0x7F ≤ c.toNat

/-- A text in which control characters, characters beyond ASCII and the `reserved` ones are escaped. -/
def encode (reserved : List Char) (text : List Char) : List Char :=
  text.flatMap fun c =>
    if isControl c || reserved.contains c then (String.utf8EncodeChar c).flatMap escape else [c]

/-- The bytes that a text with escapes stands for. -/
def decode : List Char → List UInt8
  | '%' :: a :: b :: rest =>
    match Json.StringLiteral.hexDigit? a, Json.StringLiteral.hexDigit? b with
    | some high, some low => UInt8.ofNat (high * 16 + low) :: decode rest
    | _, _ => '%'.toUInt8 :: decode (a :: b :: rest)
  | c :: rest => String.utf8EncodeChar c ++ decode rest
  | [] => []

end JobWorker.Url.Percent
