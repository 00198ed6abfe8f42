/-
Reading bytes as UTF-8 when they need not be UTF-8.

An ill-formed stretch is as long as the bytes that could still have begun a character, and it is
replaced as a whole by one mark.  The byte after the lead byte has a narrower range for some
leads, which is what keeps out overlong forms, surrogates and code points above U+10FFFF.
-/

namespace JobWorker.Text.Utf8

/-- What a lead byte announces: the range of the second byte and how many bytes follow. -/
structure Lead where
  least : UInt8
  greatest : UInt8
  following : Nat
  deriving DecidableEq, Repr

/-- The announcement of a lead byte, if the byte can begin a character of several bytes. -/
def lead? (b : UInt8) : Option Lead :=
  if 0xC2 ≤ b && b ≤ 0xDF then some ⟨0x80, 0xBF, 1⟩
  else if b = 0xE0 then some ⟨0xA0, 0xBF, 2⟩
  else if b = 0xED then some ⟨0x80, 0x9F, 2⟩
  else if 0xE1 ≤ b && b ≤ 0xEF then some ⟨0x80, 0xBF, 2⟩
  else if b = 0xF0 then some ⟨0x90, 0xBF, 3⟩
  else if b = 0xF4 then some ⟨0x80, 0x8F, 3⟩
  else if 0xF1 ≤ b && b ≤ 0xF3 then some ⟨0x80, 0xBF, 3⟩
  else none

/-- Whether a byte can stand anywhere after the second byte of a character. -/
def isTail (b : UInt8) : Bool := 0x80 ≤ b && b ≤ 0xBF

/-- The six bits that a byte after the lead byte carries. -/
def payload (b : UInt8) : Nat := b.toNat % 0x40

/-- The characters of a byte string, with nothing for each ill-formed stretch. -/
def pieces : List UInt8 → List (Option Char)
  | [] => []
  | a :: r =>
    if a < 0x80 then some (Char.ofNat a.toNat) :: pieces r
    else match lead? a with
      | none => none :: pieces r
      | some lead => match r with
        | [] => [none]
        | b :: r₂ =>
          if !(lead.least ≤ b && b ≤ lead.greatest) then none :: pieces (b :: r₂)
          else if lead.following = 1 then
            some (Char.ofNat (a.toNat % 0x20 * 0x40 + payload b)) :: pieces r₂
          else match r₂ with
            | [] => [none]
            | c :: r₃ =>
              if !isTail c then none :: pieces (c :: r₃)
              else if lead.following = 2 then
                some (Char.ofNat ((a.toNat % 0x10 * 0x40 + payload b) * 0x40 + payload c)) ::
                  pieces r₃
              else match r₃ with
                | [] => [none]
                | d :: r₄ =>
                  if !isTail d then none :: pieces (d :: r₄)
                  else
                    some (Char.ofNat
                      (((a.toNat % 0x08 * 0x40 + payload b) * 0x40 + payload c) * 0x40 + payload d)) ::
                        pieces r₄

/-- The characters of a byte string, with `mark` for each ill-formed stretch. -/
def decode (mark : Char) (bytes : List UInt8) : List Char := (pieces bytes).map (·.getD mark)

/-- The text that a byte string encodes, if it is well formed. -/
def text? (bytes : List UInt8) : Option String := ((pieces bytes).mapM id).map String.ofList

/-- The characters of a byte string, with U+FFFD for each ill-formed stretch. -/
def lossy (bytes : List UInt8) : String := String.ofList (decode '\ufffd' bytes)

end JobWorker.Text.Utf8
