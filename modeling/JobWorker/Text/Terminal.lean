/-
Texts for terminals.

Control sequences in a text tell a terminal how to show it.  Where no terminal is, they are left out
together with all control characters but white space.  White space inside a sequence is written all the
same, and what follows it is text again up to the next control character, where the sequence goes on.
-/

namespace JobWorker.Text.Terminal

/-- The character that begins a control sequence. -/
def escape : Char := '\x1b'

/-- A text between the sequences that begin and end a style. -/
def styled (text : String) : String :=
  String.ofList [escape] ++ "[1m" ++ text ++ String.ofList [escape] ++ "[0m"

/-- In what kind of control sequence a character stands. -/
inductive Mode where
  | text
  /-- The character that begins a sequence was the last one. -/
  | begun
  /-- Only the character that ends the sequence is missing, and those that may stand before it. -/
  | short
  /-- There are parameters. -/
  | parameters
  /-- It is a title, which a bell ends. -/
  | title
  /-- It is a text for the terminal itself, which only another sequence ends. -/
  | message
  deriving DecidableEq, Repr

namespace Mode

/-- Whether a character is white space that controls a terminal. -/
def isSpacing (c : Char) : Bool := c = '\t' || c = '\n' || c = '\r' || c = '\x0c'

/-- Whether a character is written outside of control sequences. -/
def isWritten (c : Char) : Bool := (0x20 ≤ c.toNat && c.toNat ≠ 0x7F) || isSpacing c

/-- Whether one of the bytes of a character would be the single byte that ends a message. -/
def hasTerminator (c : Char) : Bool := (String.utf8EncodeChar c).contains 0x9C

/-- What the character behind the beginning of a sequence makes of it. -/
def afterBegin (c : Char) : Mode :=
  if c = '[' then parameters
  else if c = ']' then title
  else if c = 'P' ∨ c = 'X' ∨ c = '^' ∨ c = '_' then message
  else if c.toNat < 0x30 then short
  else text

/-- The mode behind a character that is not written. -/
def next (m : Mode) (c : Char) : Mode :=
  if c = escape then begun
  else if c = '\x18' ∨ c = '\x1a' then text
  else match m with
    | text => text
    | begun => if c.toNat < 0x20 ∨ 0x7F ≤ c.toNat then begun else afterBegin c
    | short => if 0x30 ≤ c.toNat ∧ c.toNat < 0x7F then text else short
    | parameters => if 0x40 ≤ c.toNat ∧ c.toNat < 0x7F then text else parameters
    | title => if c = '\x07' then text else title
    | message => if 0x80 ≤ c.toNat ∧ hasTerminator c then text else message

/-- Whether a character is written in a mode. -/
def writes (m : Mode) (c : Char) : Bool :=
  match m with
  | text => isWritten c
  | begun | short | parameters => isSpacing c
  | title | message => false

/-- What is written of a text; `inText` says that the last character was written. -/
def plain : (inText : Bool) → Mode → List Char → List Char
  | _, _, [] => []
  | true, m, c :: rest =>
    if isWritten c then c :: plain true (if c.toNat < 0x80 then m else text) rest
    else plain false (m.next c) rest
  | false, m, c :: rest =>
    if m.writes c then c :: plain true m rest else plain false (m.next c) rest

end Mode

/-- What is written of a text where no terminal is. -/
def plain (text : List Char) : List Char := Mode.plain false .text text

end JobWorker.Text.Terminal
