/-
A place in a text, together with the text that is still to be read.

Errors are placed either where the cursor stands or just past the character that it looks at.  A
place counts bytes, so the second kind moves by one byte even where the character is longer.
-/
import JobWorker.Json.Error

namespace JobWorker.Json

/-- The control character that stands for bytes that belong to no character. -/
def strayMark : Char := '\x01'

/-- What is left of a text, and where it begins. -/
structure Cursor where
  rest : List Char
  place : Place
  /-- Whether stray marks may stand in the text.  They may be skipped inside a string, which other
  control characters may not, but never kept. -/
  strays : Bool
  deriving Repr

/-- How a value is read: with the number of levels that values may still be nested, from the
cursor on; the answer comes with the cursor behind what was read. -/
abbrev Reader (α : Type) := Nat → Cursor → Except Error (α × Cursor)

/-- The characters that may stand between the tokens of a text. -/
def isSpace (c : Char) : Bool := c = ' ' || c = '\t' || c = '\n' || c = '\r'

namespace Cursor

/-- The cursor at the beginning of a text. -/
def ofChars (text : List Char) : Cursor := ⟨text, Place.start, false⟩

/-- A character as it stands in a text with stray marks.  The mark itself makes way for another
control character, since a document has room for neither. -/
def marked : Option Char → Char
  | none => strayMark
  | some ch => if ch = strayMark then '\x02' else ch

/-- The cursor at the beginning of a text with stray bytes in it. -/
def ofPieces (pieces : List (Option Char)) : Cursor := ⟨pieces.map marked, Place.start, true⟩

/-- The cursor behind the next character. -/
def next (c : Cursor) : Cursor :=
  match c.rest with
  | [] => c
  | ch :: rest => { c with rest, place := c.place.after ch }

/-- The cursor behind the next `n` characters. -/
def drop : Nat → Cursor → Cursor
  | 0, c => c
  | n + 1, c => drop n c.next

/-- The place that lies some bytes further on, or the end of the text. -/
def placeAfter (place : Place) : Nat → List Char → Place
  | 0, _ => place
  | _, [] => place
  | bytes + 1, ch :: rest =>
    if ch = '\n' then placeAfter (place.after ch) bytes rest
    else if ch.utf8Size ≤ bytes + 1 then placeAfter (place.after ch) (bytes + 1 - ch.utf8Size) rest
    else ⟨place.line, place.column + (bytes + 1)⟩
termination_by structural _ text => text

/-- The cursor behind the white space that it stands before. -/
def skipSpace (c : Cursor) : Cursor := c.drop (c.rest.takeWhile isSpace).length

/-- The number of bytes that are left. -/
def bytesLeft (c : Cursor) : Nat := c.rest.foldr (fun ch bytes => ch.utf8Size + bytes) 0

/-- The error that is placed where the cursor stands. -/
def fail {α : Type} (c : Cursor) (cause : Cause) : Except Error α :=
  .error ⟨cause, some c.place⟩

/-- The error that is placed `bytes` bytes past the cursor. -/
def failPast {α : Type} (c : Cursor) (bytes : Nat) (cause : Cause) : Except Error α :=
  .error ⟨cause, some (placeAfter c.place bytes c.rest)⟩

/-- The error about the character that the cursor looks at. -/
def failAt {α : Type} (c : Cursor) (cause : Cause) : Except Error α := c.failPast 1 cause

/-- Reads the rest of a word whose first character told which word it is. -/
def word : List Char → Cursor → Except Error Cursor
  | [], c => .ok c
  | w :: ws, c =>
    match c.rest with
    | [] => c.fail .endInValue
    | ch :: _ => if ch = w then word ws c.next else c.failAt .expectedWord

@[simp] theorem rest_next (c : Cursor) : c.next.rest = c.rest.tail := by
  unfold next
  split <;> simp_all

@[simp] theorem rest_drop (n : Nat) (c : Cursor) : (c.drop n).rest = c.rest.drop n := by
  induction n generalizing c with
  | zero => rfl
  | succ n ih => simp [drop, ih]

@[simp] theorem strays_next (c : Cursor) : c.next.strays = c.strays := by
  unfold next
  split <;> rfl

@[simp] theorem strays_drop (n : Nat) (c : Cursor) : (c.drop n).strays = c.strays := by
  induction n generalizing c with
  | zero => rfl
  | succ n ih => simp [drop, ih]

theorem drop_length_takeWhile {α : Type} (p : α → Bool) (l : List α) :
    l.drop (l.takeWhile p).length = l.dropWhile p := by
  induction l with
  | nil => rfl
  | cons a l ih => by_cases h : p a = true <;> simp [h, ih]

@[simp] theorem rest_skipSpace (c : Cursor) : c.skipSpace.rest = c.rest.dropWhile isSpace := by
  simp [skipSpace, drop_length_takeWhile]

@[simp] theorem strays_skipSpace (c : Cursor) : c.skipSpace.strays = c.strays := by
  simp [skipSpace]

end Cursor

end JobWorker.Json
