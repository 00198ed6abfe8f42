/-
Skipping a value that nothing is made of.

A skipped value has to be well formed, but its numbers may be out of range, its surrogates need no
partners, and it may be nested as deep as the text is long.
-/
import JobWorker.Json.Number
import JobWorker.Json.Sequence

namespace JobWorker.Json

namespace Cursor

/-- Moves behind the name and the colon of a member that is skipped. -/
def skipName (c : Cursor) : Except Error Cursor :=
  let c := c.skipSpace
  match c.rest with
  | [] => c.fail .endInObject
  | ch :: _ =>
    if ch = '"' then do (← StringLiteral.skip c.next).colon else c.failAt .nameNotString

/-- Skips the rest of an array behind an item. -/
def skipItems (item : Cursor → Except Error Cursor) : Nat → Cursor → Except Error Cursor
  | 0, c => c.fail .endInArray
  | fuel + 1, c =>
    let c := c.skipSpace
    match c.rest with
    | [] => c.fail .endInArray
    | ch :: _ =>
      if ch = ',' then do skipItems item fuel (← item c.next)
      else if ch = ']' then .ok c.next
      else c.failAt .expectedItemOrEnd

/-- Skips the rest of an object behind a member. -/
def skipMembers (item : Cursor → Except Error Cursor) : Nat → Cursor → Except Error Cursor
  | 0, c => c.fail .endInObject
  | fuel + 1, c =>
    let c := c.skipSpace
    match c.rest with
    | [] => c.fail .endInObject
    | ch :: _ =>
      if ch = ',' then do
        let c ← skipName c.next
        skipMembers item fuel (← item c)
      else if ch = '\x7d' then .ok c.next
      else c.failAt .expectedMemberOrEnd

/-- Skips an array; the cursor stands behind the opening bracket. -/
def skipArray (item : Cursor → Except Error Cursor) (c : Cursor) : Except Error Cursor :=
  let c := c.skipSpace
  match c.rest with
  | [] => c.fail .endInArray
  | ch :: _ =>
    if ch = ']' then .ok c.next
    else do
      let c ← item c
      skipItems item (c.rest.length + 1) c

/-- Skips an object; the cursor stands behind the opening bracket. -/
def skipObject (item : Cursor → Except Error Cursor) (c : Cursor) : Except Error Cursor :=
  let c := c.skipSpace
  match c.rest with
  | [] => c.fail .endInObject
  | ch :: _ =>
    if ch = '\x7d' then .ok c.next
    else do
      let c ← item (← c.skipName)
      skipMembers item (c.rest.length + 1) c

/-- Skips a value that is nested at most `fuel` levels deep. -/
def skipNested : Nat → Cursor → Except Error Cursor
  | 0, c => c.fail .endInValue
  | fuel + 1, c =>
    let c := c.skipSpace
    match c.rest with
    | [] => c.fail .endInValue
    | 'n' :: _ => c.next.word ['u', 'l', 'l']
    | 't' :: _ => c.next.word ['r', 'u', 'e']
    | 'f' :: _ => c.next.word ['a', 'l', 's', 'e']
    | '"' :: _ => StringLiteral.skip c.next
    | '[' :: _ => skipArray (skipNested fuel) c.next
    | '\x7b' :: _ => skipObject (skipNested fuel) c.next
    | ch :: _ =>
      if ch = '-' || ch.isDigit then (Literal.read .invalidNumber c).map Prod.snd
      else c.failAt .expectedValue

/-- Skips a value.  No value is nested deeper than its text is long. -/
def skipValue (c : Cursor) : Except Error Cursor := skipNested (c.rest.length + 1) c

end Cursor

end JobWorker.Json
