/-
The brackets, commas and colons around values.

The items of an array and the members of an object are reached one at a time, so that the same
steps serve values that are kept, values that have a fixed shape, and values that are skipped.
Where reading stops inside a bracket, the bracket is still closed as far as it can be: an error
that has no place of its own is placed behind it.
-/
import JobWorker.Json.StringLiteral

namespace JobWorker.Json

namespace Cursor

/-- Moves to the next item of an array; false at the closing bracket, which is left in place. -/
def nextItem (first : Bool) (c : Cursor) : Except Error (Bool × Cursor) :=
  let c := c.skipSpace
  match c.rest with
  | [] => c.fail .endInArray
  | ch :: _ =>
    if ch = ']' then .ok (false, c)
    else if first then .ok (true, c)
    else if ch = ',' then
      let c := c.next.skipSpace
      match c.rest with
      | [] => c.fail .endInValue
      | ch :: _ => if ch = ']' then c.failAt .trailingComma else .ok (true, c)
    else c.failAt .expectedItemOrEnd

/-- Reads the name of a member; the cursor looks at where its quote should be. -/
def memberName (c : Cursor) : Except Error (Option String × Cursor) :=
  match c.rest with
  | '"' :: _ => do
    let (name, c) ← StringLiteral.read c.next
    return (some name, c)
  | _ => c.failAt .nameNotString

/-- Moves past the name of the next member of an object; none at the closing bracket, which is left
in place. -/
def nextMember (first : Bool) (c : Cursor) : Except Error (Option String × Cursor) :=
  let c := c.skipSpace
  match c.rest with
  | [] => c.fail .endInObject
  | ch :: _ =>
    if ch = '\x7d' then .ok (none, c)
    else if first then c.memberName
    else if ch = ',' then
      let c := c.next.skipSpace
      match c.rest with
      | [] => c.fail .endInValue
      | ch :: _ => if ch = '\x7d' then c.failAt .trailingComma else c.memberName
    else c.failAt .expectedMemberOrEnd

/-- Moves past the colon between a name and its value. -/
def colon (c : Cursor) : Except Error Cursor :=
  let c := c.skipSpace
  match c.rest with
  | [] => c.fail .endInObject
  | ch :: _ => if ch = ':' then .ok c.next else c.failAt .expectedColon

/-- Moves past the bracket that closes an array whose items have all been read. -/
def endArray (c : Cursor) : Except Error Cursor :=
  let c := c.skipSpace
  match c.rest with
  | [] => c.fail .endInArray
  | ch :: _ =>
    if ch = ']' then .ok c.next
    else if ch = ',' then
      let c := c.next.skipSpace
      c.failAt (if c.rest.head? = some ']' then .trailingComma else .trailingCharacters)
    else c.failAt .trailingCharacters

/-- Where the cursor comes to stand when an array is left before its end. -/
def leaveArray (c : Cursor) : Cursor :=
  let c := c.skipSpace
  match c.rest with
  | ']' :: _ => c.next
  | ',' :: _ => c.next.skipSpace
  | _ => c

/-- Where the cursor comes to stand when an object is left before its end. -/
def leaveObject (c : Cursor) : Cursor :=
  let c := c.skipSpace
  match c.rest with
  | '\x7d' :: _ => c.next
  | _ => c

end Cursor

/-- Reads the items of an array, each with `item`, and moves past the closing bracket. -/
def readItems {α : Type} (item : Cursor → Except Error (α × Cursor)) :
    Nat → Bool → Cursor → Except Error (List α × Cursor)
  | 0, _, c => c.fail .endInArray
  | fuel + 1, first, c => do
    let (more, c) ← c.nextItem first
    if more then
      let (x, c) ← item c
      let (xs, c) ← readItems item fuel false c
      return (x :: xs, c)
    else return ([], c.next)

/-- Reads the members of an object, taking each into `state` with `member`, which is given the name
and stands before the colon.  The closing bracket is left in place. -/
def foldMembers {σ : Type} (member : σ → String → Cursor → Except Error (σ × Cursor)) :
    Nat → Bool → σ → Cursor → Except Error (σ × Cursor)
  | 0, _, _, c => c.fail .endInObject
  | fuel + 1, first, state, c => do
    let (name?, c) ← c.nextMember first
    match name? with
    | none => return (state, c)
    | some name =>
      let (state, c) ← member state name c
      foldMembers member fuel false state c

end JobWorker.Json
