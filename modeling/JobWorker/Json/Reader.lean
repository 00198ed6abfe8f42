/-
Reading JSON documents.

Every reader starts before the white space of its value.  Two things can be wrong at once, and the
first in the text wins: a reader that expects another kind of value first reads the value it finds,
and reports a fault inside that value before it reports the kind.
-/
import JobWorker.Json.Skip

namespace JobWorker.Json

/-- How many levels arrays and objects may be nested. -/
def deepest : Nat := 127

/-- Takes a member into an object that is being read. -/
def readMember (value : Cursor → Except Error (Value × Cursor)) (members : Members) (name : String)
    (c : Cursor) : Except Error (Members × Cursor) := do
  let (v, c) ← value (← c.colon)
  return (members.insert name v, c)

/-- Reads the members of an object; the cursor stands behind the opening bracket. -/
def readObject (value : Cursor → Except Error (Value × Cursor)) (c : Cursor) :
    Except Error (Members × Cursor) := do
  let (members, c) ← foldMembers (readMember value) (c.rest.length + 1) true [] c
  return (members, c.next)

/-- Reads any value. -/
def readValue : Reader Value
  | levels, c =>
    let c := c.skipSpace
    match c.rest with
    | [] => c.fail .endInValue
    | 'n' :: _ => do return (.null, ← c.next.word ['u', 'l', 'l'])
    | 't' :: _ => do return (.bool true, ← c.next.word ['r', 'u', 'e'])
    | 'f' :: _ => do return (.bool false, ← c.next.word ['a', 'l', 's', 'e'])
    | '"' :: _ => do
      let (s, c) ← StringLiteral.read c.next
      return (.string s, c)
    | '[' :: _ =>
      match levels with
      | 0 => c.failAt .nestedTooDeep
      | deeper + 1 => do
        let (items, c) ← readItems (readValue deeper) (c.rest.length + 1) true c.next
        return (.array items, c)
    | '\x7b' :: _ =>
      match levels with
      | 0 => c.failAt .nestedTooDeep
      | deeper + 1 => do
        let (members, c) ← readObject (readValue deeper) c.next
        return (.object members, c)
    | ch :: _ =>
      if ch = '-' || ch.isDigit then do
        let (n, c) ← readNumber c
        return (.number n, c)
      else c.failAt .expectedValue

/-- Reads the value that stands where another kind was expected, and says what it is.  Arrays and
objects are not entered. -/
def readFound (c : Cursor) : Except Error (Found × Cursor) :=
  match c.rest with
  | [] => c.fail .endInValue
  | 'n' :: _ => do return (.null, ← c.next.word ['u', 'l', 'l'])
  | 't' :: _ => do return (.bool true, ← c.next.word ['r', 'u', 'e'])
  | 'f' :: _ => do return (.bool false, ← c.next.word ['a', 'l', 's', 'e'])
  | '"' :: _ => do
    let (s, c) ← StringLiteral.read c.next
    return (.string s, c)
  | '[' :: _ => .ok (.array, c)
  | '\x7b' :: _ => .ok (.object, c)
  | ch :: _ =>
    if ch = '-' || ch.isDigit then do
      let (n, c) ← readNumber c
      return (.number n, c)
    else c.failAt .expectedValue

/-- Refuses the value at the cursor, for another kind was expected. -/
def refuse {α : Type} (expected : String) (c : Cursor) : Except Error α := do
  let (found, c) ← readFound c
  c.fail (.wrongType found expected)

/-- Reads a string. -/
def readString : Reader String := fun _ c =>
  let c := c.skipSpace
  match c.rest with
  | '"' :: _ => StringLiteral.read c.next
  | _ => refuse "a string" c

/-- Reads an integer from `least` to `greatest`; `kind` names that range. -/
def readInt (kind : String) (least greatest : Int) : Reader Int := fun _ c =>
  let c := c.skipSpace
  match c.rest with
  | [] => c.fail .endInValue
  | ch :: _ =>
    if ch = '-' || ch.isDigit then do
      let (n, c) ← readNumber c
      match n with
      | .integer n => if least ≤ n ∧ n ≤ greatest then return (n, c) else c.fail (.outOfRange n kind)
      | .float x => c.fail (.wrongType (.number (.float x)) kind)
    else refuse kind c

/-- Reads a signed number of 32 bits. -/
def readInt32 : Reader Int32 := fun levels c => do
  let (n, c) ← readInt "i32" Decimal.leastInt32 Decimal.greatestInt32 levels c
  return (Int32.ofInt n, c)

/-- Reads a signed number of 64 bits. -/
def readInt64 : Reader Int64 := fun levels c => do
  let (n, c) ← readInt "i64" Decimal.leastInt64 Decimal.greatestInt64 levels c
  return (Int64.ofInt n, c)

/-- Reads an unsigned number of 32 bits. -/
def readUInt32 : Reader UInt32 := fun levels c => do
  let (n, c) ← readInt "u32" 0 Decimal.greatestUInt32 levels c
  return (UInt32.ofNat n.toNat, c)

/-- Reads an unsigned number of 64 bits. -/
def readUInt64 : Reader UInt64 := fun levels c => do
  let (n, c) ← readInt "u64" 0 Decimal.greatestUInt64 levels c
  return (UInt64.ofNat n.toNat, c)

/-- Reads a value that may be null. -/
def readOption {α : Type} (value : Reader α) : Reader (Option α) := fun levels c =>
  match c.skipSpace.rest with
  | 'n' :: _ => do return (none, ← c.skipSpace.next.word ['u', 'l', 'l'])
  | _ => do
    let (x, c) ← value levels c
    return (some x, c)

/-- Reads an array whose items are of one kind. -/
def readList {α : Type} (item : Reader α) : Reader (List α) := fun levels c =>
  let c := c.skipSpace
  match c.rest with
  | '[' :: _ =>
    match levels with
    | 0 => c.failAt .nestedTooDeep
    | deeper + 1 => readItems (item deeper) (c.rest.length + 1) true c.next
  | _ => refuse "a sequence" c

/-- Reads an object with any members. -/
def readMembers : Reader Members := fun levels c =>
  let c := c.skipSpace
  match c.rest with
  | '\x7b' :: _ =>
    match levels with
    | 0 => c.failAt .nestedTooDeep
    | deeper + 1 => readObject (readValue deeper) c.next
  | _ => refuse "a map" c

/-- Reads what the cursor stands before as a whole document: only white space may follow. -/
def readAll {α : Type} (reader : Reader α) (c : Cursor) : Except Error α := do
  let (x, c) ← reader deepest c
  if c.skipSpace.rest = [] then return x else c.skipSpace.failAt .trailingCharacters

/-- Reads a text as a document of one kind. -/
def parse {α : Type} (reader : Reader α) (text : String) : Except Error α :=
  readAll reader (Cursor.ofChars text.toList)

end JobWorker.Json
