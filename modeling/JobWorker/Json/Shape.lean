/-
Records with a fixed set of fields.

A record is read from an object, whose members may stand in any order and may include others that
are skipped, or from an array that lists the values of all fields.  A field that is left out takes
its default if it has one.  The first field without a value, in the order of the fields, is the one
reported as missing.
-/
import JobWorker.Json.Reader

namespace JobWorker.Json

/-- The fields of a kind of record: how each is named and read, and what it is when absent. -/
structure Shape (ι : Type) where
  /-- How the kind of record is called in an error. -/
  title : String
  /-- All fields, in the order of their declaration. -/
  fields : List ι
  /-- The name of each field in a document. -/
  name : ι → String
  /-- What each field holds. -/
  Holds : ι → Type
  /-- How the value of each field is read. -/
  read : (i : ι) → Reader (Holds i)
  /-- The value of a field that is left out, if it may be. -/
  absent : (i : ι) → Option (Holds i)
  /-- No field is left off the list. -/
  complete : ∀ i, i ∈ fields

namespace Shape

variable {ι : Type} (S : Shape ι)

/-- A value for every field. -/
def Record : Type := (i : ι) → S.Holds i

/-- The values that have been read so far. -/
def Slots : Type := (i : ι) → Option (S.Holds i)

/-- No value has been read. -/
def noSlots : S.Slots := fun _ => none

/-- The field with a name. -/
def field? (name : String) : Option ι := S.fields.find? fun i => S.name i = name

variable {S}

/-- Adds the value of one field. -/
def Slots.set [DecidableEq ι] (slots : S.Slots) (i : ι) (x : S.Holds i) : S.Slots :=
  fun j => if h : i = j then some (h ▸ x) else slots j

/-- The values with the defaults of the fields that have none. -/
def Slots.fill (slots : S.Slots) : S.Slots := fun i => (slots i).or (S.absent i)

/-- The record of all values, or the first field that has neither a value nor a default. -/
def Slots.finish (slots : S.Slots) : Except ι S.Record :=
  match h : S.fields.find? fun i => (slots.fill i).isNone with
  | some i => .error i
  | none => .ok fun i => (slots.fill i).get <| by
      have := List.find?_eq_none.1 h i (S.complete i)
      simpa [Option.isSome_iff_ne_none] using this

variable (S)

/-- Ends the reading of a record; `c` stands behind its bracket. -/
def close (slots : S.Slots) (c : Cursor) : Except Error (S.Record × Cursor) :=
  match slots.finish with
  | .ok record => .ok (record, c)
  | .error i => c.fail (.missingField (S.name i))

variable [DecidableEq ι]

/-- Takes one member of an object into the values read so far. -/
def takeMember (levels : Nat) (slots : S.Slots) (name : String) (c : Cursor) :
    Except Error (S.Slots × Cursor) :=
  match S.field? name with
  | none => do return (slots, ← (← c.colon).skipValue)
  | some i =>
    if (slots i).isSome then c.leaveObject.fail (.duplicateField name)
    else do
      let (x, c) ← S.read i levels (← c.colon)
      return (slots.set i x, c)

/-- Reads the values of `fields` from an array, `count` of whose items have been read. -/
def takeItems (levels : Nat) :
    List ι → Nat → S.Slots → Cursor → Except Error (S.Slots × Cursor)
  | [], _, slots, c => .ok (slots, c)
  | i :: fields, count, slots, c => do
    let (more, c) ← c.nextItem (count = 0)
    if more then
      let (x, c) ← S.read i levels c
      takeItems levels fields (count + 1) (slots.set i x) c
    else match S.absent i with
      | some x => takeItems levels fields (count + 1) (slots.set i x) c
      | none => c.next.fail (.wrongLength count S.title S.fields.length)

/-- Reads a record from the items of an array. -/
def readItems (levels : Nat) (c : Cursor) : Except Error (S.Record × Cursor) := do
  let (slots, c) ← S.takeItems levels S.fields 0 S.noSlots c
  S.close slots (← c.endArray)

/-- Reads a record from the members of an object. -/
def readMembers (levels : Nat) (c : Cursor) : Except Error (S.Record × Cursor) := do
  let (slots, c) ← foldMembers (S.takeMember levels) (c.rest.length + 1) true S.noSlots c
  S.close slots c.next

/-- Reads a record. -/
def readRecord : Reader S.Record := fun levels c =>
  let c := c.skipSpace
  match c.rest with
  | '[' :: _ =>
    match levels with
    | 0 => c.failAt .nestedTooDeep
    | deeper + 1 => S.readItems deeper c.next
  | '\x7b' :: _ =>
    match levels with
    | 0 => c.failAt .nestedTooDeep
    | deeper + 1 => S.readMembers deeper c.next
  | _ => refuse S.title c

/-- Reads a record and makes something of it. -/
def readAs {α : Type} (build : S.Record → α) : Reader α := fun levels c => do
  let (record, c) ← S.readRecord levels c
  return (build record, c)

end Shape

end JobWorker.Json
