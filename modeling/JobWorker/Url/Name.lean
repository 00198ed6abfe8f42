/-
Names of hosts.

A name is read by what its characters stand for.  It is sent in ASCII, each label on its own; two names
are the same if they are sent the same way.
-/
import JobWorker.Url.Name.Label

namespace JobWorker.Url.Name

/-- The signs that no host has. -/
def forbidden : List Char :=
  ['\x00', '\t', '\n', '\r', ' ', '#', '/', ':', '<', '>', '?', '@', '[', '\\', ']', '^', '|']

/-- Whether a character cannot stand in a name. -/
def isForbidden (c : Char) : Bool :=
  forbidden.contains c || c = '%' || c.toNat ≤ 0x1F || c.toNat = 0x7F

/-- What the characters of a text stand for, composed. -/
def meaningOf? (text : List Char) : Option (List Char) :=
  (text.mapM meaning?).map fun words => Text.composed words.flatten

/-- A name as it is sent. -/
def ascii? (text : List Char) : Option (List Char) := do
  let name ← meaningOf? text
  if name.any isForbidden then none
  else
    let labels ← (Text.parts '.' name).mapM label?
    if labels.any turns ∧ ¬labels.all runsOneWay then none
    else some (['.'].intercalate (labels.map asciiLabel))

end JobWorker.Url.Name
