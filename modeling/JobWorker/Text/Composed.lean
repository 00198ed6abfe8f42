/-
Composed texts.

The same letters and marks can be written in several ways.  In a composed text every character is as much
in one as it can be (Normalization Form C): all characters are taken apart, marks are put into the order
of their classes, and each mark that stands free behind a character is joined to it if the two are one
character.
-/
import JobWorker.Text.Composite
import JobWorker.Text.Mark

namespace JobWorker.Text

/-- How often a character can be split at most. -/
def splitDepth : Nat := 4

/-- The parts of a character that is split so many times at most. -/
def partsWithin : Nat → Char → List Char
  | 0, c => [c]
  | depth + 1, c =>
    match split? c with
    | none => [c]
    | some (base, mark) => partsWithin depth base ++ [mark]

/-- A text with all characters taken apart. -/
def decomposed (text : List Char) : List Char := text.flatMap (partsWithin splitDepth)

/-- Puts a character in front of an ordered text, behind the marks of lower classes. -/
def insertMark (c : Char) : List Char → List Char
  | [] => [c]
  | d :: rest =>
    if 0 < combiningClass d ∧ combiningClass d < combiningClass c then d :: insertMark c rest
    else c :: d :: rest

/-- A text with the marks behind each character in the order of their classes. -/
def ordered (text : List Char) : List Char := text.foldr insertMark []

/-- Joins marks to the character `start`; `kept` are the marks behind it that could not be joined, the
last one first. -/
def joinFrom (start : Char) (kept : List Char) : List Char → List Char
  | [] => start :: kept.reverse
  | c :: rest =>
    let free := match kept with
      | [] => true
      | last :: _ => combiningClass last < combiningClass c
    match if free then join? start c else none with
    | some whole => joinFrom whole kept rest
    | none =>
      if combiningClass c = 0 then start :: kept.reverse ++ joinFrom c [] rest
      else joinFrom start (c :: kept) rest

/-- A text in which every character is as much in one as it can be. -/
def composed (text : List Char) : List Char :=
  match ordered (decomposed text) with
  | [] => []
  | start :: rest => joinFrom start [] rest

end JobWorker.Text
