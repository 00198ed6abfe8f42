/-
Labels of names.

A name consists of labels with dots between them.  A label in another script is sent in ASCII, behind
`xn--`.  It must not begin with a mark, a joiner in it has to have something to join, and if any label of
a name runs from right to left, each label runs in one direction from its first to its last letter.
-/
import JobWorker.Text.Composed
import JobWorker.Text.Direction
import JobWorker.Text.Joining
import JobWorker.Url.Name.Mapping
import JobWorker.Url.Punycode

namespace JobWorker.Url.Name

/-- What the ASCII form of a label in another script begins with. -/
def asciiStart : List Char := ['x', 'n', '-', '-']

/-- Whether a text is all in ASCII. -/
def isAscii (text : List Char) : Bool := text.all (·.toNat < 128)

/-- The greatest number of characters in a label that is not in ASCII. -/
def greatestLength : Nat := 1000

/-- The greatest number of characters in the ASCII form of a label, what it begins with apart. -/
def greatestAsciiLength : Nat := 2000

/-! ### Joiners -/

/-- The joiner that shows letters joined. -/
def joiner : Char := '\u200d'

/-- The joiner that shows letters apart. -/
def nonJoiner : Char := '\u200c'

/-- The first character of a text that is not transparent joins in the wanted way. -/
def meets (joins : Text.Joining → Bool) (text : List Char) : Bool :=
  match text.dropWhile fun c => Text.Joining.of c = .transparent with
  | [] => false
  | c :: _ => joins (Text.Joining.of c)

/-- Whether every joiner has something to join; `before` is the text before, the last character
first. -/
def joinersFit (before : List Char) : List Char → Bool
  | [] => true
  | c :: rest =>
    let behindVirama := match before with
      | [] => false
      | last :: _ => Text.combiningClass last = Text.viramaClass
    let apart := meets Text.Joining.joinsBehind before && meets Text.Joining.joinsBefore rest
    (c ≠ joiner || behindVirama) && (c ≠ nonJoiner || behindVirama || apart) &&
      joinersFit (c :: before) rest

/-! ### Directions -/

/-- Whether a label that begins with a letter from left to right runs that way to its end; `rest` are
the directions of all that follows, the last one first. -/
def runsRight (rest : List Text.Direction) : Bool :=
  match rest.dropWhile (· = .nonspacing) with
  | [] => true
  | last :: inner =>
    (last = .leftToRight || last = .europeanNumber) &&
      inner.all fun d => d ≠ .rightToLeft && d ≠ .arabicNumber

/-- Whether a label that begins with a letter from right to left runs that way to its end, with one kind
of digits only. -/
def runsLeft (rest : List Text.Direction) : Bool :=
  match rest.dropWhile (· = .nonspacing) with
  | [] => true
  | last :: inner =>
    last ≠ .neutral && (last :: inner).all (· ≠ .leftToRight) &&
      !((last :: inner).contains .arabicNumber && (last :: inner).contains .europeanNumber)

/-- Whether a label runs in one direction; a label without letters does not begin with one. -/
def runsOneWay (label : List Char) : Bool :=
  match label.map Text.Direction.of with
  | [] => true
  | .leftToRight :: rest => runsRight rest.reverse
  | .rightToLeft :: rest => runsLeft rest.reverse
  | _ :: _ => false

/-- Whether a text has a character that runs from right to left. -/
def turns (text : List Char) : Bool :=
  text.any fun c => 128 ≤ c.toNat &&
    (Text.Direction.of c = .rightToLeft || Text.Direction.of c = .arabicNumber)

/-! ### Labels -/

/-- Whether a label is well formed on its own. -/
def isWellFormed (label : List Char) : Bool :=
  isAscii label ||
    (label.length ≤ greatestLength && !(label.head?.any Text.isMark) && joinersFit [] label)

/-- Whether every character of a text stands for itself, and the text is composed. -/
def isPlain (text : List Char) : Bool :=
  text.all (fun c => meaning? c = some [c]) && Text.composed text = text

/-- What a label says: one in ASCII form is read, and has to say what could stand there itself. -/
def label? (label : List Char) : Option (List Char) :=
  if asciiStart.isPrefixOf label then
    let code := label.drop asciiStart.length
    if code = [] ∨ code.getLast? = some '-' ∨ greatestAsciiLength < code.length then none
    else (Punycode.decode? code).filter fun text => isPlain text && isWellFormed text
  else if isWellFormed label then some label
  else none

/-- The ASCII form of a label. -/
def asciiLabel (label : List Char) : List Char :=
  if isAscii label then label else asciiStart ++ Punycode.encode label

end JobWorker.Url.Name
