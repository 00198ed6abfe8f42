/-
Paths.

A path is a list of segments.  Reading one carries out the segments that lead nowhere or one level up,
but the letter of a drive is never left again.  Paths of files may begin with such a letter and have no
empty segments in front.
-/
import JobWorker.Text.Parts
import JobWorker.Url.Percent

namespace JobWorker.Url.Path

/-- What is escaped in a path. -/
def reserved : List Char := [' ', '"', '<', '>', '\x60', '#', '?', '\x7b', '\x7d']

/-- Whether a segment leads nowhere. -/
def isDot (segment : List Char) : Bool :=
  segment = ['.'] || segment.map Char.toLower = ['%', '2', 'e']

/-- Whether a segment leads one level up. -/
def isDoubleDot (segment : List Char) : Bool :=
  let s := segment.map Char.toLower
  s = ['.', '.'] || s = ['.', '%', '2', 'e'] || s = ['%', '2', 'e', '.'] ||
    s = ['%', '2', 'e', '%', '2', 'e']

/-- Whether a segment begins with the letter of a drive. -/
def beginsWithDrive : List Char → Bool
  | letter :: mark :: rest =>
    letter.isAlpha && (mark = ':' || mark = '|') && rest.head?.all (· = '\\')
  | _ => false

/-- Whether a segment is the letter of a drive. -/
def isDrive (segment : List Char) : Bool := segment.length = 2 && beginsWithDrive segment

/-- The level above; `above` are the segments so far, the last one first. -/
def climb : List (List Char) → List (List Char)
  | [] => []
  | last :: above => if beginsWithDrive last then last :: above else above

/-- A segment as it is kept: the letter of a drive that begins the path of a file is marked with a
colon. -/
def keep (ofFile : Bool) (above : List (List Char)) (segment : List Char) : List Char :=
  if ofFile ∧ above = [] ∧ isDrive segment then segment.take 1 ++ [':'] else segment

/-- The segments of a path with dots carried out; `above` are those before, the last one first. -/
def resolve (ofFile : Bool) (above : List (List Char)) : List (List Char) → List (List Char)
  | [] => above.reverse
  | [last] =>
    if isDoubleDot last then ([] :: climb above).reverse
    else if isDot last then ([] :: above).reverse
    else (keep ofFile above last :: above).reverse
  | segment :: rest =>
    if isDoubleDot segment then resolve ofFile (climb above) rest
    else if isDot segment then resolve ofFile above rest
    else resolve ofFile (keep ofFile above segment :: above) rest

/-- The segments of a path, of which the first separator is behind. -/
def segments (ofFile : Bool) (path : List Char) : List (List Char) :=
  resolve ofFile [] (Text.parts '/' path)

/-- Whether the path of a file begins with the letter of a drive. -/
def isOnDrive (path : List Char) : Bool := (segments true path).head?.any isDrive

/-- The usual form of a path, of which the first separator is behind. -/
def text (ofFile : Bool) (path : List Char) : List Char :=
  let path := (segments ofFile path).flatMap fun segment =>
    '/' :: Percent.encode reserved segment
  if ofFile then '/' :: path.dropWhile (· = '/') else path

end JobWorker.Url.Path
