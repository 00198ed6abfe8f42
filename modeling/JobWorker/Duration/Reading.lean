/-
Durations as people write them: "100ms", "30s", "5m", "1h".

A written duration is a number and a unit, with blanks around both.  A number without a unit counts
seconds.  A duration that is too long becomes the longest one.
-/
import JobWorker.Duration
import JobWorker.Decimal.Integer
import JobWorker.Text.Blank

namespace JobWorker.Duration

/-- What a written duration can be counted in. -/
inductive TimeUnit where
  | millis
  | secs (count : Nat)
  deriving DecidableEq, Repr

/-- Why a text is no duration. -/
inductive ReadError where
  | empty
  | invalidNumber (text : String)
  | unknownSuffix (suffix : String)
  deriving DecidableEq, Repr

/-- The wording of an error. -/
def ReadError.message : ReadError → String
  | .empty => "empty duration string"
  | .invalidNumber text => "invalid number in duration: " ++ text
  | .unknownSuffix suffix => "unknown duration suffix: " ++ suffix

/-- The spellings of every unit. -/
def spellings : List (TimeUnit × List String) :=
  [(.millis, ["ms", "millis", "millisecond", "milliseconds"]),
   (.secs 1, ["", "s", "sec", "secs", "second", "seconds"]),
   (.secs 60, ["m", "min", "mins", "minute", "minutes"]),
   (.secs 3600, ["h", "hr", "hrs", "hour", "hours"]),
   (.secs 86400, ["d", "day", "days"])]

/-- The unit that a spelling names. -/
def unit? (spelling : String) : Option TimeUnit :=
  (spellings.find? fun entry => entry.2.contains spelling).map Prod.fst

/-- A number of units; the longest number of seconds stands for every longer one. -/
def ofUnits (n : Nat) : TimeUnit → Duration
  | .millis => ofMillis (UInt64.ofNat n)
  | .secs count => ofSecs (UInt64.ofNat (min (n * count) (UInt64.size - 1)))

/-- The number that a row of digits denotes, if it fits a word. -/
def word? (digits : List Char) : Option Nat :=
  match Decimal.nat? digits with
  | some n => if n < UInt64.size then some n else none
  | none => none

/-- Reads a duration from a text without blanks around it. -/
def readTrimmed (text : List Char) : Except ReadError Duration :=
  if text = [] then .error .empty
  else match word? (text.takeWhile Char.isDigit) with
    | none => .error (.invalidNumber (String.ofList text))
    | some n =>
      let suffix := String.ofList (Text.trim (text.dropWhile Char.isDigit))
      match unit? suffix with
      | some u => .ok (ofUnits n u)
      | none => .error (.unknownSuffix suffix)

/-- Reads a duration. -/
def read (text : String) : Except ReadError Duration := readTrimmed (Text.trim text.toList)

end JobWorker.Duration
