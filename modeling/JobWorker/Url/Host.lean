/-
Hosts.

A host is a name, four numbers or an address in brackets.  A name whose last label is a number has to be
an address of four numbers, which may be shortened and may be written to the bases eight and sixteen.
-/
import JobWorker.Decimal.Integer
import JobWorker.Text.Utf8
import JobWorker.Url.Name
import JobWorker.Url.Percent

namespace JobWorker.Url.Host

/-! ### Four numbers -/

/-- The number that digits to a base denote. -/
def number? (base : Nat) (digits : List Char) : Option Nat :=
  digits.foldlM (fun n c => do
    let d ← Json.StringLiteral.hexDigit? c
    if d < base then some (n * base + d) else none) 0

/-- The number that a part of an address denotes. -/
def part? : List Char → Option Nat
  | [] => none
  | '0' :: 'x' :: digits | '0' :: 'X' :: digits => number? 16 digits
  | '0' :: c :: digits => number? 8 (c :: digits)
  | digits => number? 10 digits

/-- The labels of a name; a dot at the end begins no label. -/
def labels (name : List Char) : List (List Char) :=
  let parts := Text.parts '.' name
  if 1 < parts.length ∧ parts.getLast? = some [] then parts.dropLast else parts

/-- Whether the last label of a name is a number. -/
def endsInNumber (name : List Char) : Bool :=
  match (labels name).getLast? with
  | some (c :: rest) => (c :: rest).all Char.isDigit || (part? (c :: rest)).isSome
  | _ => false

/-- The address that parts stand for: the last part fills all places that are left. -/
def address? : List Nat → Option Nat
  | [] => none
  | parts@(_ :: _) =>
    let last := parts.getLast (by simp_all)
    let first := parts.dropLast
    if 4 < parts.length ∨ first.any (255 < ·) ∨ Nat.pow 256 (5 - parts.length) ≤ last then none
    else some <| last + ((List.range first.length).zip first).foldl
      (fun sum (i, n) => sum + n * Nat.pow 256 (3 - i)) 0

/-- An address as four numbers. -/
def addressText (n : Nat) : List Char :=
  ['.'].intercalate <| [n / 16777216, n / 65536 % 256, n / 256 % 256, n % 256].map fun (k : Nat) =>
    Decimal.intText k

/-! ### Eight numbers in brackets -/

/-- A number of at most four hexadecimal digits. -/
def piece? (digits : List Char) : Option Nat :=
  if digits = [] ∨ 4 < digits.length then none else number? 16 digits

/-- Four numbers at the end of an address in brackets, as two. -/
def tail? (text : List Char) : Option (List Nat) := do
  let parts ← (Text.parts '.' text).mapM fun part =>
    match part with
    | [c] => Decimal.nat? [c]
    | '0' :: _ => none
    | digits => (Decimal.nat? digits).filter (· ≤ 255)
  match parts with
  | [a, b, c, d] => some [a * 256 + b, c * 256 + d]
  | _ => none

/-- The numbers between colons. -/
def pieces? : List (List Char) → Option (List Nat)
  | [] => some []
  | [last] => if last.contains '.' then tail? last else (piece? last).map fun n => [n]
  | piece :: rest => do some ((← piece? piece) :: (← pieces? rest))

/-- The text before the first double colon and the text behind it. -/
def cutDouble : List Char → List Char × Option (List Char)
  | ':' :: ':' :: rest => ([], some rest)
  | c :: rest =>
    let (before, behind) := cutDouble rest
    (c :: before, behind)
  | [] => ([], none)

/-- The numbers of one side of an address; an empty side has none. -/
def side? (text : List Char) : Option (List Nat) :=
  if text = [] then some [] else pieces? (Text.parts ':' text)

/-- The eight numbers of an address in brackets; a double colon stands for as many zeros as fit. -/
def eight? (text : List Char) : Option (List Nat) :=
  match cutDouble text with
  | (all, none) => do
    let numbers ← pieces? (Text.parts ':' all)
    if numbers.length = 8 then some numbers else none
  | (before, some behind) => do
    if before.contains '.' then none
    else
      let left ← side? before
      let right ← side? behind
      if left.length + right.length < 8 then
        some (left ++ List.replicate (8 - left.length - right.length) 0 ++ right)
      else none

/-- How many zeros a list begins with. -/
def zeros (numbers : List Nat) : Nat := (numbers.takeWhile (· = 0)).length

/-- The place and the length of the first of the longest runs of zeros. -/
def longestRun (numbers : List Nat) : Nat × Nat :=
  (List.range numbers.length).foldl
    (fun (place, length) i =>
      let n := zeros (numbers.drop i)
      if length < n then (i, n) else (place, length)) (0, 0)

/-- Numbers to the base sixteen, with colons between them. -/
def hexText (numbers : List Nat) : List Char :=
  [':'].intercalate (numbers.map fun n => Nat.toDigits 16 n)

/-- Eight numbers as an address: two zeros or more are left out once. -/
def eightText (numbers : List Nat) : List Char :=
  let (place, length) := longestRun numbers
  if length < 2 then hexText numbers
  else hexText (numbers.take place) ++ [':', ':'] ++ hexText (numbers.drop (place + length))

/-- Reads an address in brackets, of which the first is behind. -/
def bracketed? (text : List Char) : Option (List Char) :=
  match text.getLast? with
  | some ']' => (eight? text.dropLast).map fun numbers => '[' :: eightText numbers ++ [']']
  | _ => none

/-! ### Hosts -/

/-- Reads the host of a service on the network, and gives the form in which it is written. -/
def name? (text : List Char) : Option (List Char) :=
  match text with
  | '[' :: rest => bracketed? rest
  | text =>
    match Name.ascii? (Text.Utf8.decode '\ufffd' (Percent.decode text)) with
    | none | some [] => none
    | some name =>
      if endsInNumber name then ((labels name).mapM part? |>.bind address?).map addressText
      else some name

/-- Reads a host that is nothing but a text. -/
def opaque? (text : List Char) : Option (List Char) :=
  match text with
  | '[' :: rest => bracketed? rest
  | text => if text.any Name.forbidden.contains then none else some (Percent.encode [] text)

end JobWorker.Url.Host
