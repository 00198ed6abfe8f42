/-
Texts in other scripts, written in ASCII.

The characters of a text that are in ASCII come first.  The others follow as numbers, in the order of
their code points: each number says how many steps of counting, over code points and places, lie
between one of them and the next.
-/

namespace JobWorker.Url.Punycode

/-- The digits are the letters and then the figures. -/
def digit (n : Nat) : Char := if n < 26 then Char.ofNat ('a'.toNat + n) else Char.ofNat ('0'.toNat + n - 26)

/-- The value of a digit. -/
def value? (c : Char) : Option Nat :=
  if 'a' ≤ c ∧ c ≤ 'z' then some (c.toNat - 'a'.toNat)
  else if c.isDigit then some (26 + (c.toNat - '0'.toNat))
  else none

/-- The least value that ends a number at a place. -/
def threshold (bias place : Nat) : Nat := min (max (place - bias) 1) 26

/-- The digits of a number, from a place on; no number is longer than its value. -/
def digits (bias : Nat) : Nat → Nat → Nat → List Char
  | 0, _, _ => []
  | fuel + 1, place, n =>
    let t := threshold bias place
    if n < t then [digit n]
    else digit (t + (n - t) % (36 - t)) :: digits bias fuel (place + 36) ((n - t) / (36 - t))

/-- The steps by which a number is reduced, and what is left of it. -/
def reduce : Nat → Nat → Nat → Nat × Nat
  | 0, k, delta => (k, delta)
  | fuel + 1, k, delta => if 455 < delta then reduce fuel (k + 36) (delta / 35) else (k, delta)

/-- The bias after a number. -/
def adapt (delta count : Nat) (first : Bool) : Nat :=
  let delta := if first then delta / 700 else delta / 2
  let (k, delta) := reduce delta 0 (delta + delta / count)
  k + 36 * delta / (delta + 38)

/-! ### Writing -/

/-- How far writing has come. -/
structure Progress where
  delta : Nat
  bias : Nat
  written : Nat
  /-- Whether no number has been written. -/
  first : Bool
  output : List Char

/-- Takes in a character while the code point `code` is written. -/
def visit (code : Nat) (p : Progress) (c : Char) : Progress :=
  if c.toNat < code then { p with delta := p.delta + 1 }
  else if c.toNat = code then
    { delta := 0
      bias := adapt p.delta (p.written + 1) p.first
      written := p.written + 1
      first := false
      output := p.output ++ digits p.bias (p.delta + 1) 36 p.delta }
  else p

/-- Writes all characters with one code point; `last` is the code point before it. -/
def writeCode (text : List Char) (state : Progress × Nat) (code : Nat) : Progress × Nat :=
  let (p, last) := state
  let p := { p with delta := p.delta + (code - last) * (p.written + 1) }
  let p := text.foldl (visit code) p
  ({ p with delta := p.delta + 1 }, code + 1)

/-- The code points beyond ASCII in a text, in order, each once. -/
def codes (text : List Char) : List Nat :=
  (((text.map Char.toNat).filter (128 ≤ ·)).mergeSort).eraseDups

/-- A text that is not all in ASCII, written in ASCII. -/
def encode (text : List Char) : List Char :=
  let basic := text.filter fun c => c.toNat < 128
  let start := if basic = [] then [] else basic ++ ['-']
  ((codes text).foldl (writeCode text) (⟨0, 72, basic.length, true, start⟩, 128)).1.output

/-! ### Reading -/

/-- Reads a number from a place on: its value, added to `sum`, and what is behind it. -/
def number? (bias : Nat) : (place weight sum : Nat) → List Char → Option (Nat × List Char)
  | _, _, _, [] => none
  | place, weight, sum, c :: rest =>
    match value? c with
    | none => none
    | some d =>
      if d < threshold bias place then some (sum + d * weight, rest)
      else number? bias (place + 36) (weight * (36 - threshold bias place)) (sum + d * weight) rest

/-- A number is at least one digit long. -/
theorem length_lt_of_number? {bias : Nat} {digits : List Char} :
    ∀ {place weight sum n : Nat} {rest : List Char},
      number? bias place weight sum digits = some (n, rest) → rest.length < digits.length := by
  induction digits with
  | nil => intro place weight sum n rest h; simp [number?] at h
  | cons c more ih =>
    intro place weight sum n rest h
    rw [number?] at h
    split at h
    · simp at h
    · split at h
      · cases h; simp
      · have := ih h
        simp only [List.length_cons]
        omega

/-- The character with a code point. -/
def char? (code : Nat) : Option Char := if code.isValidChar then some (Char.ofNat code) else none

/-- Puts the characters that numbers stand for into a text; `start` is the place behind the last one, and
`code` its code point. -/
def fill? (text : List Char) (bias start code : Nat) (digits : List Char) : Option (List Char) :=
  match digits with
  | [] => some text
  | c :: more =>
    match _h : number? bias 36 1 start (c :: more) with
    | none => none
    | some (n, rest) =>
      let places := text.length + 1
      match char? (code + n / places) with
      | none => none
      | some d =>
        fill? (text.insertIdx (n % places) d) (adapt (n - start) places (start = 0)) (n % places + 1)
          (code + n / places) rest
termination_by digits.length
decreasing_by
  have := length_lt_of_number? _h
  simpa using this

/-- The text before the last dash, and the text behind it; without a dash, all is behind it. -/
def cutDash (text : List Char) : List Char × List Char :=
  match text.reverse.dropWhile (· ≠ '-') with
  | [] => ([], text)
  | _ :: before => (before.reverse, (text.reverse.takeWhile (· ≠ '-')).reverse)

/-- The text that is written in ASCII.  A dash in front of all else divides nothing. -/
def decode? (text : List Char) : Option (List Char) :=
  if text.any (128 ≤ ·.toNat) ∨ (cutDash text).1 = [] ∧ text.head? = some '-' then none
  else fill? (cutDash text).1 72 0 128 (cutDash text).2

end JobWorker.Url.Punycode
