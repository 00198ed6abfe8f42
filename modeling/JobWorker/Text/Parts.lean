/-
Texts divided by a separator.

The separators are left out, so that between two neighbours among them there is an empty part.
-/

namespace JobWorker.Text

/-- The parts of a text between the separators. -/
def parts (separator : Char) : List Char → List (List Char)
  | [] => [[]]
  | c :: rest =>
    if c = separator then [] :: parts separator rest
    else match parts separator rest with
      | first :: more => (c :: first) :: more
      | [] => [[c]]

/-- A text has at least one part. -/
theorem parts_ne_nil (separator : Char) (text : List Char) : parts separator text ≠ [] := by
  cases text with
  | nil => simp [parts]
  | cons c rest =>
    unfold parts
    split
    · simp
    · split <;> simp

end JobWorker.Text
