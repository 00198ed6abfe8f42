/-
Sets of characters given by runs of code points.

Properties of characters are data of a standard, not something to be computed, so they are
kept as lists of runs: each run is its first and its last code point.
-/

namespace JobWorker.Text

/-- Runs of code points, each with its first and its last member. -/
abbrev Ranges := List (Nat × Nat)

/-- Whether a character lies in one of the runs. -/
def Ranges.has (runs : Ranges) (c : Char) : Bool :=
  runs.any fun run => run.1 ≤ c.toNat && c.toNat ≤ run.2

theorem Ranges.has_iff {runs : Ranges} {c : Char} :
    runs.has c = true ↔ ∃ run ∈ runs, run.1 ≤ c.toNat ∧ c.toNat ≤ run.2 := by
  simp [Ranges.has]

end JobWorker.Text
