/-!
# Sets of characters given by ranges of code points

The properties that decide how text is trimmed and quoted are published as ranges of code
points, so a character set is held as the list of those ranges.
-/
namespace WorkloadScaling.Text

/-- A set of characters: the first and the last code point of each of its runs. -/
abbrev Ranges := List (Nat × Nat)

def Ranges.contains (runs : Ranges) (c : Char) : Bool :=
  runs.any fun (first, last) => decide (first ≤ c.toNat) && decide (c.toNat ≤ last)

theorem Ranges.contains_iff {runs : Ranges} {c : Char} :
    runs.contains c = true ↔ ∃ run ∈ runs, run.1 ≤ c.toNat ∧ c.toNat ≤ run.2 := by
  simp [Ranges.contains]

end WorkloadScaling.Text
