/-!
# Tables of code points

A property of characters is kept as a list of closed ranges of code points.
-/

namespace StatusLookup.Text

/-- Closed ranges of code points. -/
abbrev Ranges := List (Nat × Nat)

def Ranges.contains (table : Ranges) (n : Nat) : Bool :=
  table.any fun range => range.1 ≤ n && n ≤ range.2

theorem Ranges.contains_eq_true {table : Ranges} {n : Nat} :
    table.contains n = true ↔ ∃ range ∈ table, range.1 ≤ n ∧ n ≤ range.2 := by
  simp [Ranges.contains]

end StatusLookup.Text
