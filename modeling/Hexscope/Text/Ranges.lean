/-!
# Sets of code points as ranges

Properties of the Unicode character database are kept as sorted lists of inclusive ranges of the numbers
of code points.
-/

namespace Hexscope.Text

/-- Inclusive ranges of code points. -/
abbrev Ranges := List (Nat × Nat)

/-- Whether the number of a code point lies in one of the ranges. -/
def Ranges.contains (rs : Ranges) (n : Nat) : Bool := rs.any fun r => r.1 ≤ n && n ≤ r.2

theorem Ranges.contains_iff {rs : Ranges} {n : Nat} :
    rs.contains n = true ↔ ∃ r ∈ rs, r.1 ≤ n ∧ n ≤ r.2 := by
  simp [Ranges.contains, List.any_eq_true]

end Hexscope.Text
