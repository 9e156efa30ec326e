/-!
Sets of characters given as closed ranges of code points.
-/

set_option autoImplicit false

namespace CellFlow.Text

abbrev Ranges := List (Nat × Nat)

def Ranges.has (rs : Ranges) (n : Nat) : Bool := rs.any fun r => r.1 ≤ n && n ≤ r.2

theorem Ranges.has_iff (rs : Ranges) (n : Nat) :
    rs.has n = true ↔ ∃ r ∈ rs, r.1 ≤ n ∧ n ≤ r.2 := by
  simp [Ranges.has]

end CellFlow.Text
