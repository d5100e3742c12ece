/-
PlanScript.Text.Ranges — sets of characters given as ranges of code points.

The character classes of the Unicode standard are tables of ranges in
increasing order. `Ranges.has` walks such a table and stops at the first
range that lies above the code point, so a look-up needs the table sorted.
-/
namespace PlanScript

/-- Ranges of code points, both ends included, in increasing order. -/
abbrev Ranges := List (Nat × Nat)

/-- Whether a code point lies in one of the ranges. -/
def Ranges.has (n : Nat) : Ranges → Bool
  | [] => false
  | (low, high) :: rest => if n < low then false else n ≤ high || has n rest

end PlanScript
