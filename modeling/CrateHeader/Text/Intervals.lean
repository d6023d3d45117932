/-!
# Sets of code points

A set is a rising list of bounds `lo, hi, lo, hi, ...`, each pair standing for the code points from
`lo` up to but not including `hi`. The character classes of the sibling modules are such lists.
-/

namespace CrateHeader.Text

def inIntervals : List Nat → Nat → Bool
  | lo :: hi :: rest, n => if n < lo then false else if n < hi then true else inIntervals rest n
  | _, _ => false

@[simp] theorem inIntervals_nil (n : Nat) : inIntervals [] n = false := rfl
@[simp] theorem inIntervals_singleton (lo n : Nat) : inIntervals [lo] n = false := rfl

end CrateHeader.Text
