import CrateHeader.Sorting

/-!
# Similar texts

How much two texts have in common: their longest common run, and then what the parts in front of it and the
parts behind it have in common. Two texts are alike when what they share makes up six tenths of both.
-/

namespace CrateHeader.Text

/-- A run that two texts share: where it starts in either, and its length. -/
structure CommonRun where
  first : Nat
  second : Nat
  length : Nat

/-- The length of the common front of two texts. -/
def commonFront : List Char → List Char → Nat
  | a :: as, b :: bs => if a = b then commonFront as bs + 1 else 0
  | _, _ => 0

/-- The longest of some runs, the first of several. -/
def longest (best : CommonRun) : List CommonRun → CommonRun
  | [] => best
  | r :: rest => longest (if best.length < r.length then r else best) rest

/-- All common runs, from left to right in the first text and then in the second. -/
def commonRuns (a b : List Char) : List CommonRun :=
  (List.range a.length).flatMap fun i => (List.range b.length).map fun j =>
    ⟨i, j, commonFront (a.drop i) (b.drop j)⟩

/-- How many characters two texts share in order. -/
def shared (a b : List Char) : Nat :=
  let run := longest ⟨0, 0, 0⟩ (commonRuns a b)
  if _h : 0 < run.length ∧ run.first + run.length ≤ a.length then
    run.length + shared (a.take run.first) (b.take run.second) +
      shared (a.drop (run.first + run.length)) (b.drop (run.second + run.length))
  else 0
termination_by a.length
decreasing_by
  all_goals
    simp +zetaDelta at _h ⊢
    omega

/-- Do two texts share at least six tenths? -/
def isAlike (a b : String) : Bool :=
  let (a, b) := (a.toList, b.toList)
  6 * (a.length + b.length) ≤ 20 * shared a b

/-- The texts among some that are alike to one, in order, three at most. -/
def alike (choices : List String) (word : String) : List String :=
  let close := choices.filter (isAlike · word)
  let score (s : String) : Nat × Nat := (shared s.toList word.toList, s.length + word.length)
  let closer (a b : String) : Bool :=
    let ((m, n), (m', n')) := (score a, score b)
    m' * n < m * n' || (m' * n == m * n' && decide (b ≤ a))
  sortTexts ((sortBy closer close).take 3)

end CrateHeader.Text
