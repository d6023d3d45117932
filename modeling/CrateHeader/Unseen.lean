/-!
# What is left to see

A search ends because it sees one more thing with every step. How many members of a list are not among
those seen is the number that goes down.
-/

namespace CrateHeader

variable {α : Type} [BEq α]

/-- How many members of a list have not been seen. -/
def unseen (l seen : List α) : Nat := l.countP fun x => !seen.contains x

theorem unseen_cons_le (l seen : List α) (x : α) : unseen l (x :: seen) ≤ unseen l seen :=
  List.countP_mono_left (by simp)

theorem unseen_cons_lt [LawfulBEq α] {l seen : List α} {x : α} (hl : x ∈ l)
    (hs : ¬ seen.contains x = true) : unseen l (x :: seen) < unseen l seen := by
  induction l with
  | nil => simp at hl
  | cons y l ih =>
    have hle := unseen_cons_le l seen x
    simp only [unseen, List.countP_cons] at *
    by_cases hy : y = x
    · subst hy
      have hs' : y ∉ seen := by simpa using hs
      simp [hs'] at hle ⊢
      omega
    · have := ih (by simpa [Ne.symm hy] using hl)
      simp [hy] at this ⊢
      omega

end CrateHeader
