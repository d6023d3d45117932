import Mathlib
import CrateHeader.Entity
import CrateHeader.Sorting

/-!
# Declaration order

Entities are sorted by their places and then by their names. Where no two have the same name, a sorted list is the
only one of its members.
-/

namespace CrateHeader

namespace Entity

/-- Where an entity stands in declaration order, instances of one declaration in the order of their making. -/
def place (e : Entity) : ℕ ×ₗ ℕ := toLex (e.index, e.seq)

/-- Entities of one place stand in the order of their names. -/
def rank (e : Entity) : (ℕ ×ₗ ℕ) ×ₗ String := toLex (e.place, e.name)

theorem before_iff (a b : Entity) : a.before b = true ↔ a.rank ≤ b.rank := by
  simp only [before, rank, place, Prod.Lex.toLex_le_toLex, Prod.Lex.toLex_lt_toLex, Bool.or_eq_true,
    Bool.and_eq_true, decide_eq_true_eq, beq_iff_eq, EmbeddingLike.apply_eq_iff_eq, Prod.mk.injEq]
  tauto

theorem name_eq_of_rank_eq {a b : Entity} (h : a.rank = b.rank) : a.name = b.name :=
  congrArg (fun r => (ofLex r).2) h

theorem rank_lt_of_place_lt {a b : Entity} (h : a.place < b.place) : a.rank < b.rank :=
  Prod.Lex.toLex_lt_toLex.2 (Or.inl h)

theorem before_total (a b : Entity) : a.before b = true ∨ b.before a = true := by
  simpa only [before_iff] using le_total a.rank b.rank

theorem before_trans (a b c : Entity) : a.before b = true → b.before c = true → a.before c = true := by
  simpa only [before_iff] using le_trans

theorem pairwise_sortBy_before (l : List Entity) :
    (sortBy before l).Pairwise fun a b => a.rank ≤ b.rank :=
  (pairwise_sortBy before_total before_trans l).imp fun h => (before_iff _ _).1 h

/-- Entities of different names have one order. -/
theorem eq_of_perm {l l' : List Entity} (hnames : (l.map (·.name)).Nodup) (hperm : l.Perm l')
    (hl : l.Pairwise fun a b => a.rank ≤ b.rank) (hl' : l'.Pairwise fun a b => a.rank ≤ b.rank) : l = l' := by
  refine List.Perm.eq_of_pairwise ?_ hl hl' hperm
  intro a b ha hb hab hba
  exact List.inj_on_of_nodup_map hnames ha (hperm.mem_iff.2 hb) (name_eq_of_rank_eq (le_antisymm hab hba))

theorem sortBy_before_eq {l sorted : List Entity} (hnames : (l.map (·.name)).Nodup) (hperm : l.Perm sorted)
    (hsorted : sorted.Pairwise fun a b => a.rank ≤ b.rank) : sortBy before l = sorted :=
  eq_of_perm (((sortBy_perm before l).map _).nodup_iff.2 hnames) ((sortBy_perm before l).trans hperm)
    (pairwise_sortBy_before l) hsorted

theorem sortBy_before_eq_of_perm {l l' : List Entity} (hnames : (l.map (·.name)).Nodup) (hperm : l.Perm l') :
    sortBy before l = sortBy before l' :=
  sortBy_before_eq hnames (hperm.trans (sortBy_perm before l').symm) (pairwise_sortBy_before l')

theorem foldl_insertBy_perm (es ready : List Entity) :
    (es.foldl (fun ready e => insertBy before e ready) ready).Perm (ready ++ es) := by
  induction es generalizing ready with
  | nil => simp
  | cons e rest ih => exact (ih _).trans (((insertBy_perm before e ready).append_right rest).trans List.perm_middle.symm)

theorem pairwise_foldl_insertBy (es : List Entity) {ready : List Entity}
    (h : ready.Pairwise fun a b => a.rank ≤ b.rank) :
    (es.foldl (fun ready e => insertBy before e ready) ready).Pairwise fun a b => a.rank ≤ b.rank := by
  induction es generalizing ready with
  | nil => exact h
  | cons e rest ih =>
    have hready : ready.Pairwise fun a b => a.before b = true := h.imp (before_iff _ _).2
    exact ih ((pairwise_insertBy before_total before_trans e hready).imp (before_iff _ _).1)

end Entity

end CrateHeader
