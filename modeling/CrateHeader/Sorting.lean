/-!
# Sorting by insertion

Stable sorts that compute by plain recursion. The result is a rearrangement of the list, and it is in order
when the comparison is total and transitive. Where members do not all compare, the way in which a sort looks
for the place of a member decides; one of the sorts here looks from the front, the other halves what is left.
-/

namespace CrateHeader

variable {α : Type}

def insertBy (le : α → α → Bool) (x : α) : List α → List α
  | [] => [x]
  | y :: rest => if le x y then x :: y :: rest else y :: insertBy le x rest

def sortBy (le : α → α → Bool) : List α → List α
  | [] => []
  | x :: rest => insertBy le x (sortBy le rest)

theorem insertBy_perm (le : α → α → Bool) (x : α) (l : List α) :
    (insertBy le x l).Perm (x :: l) := by
  induction l with
  | nil => exact .refl _
  | cons y rest ih =>
    unfold insertBy
    split
    · exact .refl _
    · exact (ih.cons y).trans (.swap x y rest)

theorem sortBy_perm (le : α → α → Bool) (l : List α) : (sortBy le l).Perm l := by
  induction l with
  | nil => exact .refl _
  | cons x rest ih => exact (insertBy_perm le x _).trans (ih.cons x)

@[simp] theorem mem_sortBy {le : α → α → Bool} {x : α} {l : List α} :
    x ∈ sortBy le l ↔ x ∈ l := (sortBy_perm le l).mem_iff

@[simp] theorem length_sortBy (le : α → α → Bool) (l : List α) :
    (sortBy le l).length = l.length := (sortBy_perm le l).length_eq

theorem pairwise_insertBy {le : α → α → Bool} (htotal : ∀ a b, le a b = true ∨ le b a = true)
    (htrans : ∀ a b c, le a b = true → le b c = true → le a c = true) (x : α) {l : List α}
    (hl : l.Pairwise fun a b => le a b = true) : (insertBy le x l).Pairwise fun a b => le a b = true := by
  induction l with
  | nil => simp [insertBy]
  | cons y rest ih =>
    obtain ⟨hy, hrest⟩ := List.pairwise_cons.1 hl
    unfold insertBy
    split
    · next hxy =>
      refine List.pairwise_cons.2 ⟨fun z hz => ?_, hl⟩
      rcases List.mem_cons.1 hz with rfl | hz
      · exact hxy
      · exact htrans x y z hxy (hy z hz)
    · next hxy =>
      refine List.pairwise_cons.2 ⟨fun z hz => ?_, ih hrest⟩
      rcases List.mem_cons.1 ((insertBy_perm le x rest).mem_iff.1 hz) with rfl | hz
      · exact (htotal z y).resolve_left hxy
      · exact hy z hz

theorem pairwise_sortBy {le : α → α → Bool} (htotal : ∀ a b, le a b = true ∨ le b a = true)
    (htrans : ∀ a b c, le a b = true → le b c = true → le a c = true) (l : List α) :
    (sortBy le l).Pairwise fun a b => le a b = true := by
  induction l with
  | nil => exact .nil
  | cons x rest ih => exact pairwise_insertBy htotal htrans x ih

theorem map_insertBy {β : Type} {f : α → β} {le : α → α → Bool} {le' : β → β → Bool}
    (h : ∀ a b, le' (f a) (f b) = le a b) (x : α) (l : List α) :
    (insertBy le x l).map f = insertBy le' (f x) (l.map f) := by
  induction l with
  | nil => rfl
  | cons y rest ih =>
    simp only [insertBy, List.map_cons, h]
    split
    · rfl
    · rw [List.map_cons, ih]

/-- Sorting what compares in the same way gives the same order. -/
theorem map_sortBy {β : Type} {f : α → β} {le : α → α → Bool} {le' : β → β → Bool}
    (h : ∀ a b, le' (f a) (f b) = le a b) (l : List α) : (sortBy le l).map f = sortBy le' (l.map f) := by
  induction l with
  | nil => rfl
  | cons x rest ih => rw [sortBy, map_insertBy h, ih, List.map_cons, sortBy]

/-- A list in the order of the numbers of its members. -/
def sortOn (key : α → Nat) (l : List α) : List α :=
  (sortBy (fun a b => decide (a.1 ≤ b.1)) (l.map fun x => (key x, x))).map Prod.snd

theorem sortOn_perm (key : α → Nat) (l : List α) : (sortOn key l).Perm l := by
  simpa [sortOn, Function.comp_def] using
    (sortBy_perm (fun a b : Nat × α => decide (a.1 ≤ b.1)) (l.map fun x => (key x, x))).map Prod.snd

@[simp] theorem mem_sortOn {key : α → Nat} {x : α} {l : List α} : x ∈ sortOn key l ↔ x ∈ l :=
  (sortOn_perm key l).mem_iff

theorem pairwise_sortOn (key : α → Nat) (l : List α) :
    (sortOn key l).Pairwise fun a b => key a ≤ key b := by
  have hsorted : (sortBy (fun a b : Nat × α => decide (a.1 ≤ b.1)) (l.map fun x => (key x, x))).Pairwise
      fun a b => decide (a.1 ≤ b.1) = true :=
    pairwise_sortBy (fun a b => by simpa using Nat.le_total a.1 b.1)
      (fun a b c => by simpa using Nat.le_trans) _
  refine List.pairwise_map.2 (hsorted.imp_of_mem fun {a b} ha hb hab => ?_)
  obtain ⟨x, _, rfl⟩ := List.mem_map.1 (mem_sortBy.1 ha)
  obtain ⟨y, _, rfl⟩ := List.mem_map.1 (mem_sortBy.1 hb)
  exact of_decide_eq_true hab

/-! ### Halving -/

/-- The place between two others of a new member in a row, by comparisons with the middle of what is left. -/
def placeBetween (less : α → α → Bool) (x : α) (row : List α) (lo hi : Nat) : Nat :=
  if lo < hi then
    match row[(lo + hi) / 2]? with
    | some y =>
      if less x y then placeBetween less x row lo ((lo + hi) / 2)
      else placeBetween less x row ((lo + hi) / 2 + 1) hi
    | none => lo
  else lo
termination_by hi - lo

def insertByHalving (less : α → α → Bool) (row : List α) (x : α) : List α :=
  let place := placeBetween less x row 0 row.length
  row.take place ++ x :: row.drop place

theorem insertByHalving_perm (less : α → α → Bool) (row : List α) (x : α) :
    (insertByHalving less row x).Perm (x :: row) := by
  unfold insertByHalving
  exact List.perm_middle.trans (.of_eq (by rw [List.take_append_drop]))

/-- How far a list goes on, each member compared with the one before, and the rest of it. -/
def goOn (follows : α → α → Bool) (last : α) : List α → List α × List α
  | [] => ([], [])
  | y :: rest =>
    if follows last y then
      let (front, left) := goOn follows y rest
      (y :: front, left)
    else ([], y :: rest)

theorem goOn_append (follows : α → α → Bool) (last : α) (l : List α) :
    (goOn follows last l).1 ++ (goOn follows last l).2 = l := by
  induction l generalizing last with
  | nil => rfl
  | cons y rest ih =>
    unfold goOn
    split
    · simp [ih]
    · rfl

/-- Puts the members one by one in their places, in a row that starts with as many members as are in order
at the front, or in the opposite of it. -/
def sortByHalving (less : α → α → Bool) : List α → List α
  | [] => []
  | x :: rest =>
    if rest.head?.any fun y => less y x then
      let (front, left) := goOn (fun a b => less b a) x rest
      left.foldl (insertByHalving less) (x :: front).reverse
    else
      let (front, left) := goOn (fun a b => !less b a) x rest
      left.foldl (insertByHalving less) (x :: front)

theorem foldl_insertByHalving_perm (less : α → α → Bool) (row l : List α) :
    (l.foldl (insertByHalving less) row).Perm (row ++ l) := by
  induction l generalizing row with
  | nil => simp
  | cons x rest ih =>
    exact (ih _).trans (((insertByHalving_perm less row x).append_right rest).trans
      List.perm_middle.symm)

theorem sortByHalving_perm (less : α → α → Bool) (l : List α) : (sortByHalving less l).Perm l := by
  cases l with
  | nil => exact .refl _
  | cons x rest =>
    simp only [sortByHalving]
    split
    · refine (foldl_insertByHalving_perm less _ _).trans ?_
      refine ((List.reverse_perm _).append_right _).trans (.of_eq ?_)
      rw [List.cons_append, goOn_append]
    · refine (foldl_insertByHalving_perm less _ _).trans (.of_eq ?_)
      rw [List.cons_append, goOn_append]

/-! ### Texts, and members without their repetitions -/

/-- Texts in the order of their characters. -/
def sortTexts (l : List String) : List String := sortBy (fun a b => decide (a ≤ b)) l

/-- The members of a list that are not among those seen, in the order of their first occurrence. -/
def distinctFrom [BEq α] (seen : List α) : List α → List α
  | [] => []
  | x :: rest =>
    if seen.contains x then distinctFrom seen rest else x :: distinctFrom (x :: seen) rest

/-- The members of a list in the order of their first occurrence. -/
def distinct [BEq α] (l : List α) : List α := distinctFrom [] l

theorem mem_distinctFrom [BEq α] [LawfulBEq α] {seen l : List α} {x : α} :
    x ∈ distinctFrom seen l ↔ x ∈ l ∧ x ∉ seen := by
  induction l generalizing seen with
  | nil => simp [distinctFrom]
  | cons y rest ih =>
    by_cases hy : y ∈ seen
    · have : x ∉ seen → x ≠ y := by rintro hx rfl; exact hx hy
      simp only [distinctFrom, List.contains_iff_mem, hy, if_true, ih, List.mem_cons]
      grind
    · by_cases hxy : x = y
      · subst hxy; simp [distinctFrom, hy]
      · simp [distinctFrom, hy, ih, hxy]

theorem nodup_distinctFrom [BEq α] [LawfulBEq α] (seen l : List α) : (distinctFrom seen l).Nodup := by
  induction l generalizing seen with
  | nil => simp [distinctFrom]
  | cons y rest ih =>
    by_cases hy : y ∈ seen
    · simpa [distinctFrom, hy] using ih seen
    · simpa [distinctFrom, hy, mem_distinctFrom] using ih (y :: seen)

@[simp] theorem mem_distinct [BEq α] [LawfulBEq α] {l : List α} {x : α} : x ∈ distinct l ↔ x ∈ l := by
  simp [distinct, mem_distinctFrom]

theorem distinctFrom_eq_self [BEq α] [LawfulBEq α] {seen l : List α} (hl : l.Nodup)
    (hseen : ∀ x ∈ l, x ∉ seen) : distinctFrom seen l = l := by
  induction l generalizing seen with
  | nil => rfl
  | cons y rest ih =>
    obtain ⟨hy, hrest⟩ := List.nodup_cons.1 hl
    rw [distinctFrom, if_neg (by simpa using hseen y List.mem_cons_self), ih hrest]
    intro x hx
    rw [List.mem_cons, not_or]
    exact ⟨fun h => hy (h ▸ hx), hseen x (List.mem_cons_of_mem _ hx)⟩

theorem distinct_eq_self [BEq α] [LawfulBEq α] {l : List α} (hl : l.Nodup) : distinct l = l :=
  distinctFrom_eq_self hl (by simp)

theorem nodup_distinct [BEq α] [LawfulBEq α] (l : List α) : (distinct l).Nodup :=
  nodup_distinctFrom [] l

section firstOccurrences

variable [BEq α] [LawfulBEq α] {seen seen' l l' : List α} {x : α}

theorem distinctFrom_congr (h : ∀ x, x ∈ seen ↔ x ∈ seen') : distinctFrom seen l = distinctFrom seen' l := by
  induction l generalizing seen seen' with
  | nil => rfl
  | cons y rest ih =>
    have hy : seen.contains y = seen'.contains y := by rw [Bool.eq_iff_iff]; simp [h]
    have hcons : ∀ x, x ∈ y :: seen ↔ x ∈ y :: seen' := fun x => by rw [List.mem_cons, List.mem_cons, h]
    rw [distinctFrom, distinctFrom, hy, ih h, ih hcons]

theorem distinctFrom_append (seen l l' : List α) :
    distinctFrom seen (l ++ l') = distinctFrom seen l ++ distinctFrom (seen ++ l) l' := by
  induction l generalizing seen with
  | nil => rw [List.append_nil]; rfl
  | cons y rest ih =>
    by_cases hy : y ∈ seen
    · rw [List.cons_append, distinctFrom, distinctFrom, if_pos (by simpa), if_pos (by simpa), ih]
      refine congrArg _ (distinctFrom_congr fun x => ?_)
      simp only [List.mem_append, List.mem_cons]
      grind
    · rw [List.cons_append, distinctFrom, distinctFrom, if_neg (by simpa), if_neg (by simpa), ih, List.cons_append]
      refine congrArg _ (congrArg _ (distinctFrom_congr fun x => ?_))
      simp only [List.mem_append, List.mem_cons]
      grind

theorem distinct_append_of_subset (h : l' ⊆ l) : distinct (l ++ l') = distinct l := by
  have hnone : distinctFrom ([] ++ l) l' = [] :=
    List.eq_nil_iff_forall_not_mem.2 fun x hx => (mem_distinctFrom.1 hx).2 (h (mem_distinctFrom.1 hx).1)
  rw [distinct, distinctFrom_append, hnone, List.append_nil, distinct]

theorem distinct_concat (h : x ∉ l) : distinct (l ++ [x]) = distinct l ++ [x] := by
  rw [distinct, distinctFrom_append, distinctFrom, if_neg (by simpa), distinctFrom, distinct]

/-- What stands in front of the first occurrence of a member is among what is left of it. -/
theorem distinctFrom_split {front back : List α} (h : distinctFrom seen l = front ++ x :: back) :
    ∃ front' back', l = front' ++ x :: back' ∧ ∀ y ∈ front', y ∈ seen ∨ y ∈ front := by
  induction l generalizing seen front with
  | nil => simp [distinctFrom] at h
  | cons z rest ih =>
    rw [distinctFrom] at h
    split at h
    · next hz =>
      obtain ⟨front', back', rfl, hmem⟩ := ih h
      exact ⟨z :: front', back', rfl, List.forall_mem_cons.2 ⟨.inl (by simpa using hz), hmem⟩⟩
    · cases front with
      | nil => exact ⟨[], rest, by rw [(List.cons.inj h).1]; rfl, by simp⟩
      | cons y front =>
        obtain ⟨rfl, hrest⟩ := List.cons.inj h
        obtain ⟨front', back', rfl, hmem⟩ := ih hrest
        refine ⟨z :: front', back', rfl, List.forall_mem_cons.2 ⟨.inr List.mem_cons_self, fun y hy => ?_⟩⟩
        rcases hmem y hy with hseen | hfront
        · exact (List.mem_cons.1 hseen).elim (fun heq => .inr (heq ▸ List.mem_cons_self)) .inl
        · exact .inr (List.mem_cons_of_mem _ hfront)

end firstOccurrences

end CrateHeader
