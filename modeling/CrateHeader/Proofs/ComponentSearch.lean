import CrateHeader.Dependency.Cycles
import Mathlib.Logic.Relation
import Mathlib.Data.List.Nodup
import Mathlib.Data.List.Pairwise
import Mathlib.Order.Nat
import Mathlib.Tactic.Common

/-!
# What the search finds are the components

The stack holds the nodes whose component is not known, and the visits on the way are some of them. Numbers
fall from the top of the stack to its foot, a node reaches all that stand above it, and every node of the
stack reaches a visit at or below it. Each step of the search keeps this, and with it what the least numbers
mean: the one of a visit is that of some node that the visit reaches, and no step between nodes of the stack
that has been looked at leads below the least number of the visit around it. So when a visit ends with its own
number, no step leads out of what stands on the stack down to it, other than to components that are known.
-/

namespace CrateHeader.Graph

open Relation (ReflTransGen)

variable {g : Graph} {a b : String} {v p : Visit} {way outer : List Visit} {s : Search}

/-- One step of a graph: to a successor that is a node. -/
def Step (g : Graph) (a b : String) : Prop := b ∈ g.successors a ∧ b ∈ g.nodes

/-- Can a node be reached from another by steps, or is it that node? -/
def Reach (g : Graph) (a b : String) : Prop := ReflTransGen g.Step a b

/-- A strongly connected component: nodes that can be reached from each other, and all of them. -/
structure IsComponent (g : Graph) (c : List String) : Prop where
  nonempty : c ≠ []
  nodes : c ⊆ g.nodes
  mem_iff : ∀ a ∈ c, ∀ b, b ∈ c ↔ g.Reach a b ∧ g.Reach b a

theorem Reach.trans {a b c : String} (h : g.Reach a b) (h' : g.Reach b c) : g.Reach a c :=
  ReflTransGen.trans h h'

/-- What steps do not lead out of holds of all that can be reached. -/
theorem Reach.preserves {p : String → Prop} (hp : ∀ a b, p a → g.Step a b → p b) (h : g.Reach a b)
    (ha : p a) : p b := by
  induction h with
  | refl => exact ha
  | tail _ hstep ih => exact hp _ _ ih hstep

/-! ### What holds between two steps of the search -/

namespace Visit

def entry (v : Visit) : String × Nat := (v.node, v.number)

/-- Is a visit the innermost of those at or below a number? -/
def IsAround (v : Visit) (way : List Visit) (number : Nat) : Prop :=
  v.number ≤ number ∧ ∀ n ∈ way.map Visit.number, n ≤ number → n ≤ v.number

end Visit

namespace Search

def names (s : Search) : List String := s.stack.map Prod.fst

theorem popTo_append {node : String} {number : Nat} {above below : List (String × Nat)}
    (h : node ∉ above.map Prod.fst) :
    popTo node (above ++ (node, number) :: below) = (above.map Prod.fst ++ [node], below) := by
  induction above with
  | nil => simp [popTo]
  | cons entry above ih =>
    rw [List.map_cons, List.mem_cons, not_or] at h
    simp [popTo, Ne.symm h.1, ih h.2]

/-- The nodes on the stack from a number on. -/
def part (s : Search) (number : Nat) : List String :=
  (s.stack.filter fun entry => decide (number ≤ entry.2)).map Prod.fst

/-- The stack below a number. -/
def below (s : Search) (number : Nat) : List (String × Nat) :=
  s.stack.filter fun entry => decide (entry.2 < number)

theorem mem_part {number : Nat} : a ∈ s.part number ↔ ∃ n, (a, n) ∈ s.stack ∧ number ≤ n := by
  simp [part]

theorem mem_below {number : Nat} {entry : String × Nat} :
    entry ∈ s.below number ↔ entry ∈ s.stack ∧ entry.2 < number := by
  simp [below]

theorem part_subset_names (s : Search) (number : Nat) : s.part number ⊆ s.names := by
  intro a ha
  obtain ⟨n, hmem, _⟩ := mem_part.1 ha
  exact List.mem_map_of_mem hmem

end Search

structure Inv (g : Graph) (way : List Visit) (s : Search) : Prop where
  found : ∀ a ∈ s.found, a ∈ g.nodes
  names : s.names.Nodup
  numbered : ∀ a ∈ s.stack, a.1 ∈ s.found ∧ a.2 < s.found.length
  falling : s.stack.Pairwise fun a b => b.2 < a.2 ∧ g.Reach b.1 a.1
  entries : (way.map Visit.entry).Sublist s.stack
  lefts : ∀ v ∈ way, v.left ⊆ g.successors v.node
  /-- No step leads from a component that is known to a node that has none. -/
  closed : ∀ a ∈ s.found, a ∉ s.names → ∀ b, g.Step a b → b ∈ s.found ∧ b ∉ s.names
  scanned : ∀ a ∈ s.names, ∀ b, g.Step a b → b ∈ s.found ∨ ∃ v ∈ way, v.node = a ∧ b ∈ v.left
  back : ∀ a ∈ s.stack, ∃ v ∈ way, v.number ≤ a.2 ∧ g.Reach a.1 v.node
  low_le : ∀ v ∈ way, v.low ≤ v.number
  low_reached : ∀ v ∈ way, ∃ b ∈ s.stack, b.2 = v.low ∧ g.Reach v.node b.1
  low_least : ∀ v ∈ way, ∀ a ∈ s.stack, v.IsAround way a.2 → ∀ b ∈ s.stack, g.Step a.1 b.1 →
    v.low ≤ b.2 ∨ a.1 = v.node ∧ b.1 ∈ v.left
  components : ∀ c ∈ s.components, g.IsComponent c ∧ c.Nodup ∧ ∀ a ∈ c, a ∈ s.found ∧ a ∉ s.names
  apart : s.components.Pairwise List.Disjoint
  covered : ∀ a ∈ s.found, a ∉ s.names → ∃ c ∈ s.components, a ∈ c

namespace Inv

theorem initial (g : Graph) : Inv g [] ⟨[], [], []⟩ := by
  constructor <;> simp [Search.names]

theorem entry_mem (h : Inv g way s) (hv : v ∈ way) : v.entry ∈ s.stack :=
  h.entries.subset (List.mem_map_of_mem hv)

theorem names_subset (h : Inv g way s) : s.names ⊆ s.found := by
  intro a ha
  obtain ⟨entry, hentry, rfl⟩ := List.mem_map.1 ha
  exact (h.numbered entry hentry).1

theorem entry_eq (h : Inv g way s) {a b : String × Nat} (ha : a ∈ s.stack) (hb : b ∈ s.stack)
    (hab : a.1 = b.1) : a = b :=
  List.inj_on_of_nodup_map h.names ha hb hab

theorem lookup_eq_some_iff (h : Inv g way s) {number : Nat} :
    s.stack.lookup a = some number ↔ (a, number) ∈ s.stack := by
  rw [List.lookup_eq_some_iff]
  constructor
  · rintro ⟨above, below, hstack, _⟩
    simp [hstack]
  · intro hmem
    obtain ⟨above, below, hstack⟩ := List.append_of_mem hmem
    refine ⟨above, below, hstack, fun entry hentry => ?_⟩
    have hnames := h.names
    rw [Search.names, hstack, List.map_append, List.map_cons, List.nodup_append] at hnames
    simpa using Ne.symm (hnames.2.2 entry.1 (List.mem_map_of_mem hentry) a List.mem_cons_self)

/-- A node of the stack reaches all that stand above it. -/
theorem reach_of_le (h : Inv g way s) {a b : String × Nat} (ha : a ∈ s.stack) (hb : b ∈ s.stack)
    (hab : a.2 ≤ b.2) : g.Reach a.1 b.1 := by
  let Up (a b : String × Nat) : Prop := (a.2 ≤ b.2 → g.Reach a.1 b.1) ∧ (b.2 ≤ a.2 → g.Reach b.1 a.1)
  have hup : s.stack.Pairwise Up := h.falling.imp fun hfall =>
    ⟨fun hle => absurd hfall.1 (by omega), fun _ => hfall.2⟩
  have : Std.Symm Up := ⟨fun _ _ h => And.symm h⟩
  have hself : ∀ a ∈ s.stack, Up a a := fun _ _ => ⟨fun _ => .refl, fun _ => .refl⟩
  exact (hup.forall_of_forall hself ha hb).1 hab

theorem visits_falling (h : Inv g way s) :
    way.Pairwise fun v w => w.number < v.number ∧ g.Reach w.node v.node :=
  List.pairwise_map.1 (h.falling.sublist h.entries)

theorem outer_lt (h : Inv g (v :: outer) s) (hp : p ∈ outer) : p.number < v.number :=
  ((List.pairwise_cons.1 h.visits_falling).1 p hp).1

theorem number_le (h : Inv g (v :: outer) s) (hp : p ∈ v :: outer) : p.number ≤ v.number := by
  rcases List.mem_cons.1 hp with rfl | hp
  · exact le_rfl
  · exact (h.outer_lt hp).le

theorem isAround_top (h : Inv g (v :: outer) s) {number : Nat} (hle : v.number ≤ number) :
    v.IsAround (v :: outer) number := by
  refine ⟨hle, fun n hn _ => ?_⟩
  obtain ⟨w, hw, rfl⟩ := List.mem_map.1 hn
  exact h.number_le hw

/-- Every node of the stack reaches the innermost visit. -/
theorem reach_top (h : Inv g (v :: outer) s) {a : String × Nat} (ha : a ∈ s.stack) :
    g.Reach a.1 v.node := by
  obtain ⟨w, hw, _, hreach⟩ := h.back a ha
  exact hreach.trans (h.reach_of_le (h.entry_mem hw) (h.entry_mem List.mem_cons_self) (h.number_le hw))

/-! ### A node is found -/

theorem enter (h : Inv g way s) (hnode : a ∈ g.nodes) (hnew : a ∉ s.found)
    (hreach : ∀ b ∈ s.stack, g.Reach b.1 a) : Inv g (g.visit s a :: way) (s.push a) := by
  have hnames : a ∉ s.names := fun ha => hnew (h.names_subset ha)
  have hpushed : (s.push a).names = a :: s.names := rfl
  constructor
  case found => simpa [Search.push, hnode] using h.found
  case names => exact List.nodup_cons.2 ⟨hnames, h.names⟩
  case numbered =>
    intro b hb
    rcases List.mem_cons.1 hb with rfl | hb
    · simp [Search.push]
    · have := h.numbered b hb
      simp only [Search.push, List.mem_cons, List.length_cons]
      exact ⟨Or.inr this.1, by omega⟩
  case falling =>
    exact List.pairwise_cons.2 ⟨fun b hb => ⟨(h.numbered b hb).2, hreach b hb⟩, h.falling⟩
  case entries => exact h.entries.cons_cons _
  case lefts => exact List.forall_mem_cons.2 ⟨List.Subset.refl _, h.lefts⟩
  case closed =>
    intro x hx hxnames y hxy
    rw [hpushed, List.mem_cons, not_or] at hxnames
    obtain ⟨hy, hynames⟩ := h.closed x ((List.mem_cons.1 hx).resolve_left hxnames.1) hxnames.2 y hxy
    refine ⟨List.mem_cons_of_mem _ hy, fun hmem => ?_⟩
    rcases List.mem_cons.1 (hpushed ▸ hmem) with rfl | hmem
    · exact hnew hy
    · exact hynames hmem
  case scanned =>
    intro x hx y hxy
    rcases List.mem_cons.1 (hpushed ▸ hx) with rfl | hx
    · exact Or.inr ⟨g.visit s x, List.mem_cons_self, rfl, hxy.1⟩
    · rcases h.scanned x hx y hxy with hy | ⟨w, hw, hleft⟩
      · exact Or.inl (List.mem_cons_of_mem _ hy)
      · exact Or.inr ⟨w, List.mem_cons_of_mem _ hw, hleft⟩
  case back =>
    intro x hx
    rcases List.mem_cons.1 hx with rfl | hx
    · exact ⟨g.visit s a, List.mem_cons_self, le_rfl, .refl⟩
    · obtain ⟨w, hw, hback⟩ := h.back x hx
      exact ⟨w, List.mem_cons_of_mem _ hw, hback⟩
  case low_le => exact List.forall_mem_cons.2 ⟨le_rfl, h.low_le⟩
  case low_reached =>
    refine List.forall_mem_cons.2 ⟨⟨(a, s.found.length), List.mem_cons_self, rfl, .refl⟩, fun w hw => ?_⟩
    obtain ⟨b, hb, hlow⟩ := h.low_reached w hw
    exact ⟨b, List.mem_cons_of_mem _ hb, hlow⟩
  case low_least =>
    intro w hw x hx haround y hy hxy
    rcases List.mem_cons.1 hw with rfl | hw
    · -- only the new node stands at or above the new visit
      rcases List.mem_cons.1 hx with rfl | hx
      · exact Or.inr ⟨rfl, hxy.1⟩
      · exact absurd haround.1 (Nat.not_le.2 (h.numbered x hx).2)
    · have hlt := (h.numbered _ (h.entry_mem hw)).2
      simp only [Visit.entry] at hlt
      have hx : x ∈ s.stack := by
        rcases List.mem_cons.1 hx with rfl | hx
        · exact absurd (haround.2 s.found.length (by simp [visit]) le_rfl) (by omega)
        · exact hx
      rcases List.mem_cons.1 hy with rfl | hy
      · exact Or.inl ((h.low_le w hw).trans hlt.le)
      · exact h.low_least w hw x hx ⟨haround.1, fun n hn => haround.2 n (by simp [hn])⟩ y hy hxy
  case components =>
    intro c hc
    obtain ⟨hcomponent, hnodup, hmembers⟩ := h.components c hc
    refine ⟨hcomponent, hnodup, fun x hx => ⟨List.mem_cons_of_mem _ (hmembers x hx).1, fun hmem => ?_⟩⟩
    rcases List.mem_cons.1 (hpushed ▸ hmem) with rfl | hmem
    · exact hnew (hmembers x hx).1
    · exact (hmembers x hx).2 hmem
  case apart => exact h.apart
  case covered =>
    intro x hx hxnames
    rw [hpushed, List.mem_cons, not_or] at hxnames
    exact h.covered x ((List.mem_cons.1 hx).resolve_left hxnames.1) hxnames.2

/-! ### A step is looked at -/

/-- A visit on the way looks at a step to a node that is found, or that is no node, and takes its number into
account if it has no component. -/
theorem look (inner : List Visit) {node target : String} {number low low' : Nat} {left : List String}
    (h : Inv g (inner ++ ⟨node, number, low, target :: left⟩ :: outer) s)
    (hfound : target ∈ g.nodes → target ∈ s.found) (hle : low' ≤ low)
    (hreached : ∃ b ∈ s.stack, b.2 = low' ∧ g.Reach node b.1)
    (hleast : ∀ b ∈ s.stack, b.1 = target → low' ≤ b.2) :
    Inv g (inner ++ ⟨node, number, low', left⟩ :: outer) s := by
  have hmem : ∀ w, w ∈ inner ++ ⟨node, number, low', left⟩ :: outer →
      w = ⟨node, number, low', left⟩ ∨ w ∈ inner ++ ⟨node, number, low, target :: left⟩ :: outer := by
    simp only [List.mem_append, List.mem_cons]
    tauto
  have hmem' : ∀ w, w ∈ inner ++ ⟨node, number, low, target :: left⟩ :: outer →
      w = ⟨node, number, low, target :: left⟩ ∨ w ∈ inner ++ ⟨node, number, low', left⟩ :: outer := by
    simp only [List.mem_append, List.mem_cons]
    tauto
  have hold : (⟨node, number, low, target :: left⟩ : Visit) ∈
      inner ++ ⟨node, number, low, target :: left⟩ :: outer := by simp
  have hnew : (⟨node, number, low', left⟩ : Visit) ∈ inner ++ ⟨node, number, low', left⟩ :: outer := by simp
  refine { h with
    entries := ?entries, lefts := ?lefts, scanned := ?scanned, back := ?back
    low_le := ?low_le, low_reached := ?low_reached, low_least := ?low_least }
  case entries => simpa [Visit.entry] using h.entries
  case lefts =>
    intro w hw
    rcases hmem w hw with rfl | hw
    · exact List.Subset.trans (List.subset_cons_self _ _) (h.lefts _ hold)
    · exact h.lefts w hw
  case scanned =>
    intro x hx y hxy
    rcases h.scanned x hx y hxy with hy | ⟨w, hw, hwx, hwy⟩
    · exact Or.inl hy
    rcases hmem' w hw with rfl | hw
    · rcases List.mem_cons.1 hwy with rfl | hwy
      · exact Or.inl (hfound hxy.2)
      · exact Or.inr ⟨_, hnew, hwx, hwy⟩
    · exact Or.inr ⟨w, hw, hwx, hwy⟩
  case back =>
    intro x hx
    obtain ⟨w, hw, hback⟩ := h.back x hx
    rcases hmem' w hw with rfl | hw
    · exact ⟨_, hnew, hback⟩
    · exact ⟨w, hw, hback⟩
  case low_le =>
    intro w hw
    rcases hmem w hw with rfl | hw
    · exact hle.trans (h.low_le _ hold)
    · exact h.low_le w hw
  case low_reached =>
    intro w hw
    rcases hmem w hw with rfl | hw
    · exact hreached
    · exact h.low_reached w hw
  case low_least =>
    intro w hw x hx haround y hy hxy
    have haround' : w.IsAround (inner ++ ⟨node, number, low, target :: left⟩ :: outer) x.2 := by
      simpa [Visit.IsAround] using haround
    rcases hmem w hw with rfl | hw
    · rcases h.low_least _ hold x hx haround' y hy hxy with hlow | ⟨hxnode, hyleft⟩
      · exact Or.inl (hle.trans hlow)
      · rcases List.mem_cons.1 hyleft with hyt | hyleft
        · exact Or.inl (hleast y hy hyt)
        · exact Or.inr ⟨hxnode, hyleft⟩
    · exact h.low_least w hw x hx haround' y hy hxy

/-- A visit goes on to a node that is new. -/
theorem descend {node target : String} {number low : Nat} {left : List String}
    (h : Inv g (⟨node, number, low, target :: left⟩ :: outer) s) (hnode : target ∈ g.nodes)
    (hnew : target ∉ s.found) :
    Inv g (g.visit s target :: ⟨node, number, low, left⟩ :: outer) (s.push target) := by
  have hstep : target ∈ g.successors node := h.lefts _ List.mem_cons_self List.mem_cons_self
  have hentered := h.enter hnode hnew fun b hb => (h.reach_top hb).tail ⟨hstep, hnode⟩
  refine hentered.look [g.visit s target] (fun _ => List.mem_cons_self) le_rfl
    (hentered.low_reached ⟨node, number, low, target :: left⟩ (by simp)) fun b hb hbt => ?_
  have hlow : low ≤ number := h.low_le _ List.mem_cons_self
  have hnumber : number < s.found.length := (h.numbered _ (h.entry_mem List.mem_cons_self)).2
  rw [hentered.entry_eq hb List.mem_cons_self hbt]
  exact hlow.trans hnumber.le

/-- A visit meets a node that is not new. -/
theorem meet {node target : String} {number low : Nat} {left : List String}
    (h : Inv g (⟨node, number, low, target :: left⟩ :: outer) s)
    (hold : ¬ (target ∈ g.nodes ∧ target ∉ s.found)) :
    Inv g (⟨node, number, s.meet target low, left⟩ :: outer) s := by
  have hstep : target ∈ g.successors node := h.lefts _ List.mem_cons_self List.mem_cons_self
  have hfound : target ∈ g.nodes → target ∈ s.found := fun hnode => by_contra fun hnew => hold ⟨hnode, hnew⟩
  have hreached := h.low_reached _ List.mem_cons_self
  refine h.look [] hfound ?_ ?_ ?_
  · unfold Search.meet
    split
    · exact Nat.min_le_left _ _
    · exact le_rfl
  · unfold Search.meet
    split
    · next waiting hlookup =>
      have hmem := h.lookup_eq_some_iff.1 hlookup
      have hnode : target ∈ g.nodes := h.found _ (h.numbered _ hmem).1
      rcases Nat.le_total low waiting with hle | hle
      · rwa [Nat.min_eq_left hle]
      · rw [Nat.min_eq_right hle]
        exact ⟨_, hmem, rfl, .single ⟨hstep, hnode⟩⟩
    · exact hreached
  · rintro ⟨_, waiting⟩ hmem rfl
    unfold Search.meet
    rw [h.lookup_eq_some_iff.2 hmem]
    exact Nat.min_le_right _ _

/-! ### A visit ends -/

/-- What led back to a visit that leads below its own number goes on to the node of its least number. -/
theorem back_outer (h : Inv g (v :: outer) s) (hlow : v.low < v.number) {x : String × Nat} (hx : x ∈ s.stack) :
    ∃ w ∈ outer, w.number ≤ x.2 ∧ g.Reach x.1 w.node := by
  obtain ⟨w, hw, hle, hreach⟩ := h.back x hx
  rcases List.mem_cons.1 hw with rfl | hw
  · obtain ⟨low, hlowMem, hlowEq, hlowReach⟩ := h.low_reached w List.mem_cons_self
    obtain ⟨w', hw', hle', hreach'⟩ := h.back low hlowMem
    rcases List.mem_cons.1 hw' with rfl | hw'
    · omega
    · exact ⟨w', hw', by omega, hreach.trans (hlowReach.trans hreach')⟩
  · exact ⟨w, hw, hle, hreach⟩

/-- A visit that leads below its own number leaves its part of the stack to the visit around it. -/
theorem leave (h : Inv g (v :: p :: outer) s) (hleft : v.left = []) (hlow : v.low < v.number) :
    Inv g ({ p with low := min p.low v.low } :: outer) s := by
  obtain ⟨low, hlowMem, hlowEq, hlowReach⟩ := h.low_reached v List.mem_cons_self
  have hp : p ∈ v :: p :: outer := by simp
  obtain ⟨hinside, hfalling⟩ := List.pairwise_cons.1 h.visits_falling
  have houter_reach : g.Reach p.node v.node := (hinside p List.mem_cons_self).2
  have hmem : ∀ w, w ∈ { p with low := min p.low v.low } :: outer →
      w = { p with low := min p.low v.low } ∨ w ∈ outer := fun w => List.mem_cons.1
  have houter : ∀ w ∈ outer, w ∈ v :: p :: outer := fun w hw => by simp [hw]
  refine { h with
    entries := ?entries, lefts := ?lefts, scanned := ?scanned, back := ?back
    low_le := ?low_le, low_reached := ?low_reached, low_least := ?low_least }
  case entries => exact (List.sublist_cons_self _ _).trans h.entries
  case lefts =>
    intro w hw
    rcases hmem w hw with rfl | hw
    · exact h.lefts p hp
    · exact h.lefts w (houter w hw)
  case scanned =>
    intro x hx y hxy
    rcases h.scanned x hx y hxy with hy | ⟨w, hw, hwx, hwy⟩
    · exact Or.inl hy
    · rcases List.mem_cons.1 hw with rfl | hw
      · simp [hleft] at hwy
      · rcases List.mem_cons.1 hw with rfl | hw
        · exact Or.inr ⟨_, List.mem_cons_self, hwx, hwy⟩
        · exact Or.inr ⟨w, List.mem_cons_of_mem _ hw, hwx, hwy⟩
  case back =>
    intro x hx
    obtain ⟨w, hw, hwx⟩ := h.back_outer hlow hx
    rcases List.mem_cons.1 hw with rfl | hw
    · exact ⟨_, List.mem_cons_self, hwx⟩
    · exact ⟨w, List.mem_cons_of_mem _ hw, hwx⟩
  case low_le =>
    intro w hw
    rcases hmem w hw with rfl | hw
    · exact (Nat.min_le_left _ _).trans (h.low_le p hp)
    · exact h.low_le w (houter w hw)
  case low_reached =>
    intro w hw
    rcases hmem w hw with rfl | hw
    · rcases Nat.le_total p.low v.low with hle | hle
      · simpa only [Nat.min_eq_left hle] using h.low_reached p hp
      · exact ⟨low, hlowMem, by simpa only [Nat.min_eq_right hle] using hlowEq,
          houter_reach.trans hlowReach⟩
    · exact h.low_reached w (houter w hw)
  case low_least =>
    intro w hw x hx haround y hy hxy
    by_cases hinner : v.number ≤ x.2
    · -- the part of the visit that ends belongs to the one around it
      have hlow' : v.low ≤ y.2 := by
        refine (h.low_least v List.mem_cons_self x hx (h.isAround_top hinner) y hy hxy).resolve_right ?_
        simp [hleft]
      rcases hmem w hw with rfl | hw
      · exact Or.inl ((Nat.min_le_right _ _).trans hlow')
      · have hle := haround.2 p.number (by simp) ((hinside p List.mem_cons_self).1.le.trans hinner)
        exact absurd ((List.pairwise_cons.1 hfalling).1 w hw).1 (Nat.not_lt.2 hle)
    · have haround' : w.IsAround (v :: p :: outer) x.2 := by
        refine ⟨haround.1, fun n hn hle => ?_⟩
        rcases List.mem_cons.1 hn with rfl | hn
        · exact absurd hle hinner
        · exact haround.2 n (by simpa using hn) hle
      rcases hmem w hw with rfl | hw
      · exact (h.low_least p hp x hx haround' y hy hxy).imp_left (Nat.min_le_left _ _).trans
      · exact h.low_least w (houter w hw) x hx haround' y hy hxy

/-- No step leads from the part of a visit that is left with its own number to a node below it. -/
theorem stays (h : Inv g (v :: outer) s) (hleft : v.left = []) (hlow : v.low = v.number)
    {x : String × Nat} (hx : x ∈ s.stack) (hinner : v.number ≤ x.2) (hxb : g.Step x.1 b) :
    b ∈ s.found ∧ ∀ number, (b, number) ∈ s.stack → v.number ≤ number := by
  constructor
  · refine (h.scanned x.1 (List.mem_map_of_mem hx) b hxb).resolve_right ?_
    rintro ⟨w, hw, hwx, hwb⟩
    have hentry := h.entry_eq (h.entry_mem hw) hx hwx
    rcases List.mem_cons.1 hw with rfl | hw
    · simp [hleft] at hwb
    · have := h.outer_lt hw
      simp only [← hentry, Visit.entry] at hinner
      omega
  · intro number hb
    rcases h.low_least v List.mem_cons_self x hx (h.isAround_top hinner) _ hb hxb with hle | ⟨_, hmem⟩
    · exact hlow ▸ hle
    · simp [hleft] at hmem

theorem mem_names_below (h : Inv g way s) (number : Nat) :
    a ∈ (s.below number).map Prod.fst ↔ a ∈ s.names ∧ a ∉ s.part number := by
  constructor
  · intro ha
    obtain ⟨entry, hentry, rfl⟩ := List.mem_map.1 ha
    obtain ⟨hmem, hlt⟩ := Search.mem_below.1 hentry
    refine ⟨List.mem_map_of_mem hmem, fun hpart => ?_⟩
    obtain ⟨n, hmem', hle⟩ := Search.mem_part.1 hpart
    have hn : entry.2 = n := congrArg Prod.snd (h.entry_eq hmem hmem' rfl)
    omega
  · rintro ⟨ha, hnot⟩
    obtain ⟨entry, hentry, rfl⟩ := List.mem_map.1 ha
    exact List.mem_map_of_mem (Search.mem_below.2 ⟨hentry, Nat.lt_of_not_le fun hle =>
      hnot (Search.mem_part.2 ⟨entry.2, hentry, hle⟩)⟩)

/-- A visit takes its part of the stack. -/
theorem close_eq (h : Inv g (v :: outer) s) :
    s.close v.node = ⟨s.found, s.below v.number, s.components ++ [s.part v.number]⟩ := by
  obtain ⟨above, below, hstack⟩ := List.append_of_mem (h.entry_mem List.mem_cons_self)
  have hnot : v.node ∉ above.map Prod.fst := by
    have hnames := h.names
    rw [Search.names, hstack, List.map_append, List.map_cons, List.nodup_append] at hnames
    exact fun hmem => hnames.2.2 v.node hmem v.node List.mem_cons_self rfl
  have hfalling := h.falling
  rw [hstack, List.pairwise_append, List.pairwise_cons] at hfalling
  have habove : ∀ x ∈ above, v.number < x.2 := fun x hx => (hfalling.2.2 x hx v.entry List.mem_cons_self).1
  have hbelow : ∀ x ∈ below, x.2 < v.number := fun x hx => (hfalling.2.1.1 x hx).1
  have hkept : s.below v.number = below := by
    rw [Search.below, hstack, List.filter_append,
      List.filter_eq_nil_iff.2 fun x hx => by simpa using (habove x hx).le,
      List.filter_cons_of_neg (by simp [Visit.entry]),
      List.filter_eq_self.2 fun x hx => by simpa using hbelow x hx, List.nil_append]
  have htaken : s.part v.number = above.map Prod.fst ++ [v.node] := by
    rw [Search.part, hstack, List.filter_append,
      List.filter_eq_self.2 fun x hx => by simpa using (habove x hx).le,
      List.filter_cons_of_pos (by simp [Visit.entry]),
      List.filter_eq_nil_iff.2 fun x hx => by simpa using hbelow x hx, List.map_append]
    rfl
  rw [hkept, htaken, Search.close, hstack, Visit.entry, Search.popTo_append hnot]

/-- Without the part of such a visit, no step leads from what is found back to what is left on the stack. -/
theorem closed_below (h : Inv g (v :: outer) s) (hleft : v.left = []) (hlow : v.low = v.number)
    (ha : a ∈ s.found ∧ a ∉ (s.below v.number).map Prod.fst) (hab : g.Step a b) :
    b ∈ s.found ∧ b ∉ (s.below v.number).map Prod.fst := by
  by_cases hnames : a ∈ s.names
  · have hpart : a ∈ s.part v.number := by
      by_contra hnot
      exact ha.2 ((h.mem_names_below _).2 ⟨hnames, hnot⟩)
    obtain ⟨number, hmem, hle⟩ := Search.mem_part.1 hpart
    obtain ⟨hb, hinner⟩ := h.stays hleft hlow hmem hle hab
    refine ⟨hb, fun hbelow => ?_⟩
    obtain ⟨entry, hentry, rfl⟩ := List.mem_map.1 hbelow
    obtain ⟨hmem, hlt⟩ := Search.mem_below.1 hentry
    exact absurd (hinner entry.2 hmem) (Nat.not_le.2 hlt)
  · obtain ⟨hb, hbnames⟩ := h.closed a ha.1 hnames b hab
    exact ⟨hb, fun hbelow => hbnames ((h.mem_names_below _).1 hbelow).1⟩

theorem isComponent_part (h : Inv g (v :: outer) s) (hleft : v.left = []) (hlow : v.low = v.number) :
    g.IsComponent (s.part v.number) := by
  have hentry := h.entry_mem List.mem_cons_self
  have hself : v.node ∈ s.part v.number := Search.mem_part.2 ⟨v.number, hentry, le_rfl⟩
  have hmutual : ∀ x ∈ s.part v.number, g.Reach x v.node ∧ g.Reach v.node x := by
    intro x hx
    obtain ⟨number, hmem, hle⟩ := Search.mem_part.1 hx
    exact ⟨h.reach_top hmem, h.reach_of_le hentry hmem hle⟩
  have hfound : s.part v.number ⊆ s.found := List.Subset.trans (s.part_subset_names _) h.names_subset
  refine ⟨List.ne_nil_of_mem hself, fun x hx => h.found x (hfound hx), fun x hx y => ?_⟩
  constructor
  · intro hy
    exact ⟨(hmutual x hx).1.trans (hmutual y hy).2, (hmutual y hy).1.trans (hmutual x hx).2⟩
  · rintro ⟨hxy, hyx⟩
    obtain ⟨hy, hybelow⟩ := hxy.preserves (fun _ _ => h.closed_below hleft hlow)
      ⟨hfound hx, fun hmem => ((h.mem_names_below _).1 hmem).2 hx⟩
    by_contra hpart
    -- otherwise it has a component already, which no step leaves
    have hynames : y ∉ s.names := fun hmem => hybelow ((h.mem_names_below _).2 ⟨hmem, hpart⟩)
    have hxnames := (hyx.preserves (p := fun x => x ∈ s.found ∧ x ∉ s.names)
      (fun a b ha => h.closed a ha.1 ha.2 b) ⟨hy, hynames⟩).2
    exact hxnames (s.part_subset_names _ hx)

/-- A visit that is left with its own number takes its component, which is its part of the stack. -/
theorem close (h : Inv g (v :: outer) s) (hleft : v.left = []) (hlow : v.low = v.number) :
    Inv g outer (s.close v.node) := by
  have houter : ∀ w ∈ outer, w ∈ v :: outer ∧ w.number < v.number := fun w hw =>
    ⟨List.mem_cons_of_mem _ hw, h.outer_lt hw⟩
  have hsublist : (s.below v.number).Sublist s.stack := List.filter_sublist
  have hold : ∀ {x}, x ∈ (s.below v.number).map Prod.fst → x ∈ s.names := fun hx =>
    ((h.mem_names_below _).1 hx).1
  rw [h.close_eq]
  constructor
  case found => exact h.found
  case names => exact h.names.sublist (hsublist.map _)
  case numbered => exact fun x hx => h.numbered x (hsublist.subset hx)
  case falling => exact h.falling.sublist hsublist
  case entries =>
    have hkept := h.entries.filter fun entry => decide (entry.2 < v.number)
    rw [List.map_cons, List.filter_cons_of_neg (by simp [Visit.entry]), List.filter_eq_self.2] at hkept
    · exact hkept
    · intro entry hentry
      obtain ⟨w, hw, rfl⟩ := List.mem_map.1 hentry
      exact decide_eq_true (houter w hw).2
  case lefts => exact fun w hw => h.lefts w (houter w hw).1
  case closed => exact fun x hx hxnames y hxy => h.closed_below hleft hlow ⟨hx, hxnames⟩ hxy
  case scanned =>
    intro x hx y hxy
    refine (h.scanned x (hold hx) y hxy).imp_right ?_
    rintro ⟨w, hw, hwx, hwy⟩
    rcases List.mem_cons.1 hw with rfl | hw
    · simp [hleft] at hwy
    · exact ⟨w, hw, hwx, hwy⟩
  case back =>
    intro x hx
    obtain ⟨hmem, hlt⟩ := Search.mem_below.1 hx
    obtain ⟨w, hw, hle, hreach⟩ := h.back x hmem
    rcases List.mem_cons.1 hw with rfl | hw
    · omega
    · exact ⟨w, hw, hle, hreach⟩
  case low_le => exact fun w hw => h.low_le w (houter w hw).1
  case low_reached =>
    intro w hw
    obtain ⟨y, hy, hlow, hreach⟩ := h.low_reached w (houter w hw).1
    have hle := h.low_le w (houter w hw).1
    exact ⟨y, Search.mem_below.2 ⟨hy, by have := (houter w hw).2; omega⟩, hlow, hreach⟩
  case low_least =>
    intro w hw x hx haround y hy hxy
    obtain ⟨hmem, hlt⟩ := Search.mem_below.1 hx
    refine h.low_least w (houter w hw).1 x hmem ⟨haround.1, fun n hn hle => ?_⟩ y (hsublist.subset hy) hxy
    rcases List.mem_cons.1 hn with rfl | hn
    · omega
    · exact haround.2 n hn hle
  case components =>
    intro c hc
    rcases List.mem_append.1 hc with hc | hc
    · obtain ⟨hcomponent, hnodup, hmembers⟩ := h.components c hc
      exact ⟨hcomponent, hnodup, fun x hx => ⟨(hmembers x hx).1, fun hmem => (hmembers x hx).2 (hold hmem)⟩⟩
    · obtain rfl := List.mem_singleton.1 hc
      refine ⟨h.isComponent_part hleft hlow, h.names.sublist (List.filter_sublist.map _), fun x hx => ?_⟩
      exact ⟨h.names_subset (s.part_subset_names _ hx), fun hmem => ((h.mem_names_below _).1 hmem).2 hx⟩
  case apart =>
    refine List.pairwise_append.2 ⟨h.apart, List.pairwise_singleton _ _, fun c hc d hd x hxc hxd => ?_⟩
    obtain rfl := List.mem_singleton.1 hd
    exact ((h.components c hc).2.2 x hxc).2 (s.part_subset_names _ hxd)
  case covered =>
    intro x hx hxnames
    by_cases hpart : x ∈ s.part v.number
    · exact ⟨_, by simp, hpart⟩
    · obtain ⟨c, hc, hxc⟩ := h.covered x hx fun hmem => hxnames ((h.mem_names_below _).2 ⟨hmem, hpart⟩)
      exact ⟨c, List.mem_append_left _ hc, hxc⟩

/-! ### Whole searches -/

theorem lower_eq_self (h : Inv g (v :: outer) s) (hlow : v.low = v.number) : lower v.low outer = outer := by
  cases outer with
  | nil => rfl
  | cons p outer =>
    have hle := h.low_le p (by simp)
    have hlt := h.outer_lt List.mem_cons_self
    rw [lower, Nat.min_eq_left (by omega)]

theorem lower (h : Inv g (v :: outer) s) (hleft : v.left = []) (hlow : v.low < v.number) :
    Inv g (lower v.low outer) s := by
  cases outer with
  | nil =>
    -- the outermost visit reaches nothing below it
    obtain ⟨b, hb, hblow, _⟩ := h.low_reached v List.mem_cons_self
    obtain ⟨w, hw, hle, _⟩ := h.back b hb
    obtain rfl := List.mem_singleton.1 hw
    omega
  | cons p outer => exact h.leave hleft hlow

/-- A search that runs to its end keeps what is found and leaves nothing on the stack. -/
theorem run (h : Inv g way s) : Inv g [] (g.run way s) ∧ s.found ⊆ (g.run way s).found := by
  induction way, s using Graph.run.induct g with
  | case1 s => exact ⟨by rwa [Graph.run], by rw [Graph.run]; exact List.Subset.refl _⟩
  | case2 s node number outer _ ih =>
    rw [Graph.run, if_pos rfl]
    exact ih (by rw [h.lower_eq_self rfl]; exact h.close rfl rfl)
  | case3 s node number low outer _ hne ih =>
    rw [Graph.run, if_neg hne]
    exact ih (h.lower rfl (Nat.lt_of_le_of_ne (h.low_le _ List.mem_cons_self) hne))
  | case4 s node number low outer target left hnew _ ih =>
    rw [Graph.run, dif_pos hnew]
    obtain ⟨hinv, hsub⟩ := ih (h.descend hnew.1 (by simpa using hnew.2))
    exact ⟨hinv, List.Subset.trans (List.subset_cons_self _ _) hsub⟩
  | case5 s node number low outer target left hold ih =>
    rw [Graph.run, dif_neg hold]
    exact ih (h.meet (by simpa using hold))

theorem stack_eq_nil (h : Inv g [] s) : s.stack = [] := by
  refine List.eq_nil_iff_forall_not_mem.2 fun a ha => ?_
  obtain ⟨w, hw, _⟩ := h.back a ha
  cases hw

theorem searchFrom (h : Inv g [] s) (hnode : a ∈ g.nodes) :
    Inv g [] (g.searchFrom s a) ∧ s.found ⊆ (g.searchFrom s a).found ∧ a ∈ (g.searchFrom s a).found := by
  unfold Graph.searchFrom
  split
  · next hfound => exact ⟨h, List.Subset.refl _, by simpa using hfound⟩
  · next hnew =>
    have hentered : Inv g [g.visit s a] (s.push a) :=
      h.enter hnode (by simpa using hnew) (by simp [h.stack_eq_nil])
    obtain ⟨hinv, hsub⟩ := hentered.run
    exact ⟨hinv, List.Subset.trans (List.subset_cons_self _ _) hsub, hsub List.mem_cons_self⟩

theorem foldl_searchFrom {starts : List String} (h : Inv g [] s) (hstarts : starts ⊆ g.nodes) :
    Inv g [] (starts.foldl g.searchFrom s) ∧ s.found ⊆ (starts.foldl g.searchFrom s).found ∧
      starts ⊆ (starts.foldl g.searchFrom s).found := by
  induction starts generalizing s with
  | nil => exact ⟨h, List.Subset.refl _, by simp⟩
  | cons start starts ih =>
    obtain ⟨hnode, hstarts⟩ := List.cons_subset.1 hstarts
    obtain ⟨hinv, hsub, hstart⟩ := h.searchFrom hnode
    obtain ⟨hinv, hsub', hrest⟩ := ih hinv hstarts
    exact ⟨hinv, List.Subset.trans hsub hsub', List.cons_subset.2 ⟨hsub' hstart, hrest⟩⟩

end Inv

/-- The search finds every node and puts it in its component. -/
theorem components_spec (g : Graph) : (∀ c ∈ g.components, g.IsComponent c ∧ c.Nodup) ∧
    g.components.Pairwise List.Disjoint ∧ ∀ a ∈ g.nodes, ∃ c ∈ g.components, a ∈ c := by
  obtain ⟨hinv, _, hfound⟩ := (Inv.initial g).foldl_searchFrom (List.Subset.refl g.nodes)
  have hnames : Search.names (g.nodes.foldl g.searchFrom ⟨[], [], []⟩) = [] := by
    rw [Search.names, hinv.stack_eq_nil, List.map_nil]
  refine ⟨fun c hc => ⟨(hinv.components c hc).1, (hinv.components c hc).2.1⟩, hinv.apart, fun a ha => ?_⟩
  exact hinv.covered a (hfound ha) (by simp [hnames])

end CrateHeader.Graph
