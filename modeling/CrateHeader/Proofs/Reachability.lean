import CrateHeader.Proofs.ComponentSearch
import Mathlib

/-!
# The cycles of a graph

The cycles are the components that have more than one member or whose member is its own successor, each once,
in the order of the nodes. So nodes are on a common cycle exactly when each can be reached from the other by
one or more steps, and a graph has no cycle exactly when no node can be reached from itself.
-/

namespace CrateHeader

/-! ### Members in the order of a list -/

namespace Graph

variable {l c d : List String}

theorem pairwise_idxOf (hl : l.Nodup) : l.Pairwise fun a b => l.idxOf a < l.idxOf b := by
  refine List.pairwise_iff_getElem.2 fun i j hi hj hij => ?_
  rwa [hl.idxOf_getElem i hi, hl.idxOf_getElem j hj]

/-- A list of members in the order of their places is a part of the list. -/
theorem sublist_of_pairwise_idxOf (hl : l.Nodup) (hd : d.Nodup) (hsub : d ⊆ l)
    (hsorted : d.Pairwise fun a b => l.idxOf a ≤ l.idxOf b) : d.Sublist l := by
  have hlt : d.Pairwise fun a b => l.idxOf a < l.idxOf b :=
    (hsorted.and hd).imp_of_mem fun ha hb hab => Nat.lt_of_le_of_ne hab.1 fun h =>
      hab.2 ((List.idxOf_inj (hsub ha)).1 h)
  have : Std.Antisymm fun a b => l.idxOf a < l.idxOf b := ⟨fun a b hab hba => absurd hab hba.not_gt⟩
  exact List.sublist_of_subperm_of_pairwise (List.subperm_of_subset hd hsub) hlt (pairwise_idxOf hl)

theorem sortOn_idxOf_sublist (hl : l.Nodup) (hd : d.Nodup) (hsub : d ⊆ l) :
    (sortOn l.idxOf d).Sublist l :=
  sublist_of_pairwise_idxOf hl ((sortOn_perm _ d).nodup_iff.2 hd) (fun _ ha => hsub (mem_sortOn.1 ha))
    (pairwise_sortOn _ d)

/-- Parts of a list that have the same members are the same. -/
theorem eq_of_sublist (hl : l.Nodup) (hc : c.Sublist l) (hd : d.Sublist l) (h : ∀ a, a ∈ c ↔ a ∈ d) :
    c = d := by
  have : Std.Antisymm fun a b => l.idxOf a < l.idxOf b := ⟨fun a b hab hba => absurd hab hba.not_gt⟩
  have : Std.Irrefl fun a b => l.idxOf a < l.idxOf b := ⟨fun a => lt_irrefl _⟩
  exact ((pairwise_idxOf hl).sublist hc).eq_of_mem_iff ((pairwise_idxOf hl).sublist hd) h

end Graph

namespace Graph

open Relation (ReflTransGen TransGen)

variable {g : Graph} {a b : String} {c d : List String}

theorem step_iff : g.Step a b ↔ b ∈ g.successors a ∧ b ∈ g.nodes := Iff.rfl

theorem mem_nodes_of_transGen (h : TransGen g.Step a b) : b ∈ g.nodes := by
  cases h with
  | single h => exact (step_iff.1 h).2
  | tail _ h => exact (step_iff.1 h).2

@[simp] theorem mem_ordered : a ∈ g.ordered ↔ a ∈ g.nodes := by
  simp [ordered]

theorem nodup_ordered (g : Graph) : g.ordered.Nodup :=
  List.nodup_reverse.2 (nodup_distinct _)

/-! ### Components that a step stays in -/

/-- Has a component more than one member, or one that is its own successor? -/
def IsCyclic (g : Graph) (c : List String) : Prop := 1 < c.length ∨ ∃ a ∈ c, a ∈ g.successors a

theorem isCyclic_iff (hc : c ≠ []) : g.isCyclic c = true ↔ g.IsCyclic c := by
  obtain ⟨a, rest, rfl⟩ := List.exists_cons_of_ne_nil hc
  simp only [isCyclic, IsCyclic, List.head?_cons, Option.any_some, Bool.or_eq_true, decide_eq_true_eq,
    List.contains_iff_mem]
  cases rest with
  | nil => simp
  | cons b rest => simp

/-- The members of such a component can be reached from each other by one or more steps. -/
theorem IsComponent.transGen (hc : g.IsComponent c) (hnodup : c.Nodup) (hcyclic : g.IsCyclic c)
    (ha : a ∈ c) (hb : b ∈ c) : TransGen g.Step a b := by
  have hreach : ∀ {x y}, x ∈ c → y ∈ c → ReflTransGen g.Step x y := fun hx hy => ((hc.mem_iff _ hx _).1 hy).1
  obtain ⟨x, hx, y, hy, hxy⟩ : ∃ x ∈ c, ∃ y ∈ c, TransGen g.Step x y := by
    rcases hcyclic with hlength | ⟨x, hx, hself⟩
    · match c, hlength with
      | x :: y :: rest, _ =>
        have hne : y ≠ x := fun h => (List.nodup_cons.1 hnodup).1 (by simp [h])
        refine ⟨x, by simp, y, by simp, ?_⟩
        exact (Relation.reflTransGen_iff_eq_or_transGen.1 (hreach (by simp) (by simp))).resolve_left hne
    · exact ⟨x, hx, x, hx, .single ⟨hself, hc.nodes hx⟩⟩
  exact (hxy.trans_right (hreach ha hx)).trans_left (hreach hy hb)

/-- A component with a node that can be reached from itself by one or more steps is such a component. -/
theorem IsComponent.isCyclic (hc : g.IsComponent c) (ha : a ∈ c) (haa : TransGen g.Step a a) :
    g.IsCyclic c := by
  obtain ⟨b, hab, hba⟩ := TransGen.head'_iff.1 haa
  by_cases hne : b = a
  · exact Or.inr ⟨a, ha, hne ▸ hab.1⟩
  · have hb : b ∈ c := (hc.mem_iff a ha b).2 ⟨.single hab, hba⟩
    refine Or.inl (Nat.lt_of_not_le fun hlength => ?_)
    match c, hlength with
    | [], _ => cases ha
    | [x], _ =>
      rw [List.mem_singleton] at ha hb
      exact hne (hb.trans ha.symm)

/-! ### The cycles -/

theorem mem_cycles : c ∈ g.cycles ↔
    ∃ d ∈ g.components, g.IsCyclic d ∧ sortOn g.ordered.idxOf d = c := by
  simp only [cycles, mem_sortOn, List.mem_map, List.mem_filter]
  constructor
  · rintro ⟨d, ⟨hd, hcyclic⟩, rfl⟩
    exact ⟨d, hd, (isCyclic_iff (g.components_spec.1 d hd).1.nonempty).1 hcyclic, rfl⟩
  · rintro ⟨d, hd, hcyclic, rfl⟩
    exact ⟨d, ⟨hd, (isCyclic_iff (g.components_spec.1 d hd).1.nonempty).2 hcyclic⟩, rfl⟩

theorem IsComponent.of_mem_iff (hd : g.IsComponent d) (h : ∀ a, a ∈ c ↔ a ∈ d) : g.IsComponent c := by
  refine ⟨fun hnil => ?_, fun a ha => hd.nodes ((h a).1 ha), fun a ha b => ?_⟩
  · obtain ⟨a, ha⟩ := List.exists_mem_of_ne_nil d hd.nonempty
    simpa [hnil] using (h a).2 ha
  · rw [h b, hd.mem_iff a ((h a).1 ha)]

/-- Components that share a node are the same. -/
theorem IsComponent.mem_iff_mem (hc : g.IsComponent c) (hd : g.IsComponent d) (hac : a ∈ c) (had : a ∈ d)
    (x : String) : x ∈ c ↔ x ∈ d := by
  rw [hc.mem_iff a hac, hd.mem_iff a had]

/-- The cycles are the components that a step stays in, with their members in order. -/
theorem mem_cycles_iff :
    c ∈ g.cycles ↔ c.Sublist g.ordered ∧ g.IsComponent c ∧ g.IsCyclic c := by
  obtain ⟨hcomponents, _, hcovered⟩ := g.components_spec
  have hsublist : ∀ d ∈ g.components, (sortOn g.ordered.idxOf d).Sublist g.ordered := fun d hd =>
    sortOn_idxOf_sublist g.nodup_ordered (hcomponents d hd).2 fun a ha =>
      mem_ordered.2 ((hcomponents d hd).1.nodes ha)
  rw [mem_cycles]
  constructor
  · rintro ⟨d, hd, hcyclic, rfl⟩
    refine ⟨hsublist d hd, (hcomponents d hd).1.of_mem_iff fun _ => mem_sortOn, ?_⟩
    simpa only [IsCyclic, mem_sortOn, (sortOn_perm _ d).length_eq] using hcyclic
  · rintro ⟨hsub, hc, hcyclic⟩
    obtain ⟨a, ha⟩ := List.exists_mem_of_ne_nil c hc.nonempty
    obtain ⟨d, hd, had⟩ := hcovered a (hc.nodes ha)
    have hmem := hc.mem_iff_mem (hcomponents d hd).1 ha had
    have heq : sortOn g.ordered.idxOf d = c :=
      eq_of_sublist g.nodup_ordered (hsublist d hd) hsub fun x => by rw [mem_sortOn, hmem]
    refine ⟨d, hd, ?_, heq⟩
    simpa only [IsCyclic, ← heq, mem_sortOn, (sortOn_perm _ d).length_eq] using hcyclic

/-- No two cycles share a node. -/
theorem pairwise_disjoint_cycles (g : Graph) : g.cycles.Pairwise List.Disjoint := by
  obtain ⟨_, hapart, _⟩ := g.components_spec
  have hsymm : ∀ {c d : List String}, c.Disjoint d → d.Disjoint c := fun hdisjoint _ hd hc => hdisjoint hc hd
  refine ((sortOn_perm _ _).pairwise_iff hsymm).2 (List.pairwise_map.2 ?_)
  refine (hapart.filter _).imp fun hdisjoint a ha hb => ?_
  exact hdisjoint (mem_sortOn.1 ha) (mem_sortOn.1 hb)

/-- The first members of the cycles are in the order of the nodes. -/
theorem heads_sublist (g : Graph) : (g.cycles.map List.head?).Sublist (g.ordered.map some) := by
  let first (c : List String) : String := c.headD ""
  have hfirst : ∀ c ∈ g.cycles, c.head? = some (first c) ∧ first c ∈ c := by
    intro c hc
    obtain ⟨a, rest, rfl⟩ := List.exists_cons_of_ne_nil (mem_cycles_iff.1 hc).2.1.nonempty
    exact ⟨rfl, List.mem_cons_self⟩
  have hheads : g.cycles.map List.head? = (g.cycles.map first).map some := by
    rw [List.map_map]
    exact List.map_congr_left fun c hc => (hfirst c hc).1
  rw [hheads]
  refine List.Sublist.map _ (sublist_of_pairwise_idxOf g.nodup_ordered ?_ ?_ ?_)
  · refine List.pairwise_map.2 (g.pairwise_disjoint_cycles.imp_of_mem fun {c d} hc hd hdisjoint heq => ?_)
    exact hdisjoint (hfirst c hc).2 (heq ▸ (hfirst d hd).2)
  · intro a ha
    obtain ⟨c, hc, rfl⟩ := List.mem_map.1 ha
    exact (mem_cycles_iff.1 hc).1.subset (hfirst c hc).2
  · refine List.pairwise_map.2 ((pairwise_sortOn _ _).imp_of_mem fun {c d} hc hd hle => ?_)
    simpa [(hfirst c hc).1, (hfirst d hd).1] using hle

/-- The members of a cycle can be reached from each other. -/
theorem transGen_of_mem_cycles (hc : c ∈ g.cycles) (ha : a ∈ c) (hb : b ∈ c) : TransGen g.Step a b := by
  obtain ⟨hsub, hcomponent, hcyclic⟩ := mem_cycles_iff.1 hc
  exact hcomponent.transGen (g.nodup_ordered.sublist hsub) hcyclic ha hb

/-- Nodes that can be reached from each other are on one cycle. -/
theorem exists_mem_cycles (hab : TransGen g.Step a b) (hba : TransGen g.Step b a) :
    ∃ c ∈ g.cycles, a ∈ c ∧ b ∈ c := by
  obtain ⟨hcomponents, _, hcovered⟩ := g.components_spec
  obtain ⟨d, hd, ha⟩ := hcovered a (mem_nodes_of_transGen hba)
  have hcomponent := (hcomponents d hd).1
  have hcyclic := hcomponent.isCyclic ha (hab.trans hba)
  refine ⟨_, mem_cycles.2 ⟨d, hd, hcyclic, rfl⟩, mem_sortOn.2 ha, mem_sortOn.2 ?_⟩
  exact (hcomponent.mem_iff a ha b).2 ⟨hab.to_reflTransGen, hba.to_reflTransGen⟩

theorem cycles_eq_nil_iff : g.cycles = [] ↔ ∀ a, ¬ TransGen g.Step a a := by
  constructor
  · intro h a ha
    obtain ⟨c, hc, _⟩ := exists_mem_cycles ha ha
    simp [h] at hc
  · intro h
    refine List.eq_nil_iff_forall_not_mem.2 fun c hc => ?_
    obtain ⟨a, ha⟩ := List.exists_mem_of_ne_nil c (mem_cycles_iff.1 hc).2.1.nonempty
    exact h a (transGen_of_mem_cycles hc ha ha)

theorem ordered_eq_nodes (hnodes : g.nodes.Nodup) : g.ordered = g.nodes := by
  rw [ordered, distinct_eq_self (List.nodup_reverse.2 hnodes), List.reverse_reverse]

/-- A graph of distinct nodes has as cycles exactly the components that a step stays in, each once, with
their members and their first members in the order of the nodes. -/
theorem cycles_correct (hnodes : g.nodes.Nodup) :
    (∀ c, c ∈ g.cycles ↔
      c.Sublist g.nodes ∧ g.IsComponent c ∧ (1 < c.length ∨ ∃ a ∈ c, a ∈ g.successors a)) ∧
    g.cycles.Nodup ∧ (g.cycles.map List.head?).Sublist (g.nodes.map some) := by
  have hheads := ordered_eq_nodes hnodes ▸ g.heads_sublist
  refine ⟨fun c => ?_, List.Nodup.of_map _ ((hnodes.map (Option.some_injective _)).sublist hheads), hheads⟩
  rw [mem_cycles_iff, ordered_eq_nodes hnodes, IsCyclic]

/-- Two nodes that step to each other around one that steps to itself, and one that no step comes back to. -/
def pairAround : Graph where
  nodes := ["Left", "Self", "Right", "Last"]
  successors
    | "Left" => ["Right", "Absent"]
    | "Right" => ["Self", "Left"]
    | "Self" => ["Self", "Last"]
    | _ => ["Absent"]

theorem cycles_correct_pairAround : pairAround.nodes.Nodup ∧
    pairAround.cycles = [["Left", "Right"], ["Self"]] ∧
    (∀ c, c ∈ pairAround.cycles ↔ c.Sublist pairAround.nodes ∧ pairAround.IsComponent c ∧
      (1 < c.length ∨ ∃ a ∈ c, a ∈ pairAround.successors a)) ∧
    pairAround.cycles.Nodup ∧
    (pairAround.cycles.map List.head?).Sublist (pairAround.nodes.map some) := by
  have hnodes : pairAround.nodes.Nodup := by decide
  exact ⟨hnodes, by cbv, cycles_correct hnodes⟩

end Graph

end CrateHeader
