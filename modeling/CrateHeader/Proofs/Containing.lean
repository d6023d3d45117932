import CrateHeader.Proofs.Ordering

/-!
# What the report of containment says

Types that contain each other are reported as one way round, from each name to the next and from the last one
back to the first. The names are the members of a component in declaration order, and that order need not be
a way round. What each arrow of the report does stand for is a way of containment through some of the
members, and where there are at most two of them the arrows are containments themselves.
-/

namespace CrateHeader

open Relation (ReflTransGen TransGen)

namespace Graph

variable {g : Graph} {a b : String} {c : List String}

/-- A step between two members of a component. -/
def StepWithin (g : Graph) (c : List String) (a b : String) : Prop := g.Step a b ∧ a ∈ c ∧ b ∈ c

/-- A way between two members of a component does not leave it. -/
theorem IsComponent.within (hc : g.IsComponent c) (ha : a ∈ c) (hb : b ∈ c) (h : TransGen g.Step a b) :
    TransGen (g.StepWithin c) a b := by
  have hback : ReflTransGen g.Step b a := ((hc.mem_iff b hb a).1 ha).1
  induction h using TransGen.head_induction_on with
  | single hstep => exact .single ⟨hstep, ha, hb⟩
  | @head x y hstep hrest ih =>
    have hy : y ∈ c := (hc.mem_iff x ha y).2 ⟨.single hstep, hrest.to_reflTransGen.trans hback⟩
    exact .head ⟨hstep, ha, hy⟩ (ih hy (hback.tail hstep))

/-- A way between the only members of a component crosses from one to the other, or back to the same one, at some
step. -/
theorem step_of_within (hc : ∀ x ∈ c, x = a ∨ x = b) (h : TransGen (g.StepWithin c) a b) : g.Step a b := by
  have main : ∀ x, TransGen (g.StepWithin c) x b → x = a → g.Step a b := by
    intro x hx
    induction hx using TransGen.head_induction_on with
    | single hstep =>
      rintro rfl
      exact hstep.1
    | @head x y hstep _ ih =>
      rintro rfl
      rcases hc y hstep.2.2 with rfl | rfl
      · exact ih rfl
      · exact hstep.1
  exact main a h rfl

/-- The first member of the first cycle stands in front of every node that is on a cycle. -/
theorem idxOf_head_le {first : String} {others : List String} {rest : List (List String)}
    (hcycles : g.cycles = (first :: others) :: rest) (ha : TransGen g.Step a a) :
    g.ordered.idxOf first ≤ g.ordered.idxOf a := by
  have hplaces : ∀ {l : List String}, l.Sublist g.ordered →
      l.Pairwise fun x y => g.ordered.idxOf x < g.ordered.idxOf y :=
    fun hl => (pairwise_idxOf g.nodup_ordered).sublist hl
  -- the cycle that the node is on starts in front of it
  obtain ⟨c, hc, hac, _⟩ := exists_mem_cycles ha ha
  obtain ⟨hsub, hcomponent, _⟩ := mem_cycles_iff.1 hc
  obtain ⟨d, c', rfl⟩ := List.exists_cons_of_ne_nil hcomponent.nonempty
  have hstart : g.ordered.idxOf d ≤ g.ordered.idxOf a := by
    rcases List.mem_cons.1 hac with rfl | hac
    · exact Nat.le_refl _
    · exact Nat.le_of_lt ((List.pairwise_cons.1 (hplaces hsub)).1 a hac)
  refine Nat.le_trans ?_ hstart
  -- and the first cycle starts in front of all others
  rw [hcycles] at hc
  rcases List.mem_cons.1 hc with heq | hc
  · rw [(List.cons.inj heq).1]
  · have hheads := g.heads_sublist
    rw [hcycles, List.map_cons, List.head?_cons] at hheads
    have hfirst : [some first, some d].Sublist (g.ordered.map some) :=
      (List.Sublist.cons_cons _ (List.singleton_sublist.2 (List.mem_map.2 ⟨_, hc, rfl⟩))).trans hheads
    obtain ⟨l, hl, heq⟩ := List.sublist_map_iff.1 hfirst
    match l, heq with
    | [x, y], heq =>
      obtain ⟨rfl, rfl⟩ : first = x ∧ d = y := by simpa using heq
      exact Nat.le_of_lt ((List.pairwise_cons.1 (hplaces hl)).1 _ List.mem_cons_self)

end Graph

namespace DependencyGraph

variable {lib : Library} {edge : Edge} {a b : String}

theorem source_mem_names (h : edge ∈ (ofLibrary lib).edges) : edge.source ∈ (ofLibrary lib).names := by
  obtain ⟨e, he, m, t, hstands⟩ := standsFor_of_mem_edges h
  rw [hstands.source]
  exact List.mem_map_of_mem he

/-- A template is contained, but contains nothing, so ways of containment between the other types pass through them
alone. -/
theorem transGen_containment (hb : b ∈ (ofLibrary lib).names) :
    TransGen (ofLibrary lib).containment.Step a b ↔ TransGen (ofLibrary lib).Contains a b := by
  refine ⟨TransGen.mono (fun _ _ h => mem_containment.1 (Graph.step_iff.1 h).1) _ _, fun h => ?_⟩
  induction h using TransGen.head_induction_on with
  | single h => exact .single (Graph.step_iff.2 ⟨mem_containment.2 h, hb⟩)
  | @head x y h hrest ih =>
    obtain ⟨_, ⟨edge, hedge, rfl, _⟩, _⟩ := TransGen.head'_iff.1 hrest
    exact .head (Graph.step_iff.2 ⟨mem_containment.2 h, source_mem_names hedge⟩) ih

theorem mem_names_of_transGen (h : TransGen (ofLibrary lib).Contains a b) : a ∈ (ofLibrary lib).names := by
  obtain ⟨_, ⟨edge, hedge, rfl, _⟩, _⟩ := TransGen.head'_iff.1 h
  exact source_mem_names hedge

/-- One type of a report needs the definition of another one of it. -/
def ContainsWithin (g : DependencyGraph) (reported : List String) (a b : String) : Prop :=
  g.Contains a b ∧ a ∈ reported ∧ b ∈ reported

theorem containsWithin_of_stepWithin {g : DependencyGraph} {c : List String} :
    g.containment.StepWithin c a b → g.ContainsWithin c a b :=
  fun ⟨hstep, hmem⟩ => ⟨mem_containment.1 (Graph.step_iff.1 hstep).1, hmem⟩

/-- Nothing but a first circle of containment keeps a library from having a plan. -/
theorem plan_error {g : DependencyGraph} {error : OrderError} (h : g.plan.result = .error error) :
    ∃ cycle rest, g.containment.cycles = cycle :: rest ∧ error = .containment cycle := by
  unfold plan at h
  split at h
  · next cycle rest hcycles =>
    cases h
    exact ⟨cycle, rest, hcycles, rfl⟩
  · cases h

end DependencyGraph

namespace Library

open DependencyGraph

variable {lib : Library} {first a b : String} {others : List String}

/-- An arrow between at most two names has them all at its ends. -/
theorem mem_arrow (hfew : others.length ≤ 1) (h : [a, b] <:+: first :: others ++ [first]) :
    ∀ x ∈ first :: others, x = a ∨ x = b := by
  match others, hfew with
  | [], _ =>
    obtain ⟨rfl, rfl⟩ : a = first ∧ b = first := by simpa [List.infix_cons_iff, List.cons_prefix_cons] using h
    simp
  | [other], _ =>
    have hends : (a = first ∧ b = other) ∨ (a = other ∧ b = first) := by
      simpa [List.infix_cons_iff, List.cons_prefix_cons] using h
    rcases hends with ⟨rfl, rfl⟩ | ⟨rfl, rfl⟩
    · simp
    · simp

/-- The report of containment names, in declaration order, the types that contain each other around the earliest one
that contains itself, which is the entity of the report. Each of its arrows stands for a way of containment through
types of the report, and for a containment itself when there are at most two of them. -/
theorem plan_containment (htable : lib.IsTable) {error : OrderError}
    (h : (ofLibrary lib).plan.result = .error error) :
    ∃ first others, error = .containment (first :: others) ∧
      error.diagnostic = ⟨.unrepresentableCycle, "types contain each other by value: " ++
        " -> ".intercalate (first :: others ++ [first]), first, none⟩ ∧
      (first :: others).Sublist (ofLibrary lib).names ∧
      (∀ a, TransGen (ofLibrary lib).Contains a a →
        (ofLibrary lib).names.idxOf first ≤ (ofLibrary lib).names.idxOf a) ∧
      (∀ a ∈ first :: others, ∀ b, b ∈ first :: others ↔
        TransGen (ofLibrary lib).Contains a b ∧ TransGen (ofLibrary lib).Contains b a) ∧
      (∀ a b, [a, b] <:+: first :: others ++ [first] →
        TransGen ((ofLibrary lib).ContainsWithin (first :: others)) a b) ∧
      (others.length ≤ 1 → ∀ a b, [a, b] <:+: first :: others ++ [first] → (ofLibrary lib).Contains a b) := by
  obtain ⟨cycle, rest, hcycles, rfl⟩ := plan_error h
  have hcycle : cycle ∈ (ofLibrary lib).containment.cycles := by rw [hcycles]; exact List.mem_cons_self
  obtain ⟨hsub, hcomponent, hcyclic⟩ := Graph.mem_cycles_iff.1 hcycle
  obtain ⟨first, others, rfl⟩ := List.exists_cons_of_ne_nil hcomponent.nonempty
  have hordered : (ofLibrary lib).containment.ordered = (ofLibrary lib).names :=
    Graph.ordered_eq_nodes (nodup_names_nodes htable)
  have hwithin : ∀ a ∈ first :: others, ∀ b ∈ first :: others,
      TransGen ((ofLibrary lib).containment.StepWithin (first :: others)) a b := fun a ha b hb =>
    hcomponent.within ha hb (Graph.transGen_of_mem_cycles hcycle ha hb)
  have harrow : ∀ {a b}, [a, b] <:+: first :: others ++ [first] → a ∈ first :: others ∧ b ∈ first :: others := by
    intro a b hab
    have hmem : ∀ x ∈ first :: others ++ [first], x ∈ first :: others := by simp [or_comm]
    exact ⟨hmem a (hab.subset (by simp)), hmem b (hab.subset (by simp))⟩
  refine ⟨first, others, rfl, rfl, hordered ▸ hsub, fun a ha => ?_, fun a ha b => ⟨fun hb => ?_, fun hab => ?_⟩,
    fun a b hab => ?_, fun hfew a b hab => ?_⟩
  · have hnode := mem_names_of_transGen ha
    have hle := Graph.idxOf_head_le hcycles ((transGen_containment hnode).2 ha)
    rwa [hordered] at hle
  · exact ⟨(transGen_containment (hcomponent.nodes hb)).1 (Graph.transGen_of_mem_cycles hcycle ha hb),
      (transGen_containment (hcomponent.nodes ha)).1 (Graph.transGen_of_mem_cycles hcycle hb ha)⟩
  · have hnode := mem_names_of_transGen hab.2
    exact (hcomponent.mem_iff a ha b).2 ⟨((transGen_containment hnode).2 hab.1).to_reflTransGen,
      ((transGen_containment (hcomponent.nodes ha)).2 hab.2).to_reflTransGen⟩
  · obtain ⟨ha, hb⟩ := harrow hab
    exact TransGen.mono (fun _ _ => containsWithin_of_stepWithin) _ _ (hwithin a ha b hb)
  · obtain ⟨ha, hb⟩ := harrow hab
    have hstep := Graph.step_of_within (mem_arrow hfew hab) (hwithin a ha b hb)
    exact mem_containment.1 (Graph.step_iff.1 hstep).1

/-- A hull that has a deck, which lies on the hull, and two types that the way round does not touch. -/
def ship : Library where
  entities := [
    .bare "Mast" 0 (.struct [.bare "foot" (.path "Deck" [])]),
    .bare "Hull" 1 (.struct [.bare "deck" (.array (.path "Deck" []) "2"), .bare "sail" (.path "Sail" [])]),
    .bare "Deck" 2 (.typeAlias (.path "Hull" [])),
    .bare "Sail" 3 (.struct [.bare "mast" (.pointer (.path "Mast" []) true true)])]
  instances := []
  external := []

theorem plan_containment_ship : ship.IsTable ∧
    (ofLibrary ship).plan.result = .error (.containment ["Hull", "Deck"]) ∧
    (OrderError.containment ["Hull", "Deck"]).diagnostic =
      ⟨.unrepresentableCycle, "types contain each other by value: Hull -> Deck -> Hull", "Hull", none⟩ ∧
    (ofLibrary ship).Contains "Hull" "Deck" ∧ (ofLibrary ship).Contains "Deck" "Hull" := by
  have htable : ship.IsTable := by unfold IsTable; decide
  have hcycles : (ofLibrary ship).containment.cycles = [["Hull", "Deck"]] := by cbv
  have hplan : (ofLibrary ship).plan.result = .error (.containment ["Hull", "Deck"]) := by
    rw [DependencyGraph.plan, hcycles]
    rfl
  obtain ⟨first, others, herror, hreport, _, _, _, _, harrows⟩ := plan_containment htable hplan
  obtain ⟨rfl, rfl⟩ := List.cons.inj (OrderError.containment.inj herror)
  exact ⟨htable, hplan, hreport, harrows (by decide) "Hull" "Deck" (by decide),
    harrows (by decide) "Deck" "Hull" (by decide)⟩

/-- A cart on wheels on axles that hold the cart, of which the axles are declared before the wheels. -/
def wagon : Library where
  entities := [
    .bare "Cart" 0 (.struct [.bare "wheel" (.path "Wheel" [])]),
    .bare "Axle" 1 (.struct [.bare "cart" (.path "Cart" [])]),
    .bare "Wheel" 2 (.struct [.bare "axle" (.path "Axle" [])])]
  instances := []
  external := []

/-- No arrow of the report is a containment. -/
theorem plan_wagon : wagon.IsTable ∧ wagon.IsConcrete ∧
    (ofLibrary wagon).plan.result = .error (.containment ["Cart", "Axle", "Wheel"]) ∧
    (OrderError.containment ["Cart", "Axle", "Wheel"]).diagnostic =
      ⟨.unrepresentableCycle, "types contain each other by value: Cart -> Axle -> Wheel -> Cart", "Cart", none⟩ ∧
    ¬ (ofLibrary wagon).Contains "Cart" "Axle" ∧ ¬ (ofLibrary wagon).Contains "Axle" "Wheel" ∧
    ¬ (ofLibrary wagon).Contains "Wheel" "Cart" := by
  have hcycles : (ofLibrary wagon).containment.cycles = [["Cart", "Axle", "Wheel"]] := by cbv
  have hplan : (ofLibrary wagon).plan.result = .error (.containment ["Cart", "Axle", "Wheel"]) := by
    rw [DependencyGraph.plan, hcycles]
    rfl
  have hedges : (ofLibrary wagon).edges =
      [⟨"Cart", "Wheel", true, 0⟩, ⟨"Axle", "Cart", true, 0⟩, ⟨"Wheel", "Axle", true, 0⟩] := by decide
  refine ⟨by unfold IsTable; decide, by unfold IsConcrete; decide, hplan, by decide, ?_, ?_, ?_⟩
  all_goals
    unfold Contains
    rw [hedges]
    decide

end Library

end CrateHeader
