import CrateHeader.Dependency.Plan
import CrateHeader.Proofs.Reachability
import CrateHeader.Proofs.Table
import Mathlib.Data.List.Find

/-!
# Which types are planned

An edge stands for a mention of a type. As long as types do not contain each other, a cycle of what waits
for what has a pointer edge that is not yet broken: without one all its edges would be by value. So the plan
ends with nothing waiting for itself, and it holds only types that are mentioned behind a pointer on a
cycle.
-/

namespace CrateHeader

open Relation (ReflTransGen TransGen)

/-- Steps of a cycle that all belong to a second relation make a cycle of it. -/
theorem transGen_self_of_forall {α : Type} {r s : α → α → Prop} {a : α}
    (hstep : ∀ x y, r x y → TransGen r y x → s x y) (hcycle : TransGen r a a) : TransGen s a a := by
  have main : ∀ x, TransGen r x a → ReflTransGen r a x → TransGen s x a := by
    intro x hx
    induction hx using TransGen.head_induction_on with
    | single h =>
      intro hback
      exact TransGen.single (hstep _ _ h (hcycle.trans_left hback))
    | head h hrest ih =>
      intro hback
      exact TransGen.head (hstep _ _ h (hrest.trans_left hback)) (ih (hback.tail h))
  exact main a hcycle .refl

namespace Library

/-- A type of a library mentions a type of it. -/
structure References (lib : Library) (e : Entity) (m : Ty.Mention) (t : Entity) : Prop where
  source : e ∈ lib.types
  mention : m ∈ e.mentions
  found : lib.get? m.name = some t
  isType : t.isType = true

/-- The type of one name mentions that of another in some way. -/
def Links (lib : Library) (way : Entity → Ty.Mention → Entity → Prop) (a b : String) : Prop :=
  ∃ e m t, lib.References e m t ∧ e.name = a ∧ t.name = b ∧ way e m t

/-- A mention that counts as one by value: of what is held, of an alias, or of an enum without payloads. -/
def CountsByValue (_ : Entity) (m : Ty.Mention) (t : Entity) : Prop :=
  m.behindPointer = false ∨ t.kind = .typeAlias ∨ (t.kind = .enum ∧ t.body.isTagged = false)

end Library

/-- What an edge stands for: a mention in an entity of a type of the library. -/
structure Edge.StandsFor (edge : Edge) (lib : Library) (e : Entity) (m : Ty.Mention) (t : Entity) :
    Prop where
  source : edge.source = e.name
  mention : m ∈ e.mentions
  found : lib.get? m.name = some t
  isType : t.isType = true
  target : edge.target = t.name
  byValue : edge.byValue = (!m.behindPointer || !t.body.canForwardDeclare)

namespace DependencyGraph

variable {g : DependencyGraph} {lib : Library} {e : Entity} {edge : Edge} {m : Ty.Mention} {t : Entity}
  {forward : List String} {a b : String}

/-! ### Edges -/

theorem standsFor_of_mem_edgesOf (h : edge ∈ edgesOf lib e) :
    ∃ m t, edge.StandsFor lib e m t := by
  obtain ⟨position, hlt, rfl⟩ := List.mem_mapIdx.1 h
  obtain ⟨m, hm, hfound⟩ := List.mem_filterMap.1 (List.getElem_mem hlt)
  split at hfound
  · next t ht =>
    split at hfound
    · next htype =>
      rw [← Option.some.inj hfound]
      exact ⟨m, t, rfl, hm, ht, htype, rfl, rfl⟩
    · cases hfound
  · cases hfound

theorem exists_mem_edgesOf (hm : m ∈ e.mentions) (hfound : lib.get? m.name = some t)
    (htype : t.isType = true) : ∃ edge ∈ edgesOf lib e, edge.StandsFor lib e m t := by
  unfold edgesOf
  set targets := e.mentions.filterMap _ with htargets
  have hmem : (t.name, !m.behindPointer || !t.body.canForwardDeclare) ∈ targets := by
    rw [htargets]
    exact List.mem_filterMap.2 ⟨m, hm, by simp [hfound, htype]⟩
  obtain ⟨position, hlt, hget⟩ := List.getElem_of_mem hmem
  refine ⟨⟨e.name, t.name, !m.behindPointer || !t.body.canForwardDeclare, position⟩, ?_,
    rfl, hm, hfound, htype, rfl, rfl⟩
  exact List.mem_mapIdx.2 ⟨position, hlt, by rw [hget]⟩

@[simp] theorem mem_nodes : e ∈ (ofLibrary lib).nodes ↔
    e ∈ lib.entities ∧ e.isType = true ∧ e.isGeneric = false := by
  simp only [ofLibrary, mem_sortBy, List.mem_filter, Library.types, Bool.not_eq_true', and_assoc]

theorem mem_nodes_of_isConcrete (h : lib.IsConcrete) :
    e ∈ (ofLibrary lib).nodes ↔ e ∈ lib.entities ∧ e.isType = true := by
  rw [mem_nodes]
  exact ⟨fun he => ⟨he.1, he.2.1⟩, fun he => ⟨he.1, he.2, h e he.1 he.2⟩⟩

theorem standsFor_of_mem_edges (h : edge ∈ (ofLibrary lib).edges) :
    ∃ e ∈ (ofLibrary lib).nodes, ∃ m t, edge.StandsFor lib e m t := by
  obtain ⟨e, he, hedge⟩ := List.mem_flatMap.1 h
  exact ⟨e, he, standsFor_of_mem_edgesOf hedge⟩

theorem exists_mem_edges (he : e ∈ (ofLibrary lib).nodes) (hm : m ∈ e.mentions)
    (hfound : lib.get? m.name = some t) (htype : t.isType = true) :
    ∃ edge ∈ (ofLibrary lib).edges, edge.StandsFor lib e m t := by
  obtain ⟨edge, hedge, hstands⟩ := exists_mem_edgesOf hm hfound htype
  exact ⟨edge, List.mem_flatMap.2 ⟨e, he, hedge⟩, hstands⟩

/-- Does every edge lead to a node? -/
def IsClosed (g : DependencyGraph) : Prop := ∀ edge ∈ g.edges, edge.target ∈ g.names

theorem isClosed_ofLibrary (h : lib.IsConcrete) : (ofLibrary lib).IsClosed := by
  intro edge hedge
  obtain ⟨e, _, m, t, hstands⟩ := standsFor_of_mem_edges hedge
  rw [hstands.target]
  exact List.mem_map_of_mem ((mem_nodes_of_isConcrete h).2
    ⟨Library.mem_of_get? hstands.found, hstands.isType⟩)

/-! ### Relations between types -/

/-- One type mentions another. -/
def Refers (g : DependencyGraph) (a b : String) : Prop :=
  ∃ edge ∈ g.edges, edge.source = a ∧ edge.target = b

/-- One type needs the definition of another. -/
def Contains (g : DependencyGraph) (a b : String) : Prop :=
  ∃ edge ∈ g.edges, edge.source = a ∧ edge.target = b ∧ edge.byValue = true

/-- One type has to come after another when some are declared beforehand. -/
def Waits (g : DependencyGraph) (forward : List String) (a b : String) : Prop :=
  ∃ edge ∈ g.edges, edge.source = a ∧ edge.target = b ∧ (edge.byValue = true ∨ b ∉ forward)

end DependencyGraph

namespace Library

open DependencyGraph (ofLibrary)

variable {lib : Library} {e t : Entity} {m : Ty.Mention} {a b : String}

theorem References.exists_edge (hconcrete : lib.IsConcrete) (h : lib.References e m t) :
    ∃ edge ∈ (ofLibrary lib).edges, edge.StandsFor lib e m t := by
  have hnode : e ∈ (ofLibrary lib).nodes :=
    (DependencyGraph.mem_nodes_of_isConcrete hconcrete).2 (List.mem_filter.1 h.source)
  exact DependencyGraph.exists_mem_edges hnode h.mention h.found h.isType

theorem exists_references (hconcrete : lib.IsConcrete) {edge : Edge} (h : edge ∈ (ofLibrary lib).edges) :
    ∃ e m t, lib.References e m t ∧ edge.StandsFor lib e m t := by
  obtain ⟨e, he, m, t, hstands⟩ := DependencyGraph.standsFor_of_mem_edges h
  have hsource : e ∈ lib.types :=
    List.mem_filter.2 ((DependencyGraph.mem_nodes_of_isConcrete hconcrete).1 he)
  exact ⟨e, m, t, ⟨hsource, hstands.mention, hstands.found, hstands.isType⟩, hstands⟩

/-- Of aliases and of enums without payloads C cannot be told beforehand. -/
theorem not_canForwardDeclare_iff (htype : t.isType = true) : t.body.canForwardDeclare = false ↔
    t.kind = .typeAlias ∨ (t.kind = .enum ∧ t.body.isTagged = false) := by
  unfold Entity.isType at htype
  unfold Entity.kind at htype ⊢
  cases hbody : t.body <;> simp_all [Body.canForwardDeclare, Body.kind, Body.isTagged, EntityKind.isType]

theorem refers_ofLibrary_iff (hconcrete : lib.IsConcrete) :
    (ofLibrary lib).Refers a b ↔ lib.Links (fun _ _ _ => True) a b := by
  constructor
  · rintro ⟨edge, hedge, rfl, rfl⟩
    obtain ⟨e, m, t, href, hstands⟩ := exists_references hconcrete hedge
    exact ⟨e, m, t, href, hstands.source.symm, hstands.target.symm, trivial⟩
  · rintro ⟨e, m, t, href, rfl, rfl, _⟩
    obtain ⟨edge, hedge, hstands⟩ := href.exists_edge hconcrete
    exact ⟨edge, hedge, hstands.source, hstands.target⟩

theorem contains_ofLibrary_iff (hconcrete : lib.IsConcrete) :
    (ofLibrary lib).Contains a b ↔ lib.Links CountsByValue a b := by
  have hcounts : ∀ {edge : Edge} {e : Entity} {m : Ty.Mention} {t : Entity}, edge.StandsFor lib e m t →
      (edge.byValue = true ↔ CountsByValue e m t) := by
    intro edge e m t hstands
    rw [hstands.byValue, Bool.or_eq_true, Bool.not_eq_true', Bool.not_eq_true',
      not_canForwardDeclare_iff hstands.isType]
    rfl
  constructor
  · rintro ⟨edge, hedge, rfl, rfl, hvalue⟩
    obtain ⟨e, m, t, href, hstands⟩ := exists_references hconcrete hedge
    exact ⟨e, m, t, href, hstands.source.symm, hstands.target.symm, (hcounts hstands).1 hvalue⟩
  · rintro ⟨e, m, t, href, rfl, rfl, hcount⟩
    obtain ⟨edge, hedge, hstands⟩ := href.exists_edge hconcrete
    exact ⟨edge, hedge, hstands.source, hstands.target, (hcounts hstands).2 hcount⟩

end Library

namespace DependencyGraph

variable {g : DependencyGraph} {lib : Library} {e : Entity} {edge : Edge} {m : Ty.Mention} {t : Entity}
  {forward : List String} {a b : String}

theorem Waits.refers (h : g.Waits forward a b) : g.Refers a b := by
  obtain ⟨edge, hmem, hs, ht, _⟩ := h
  exact ⟨edge, hmem, hs, ht⟩

theorem mem_waitsFor : b ∈ g.waitsFor forward a ↔ g.Waits forward a b := by
  simp only [waitsFor, mem_distinct, List.mem_map, List.mem_filter, Bool.and_eq_true, beq_iff_eq,
    Bool.or_eq_true, Bool.not_eq_true', List.contains_eq_mem, decide_eq_false_iff_not, Waits]
  constructor
  · rintro ⟨edge, ⟨hmem, hs, hv⟩, rfl⟩
    exact ⟨edge, hmem, hs, rfl, hv⟩
  · rintro ⟨edge, hmem, hs, rfl, hv⟩
    exact ⟨edge, ⟨hmem, hs, hv⟩, rfl⟩

theorem mem_pointerTargets :
    b ∈ g.pointerTargets a ↔ ∃ edge ∈ g.edges, edge.source = a ∧ edge.target = b ∧ edge.byValue = false := by
  simp only [pointerTargets, List.mem_map, List.mem_filter, Bool.and_eq_true, beq_iff_eq, Bool.not_eq_true']
  constructor
  · rintro ⟨edge, ⟨hmem, hs, hv⟩, rfl⟩
    exact ⟨edge, hmem, hs, rfl, hv⟩
  · rintro ⟨edge, hmem, hs, rfl, hv⟩
    exact ⟨edge, ⟨hmem, hs, hv⟩, rfl⟩

theorem step_waiting (hg : g.IsClosed) : (g.waiting forward).Step = g.Waits forward := by
  funext a b
  refine propext ⟨fun h => mem_waitsFor.1 (Graph.step_iff.1 h).1, fun h => ?_⟩
  have ⟨edge, hmem, _, ht, _⟩ := h
  exact Graph.step_iff.2 ⟨mem_waitsFor.2 h, ht ▸ hg edge hmem⟩

theorem mem_containment : b ∈ g.containment.successors a ↔ g.Contains a b := by
  simp only [containment, List.mem_map, List.mem_filter, Bool.and_eq_true, beq_iff_eq, Contains]
  constructor
  · rintro ⟨edge, ⟨hmem, hs, hv⟩, rfl⟩
    exact ⟨edge, hmem, hs, rfl, hv⟩
  · rintro ⟨edge, hmem, hs, rfl, hv⟩
    exact ⟨edge, ⟨hmem, hs, hv⟩, rfl⟩

theorem step_containment (hg : g.IsClosed) : g.containment.Step = g.Contains := by
  funext a b
  refine propext ⟨fun h => mem_containment.1 (Graph.step_iff.1 h).1, fun h => ?_⟩
  have ⟨edge, hmem, _, ht, _⟩ := h
  exact Graph.step_iff.2 ⟨mem_containment.2 h, ht ▸ hg edge hmem⟩

theorem waits_congr {forward' : List String} (h : ∀ x, x ∈ forward ↔ x ∈ forward') :
    g.Waits forward = g.Waits forward' := by
  funext a b
  simp only [Waits, h]

/-! ### Breaking cycles -/

/-- A cycle of what waits for what can be broken at a pointer edge on it. -/
def Breaks (g : DependencyGraph) (forward : List String) (edge : Edge) : Prop :=
  edge.byValue = false ∧ edge.target ∉ forward ∧ TransGen (g.Waits forward) edge.target edge.source

/-- A pointer edge to what is not yet declared is waited along. -/
theorem Breaks.waits (hmem : edge ∈ g.edges) (h : g.Breaks forward edge) :
    g.Waits forward edge.source edge.target := ⟨edge, hmem, rfl, rfl, Or.inr h.2.1⟩

/-- The first edge that breaks a cycle is chosen. -/
theorem breakingEdge?_eq_find? (hg : g.IsClosed) (forward : List String) [DecidablePred (g.Breaks forward)] :
    g.breakingEdge? forward = g.edges.find? (g.Breaks forward) := by
  refine List.find?_congr fun edge hmem => Bool.eq_iff_iff.2 ?_
  rw [decide_eq_true_iff, Breaks]
  simp only [Bool.and_eq_true, Bool.not_eq_true', List.contains_eq_mem, decide_eq_false_iff_not,
    List.any_eq_true, decide_eq_true_eq, and_assoc]
  refine and_congr_right fun _ => and_congr_right fun hnot => ?_
  rw [← step_waiting hg]
  constructor
  · rintro ⟨c, hc, hs, ht⟩
    exact Graph.transGen_of_mem_cycles hc ht hs
  · intro hback
    have hwaits : g.Waits forward edge.source edge.target := ⟨edge, hmem, rfl, rfl, Or.inr hnot⟩
    exact Graph.exists_mem_cycles (step_waiting hg ▸ TransGen.single hwaits) hback

theorem breaks_of_breakingEdge? (hg : g.IsClosed) (h : g.breakingEdge? forward = some edge) :
    edge ∈ g.edges ∧ g.Breaks forward edge := by
  classical
  rw [breakingEdge?_eq_find? hg] at h
  exact ⟨List.mem_of_find?_eq_some h, by simpa using List.find?_some h⟩

theorem not_breaks_of_breakingEdge? (hg : g.IsClosed) (h : g.breakingEdge? forward = none) :
    ∀ edge ∈ g.edges, ¬ g.Breaks forward edge := by
  classical
  rw [breakingEdge?_eq_find? hg, List.find?_eq_none] at h
  simpa using h

/-- As long as there is a cycle there is an edge to break it at. -/
theorem exists_breakingEdge (hg : g.IsClosed) (hcontain : ∀ a, ¬ TransGen g.Contains a a)
    (hcycles : (g.waiting forward).cycles ≠ []) : ∃ edge, g.breakingEdge? forward = some edge := by
  rw [← Option.ne_none_iff_exists']
  intro hnone
  have hall := not_breaks_of_breakingEdge? hg hnone
  have hcycle : ∃ a, TransGen (g.Waits forward) a a := by
    simpa [Graph.cycles_eq_nil_iff, step_waiting hg] using hcycles
  obtain ⟨a, ha⟩ := hcycle
  refine hcontain a (transGen_self_of_forall (fun x y hxy hyx => ?_) ha)
  obtain ⟨edge, hmem, rfl, rfl, hwaits⟩ := hxy
  refine ⟨edge, hmem, rfl, rfl, hwaits.elim id fun hnot => ?_⟩
  -- An edge on the cycle that is not by value would break it.
  by_contra hvalue
  exact hall edge hmem ⟨Bool.not_eq_true _ ▸ hvalue, hnot, hyx⟩

/-- What a finished plan is. -/
structure IsPlan (g : DependencyGraph) (forward : List String) : Prop where
  nodup : forward.Nodup
  /-- Nothing waits for itself any more. -/
  acyclic : ∀ a, ¬ TransGen (g.Waits forward) a a
  /-- What is planned is mentioned behind a pointer. -/
  pointer : ∀ a ∈ forward, ∃ edge ∈ g.edges, edge.target = a ∧ edge.byValue = false
  /-- What is planned mentions itself by some way. -/
  onCycle : ∀ a ∈ forward, TransGen g.Refers a a

theorem breakCycles_of_none (h : g.breakingEdge? forward = none) : g.breakCycles forward = [] := by
  rw [breakCycles]
  split
  · rfl
  · next h' => simp [h] at h'

theorem breakCycles_of_some (h : g.breakingEdge? forward = some edge) :
    g.breakCycles forward = edge :: g.breakCycles (edge.target :: forward) := by
  rw [breakCycles]
  split
  · next h' => simp [h] at h'
  · next other h' =>
    obtain rfl : edge = other := Option.some.inj (h.symm.trans h')
    rfl

theorem mem_breakCycles (hg : g.IsClosed) (forward : List String) :
    ∀ edge ∈ g.breakCycles forward, edge ∈ g.edges ∧ edge.byValue = false ∧ edge.target ∉ forward ∧
      TransGen g.Refers edge.target edge.target := by
  induction forward using breakCycles.induct g with
  | case1 forward h => simp [breakCycles_of_none h]
  | case2 forward chosen h _ ih =>
    intro edge hedge
    obtain ⟨hmem, hbreaks⟩ := breaks_of_breakingEdge? hg h
    rw [breakCycles_of_some h] at hedge
    rcases List.mem_cons.1 hedge with rfl | hedge
    · have hcycle := hbreaks.2.2.tail (hbreaks.waits hmem)
      exact ⟨hmem, hbreaks.1, hbreaks.2.1, TransGen.mono (fun _ _ => Waits.refers) _ _ hcycle⟩
    · obtain ⟨h₁, h₂, h₃, h₄⟩ := ih edge hedge
      exact ⟨h₁, h₂, fun hin => h₃ (List.mem_cons_of_mem _ hin), h₄⟩

theorem nodup_breakCycles (hg : g.IsClosed) (forward : List String) :
    ((g.breakCycles forward).map (·.target)).Nodup := by
  induction forward using breakCycles.induct g with
  | case1 forward h => simp [breakCycles_of_none h]
  | case2 forward chosen h _ ih =>
    rw [breakCycles_of_some h, List.map_cons, List.nodup_cons]
    refine ⟨fun hin => ?_, ih⟩
    obtain ⟨edge, hedge, heq⟩ := List.mem_map.1 hin
    exact (mem_breakCycles hg _ edge hedge).2.2.1 (by simp [heq])

/-- The loop goes on until there is no cycle. -/
theorem acyclic_breakCycles (hg : g.IsClosed) (hcontain : ∀ a, ¬ TransGen g.Contains a a)
    (forward : List String) :
    ∀ a, ¬ TransGen (g.Waits ((g.breakCycles forward).map (·.target) ++ forward)) a a := by
  induction forward using breakCycles.induct g with
  | case1 forward h =>
    rw [breakCycles_of_none h, List.map_nil, List.nil_append, ← step_waiting hg,
      ← Graph.cycles_eq_nil_iff]
    by_contra hcycles
    obtain ⟨edge, hedge⟩ := exists_breakingEdge hg hcontain hcycles
    simp [h] at hedge
  | case2 forward chosen h _ ih =>
    rw [breakCycles_of_some h]
    have hsame : ∀ x, x ∈ (chosen :: g.breakCycles (chosen.target :: forward)).map (·.target) ++ forward ↔
        x ∈ (g.breakCycles (chosen.target :: forward)).map (·.target) ++ chosen.target :: forward := by
      intro x
      simp only [List.map_cons, List.cons_append, List.mem_cons, List.mem_append]
      tauto
    rwa [waits_congr hsame]

/-! ### The plan -/

theorem isPlan_breakCycles (hg : g.IsClosed) (hcontain : ∀ a, ¬ TransGen g.Contains a a) :
    g.IsPlan ((g.breakCycles []).map (·.target)) where
  nodup := nodup_breakCycles hg []
  acyclic := by simpa using acyclic_breakCycles hg hcontain []
  pointer := by
    intro a ha
    obtain ⟨edge, hedge, rfl⟩ := List.mem_map.1 ha
    obtain ⟨hmem, hvalue, _⟩ := mem_breakCycles hg [] edge hedge
    exact ⟨edge, hmem, rfl, hvalue⟩
  onCycle := by
    intro a ha
    obtain ⟨edge, hedge, rfl⟩ := List.mem_map.1 ha
    exact (mem_breakCycles hg [] edge hedge).2.2.2

/-- The plan depends on the names of the nodes and on the edges alone. -/
theorem breakingEdge?_congr {g' : DependencyGraph} (hnames : g'.names = g.names) (hedges : g'.edges = g.edges)
    (forward : List String) : g'.breakingEdge? forward = g.breakingEdge? forward := by
  have hwaiting : g'.waiting forward = g.waiting forward := by
    unfold waiting waitsFor
    rw [hnames, hedges]
  unfold breakingEdge?
  rw [hwaiting, hedges]

theorem breakCycles_congr {g' : DependencyGraph} (hnames : g'.names = g.names) (hedges : g'.edges = g.edges)
    (forward : List String) : g'.breakCycles forward = g.breakCycles forward := by
  have hedge := breakingEdge?_congr hnames hedges
  induction forward using breakCycles.induct g with
  | case1 forward h => rw [breakCycles_of_none h, breakCycles_of_none ((hedge _).trans h)]
  | case2 forward chosen h _ ih =>
    rw [breakCycles_of_some h, breakCycles_of_some ((hedge _).trans h), ih]

theorem plan_congr {g' : DependencyGraph} (hnames : g'.names = g.names) (hedges : g'.edges = g.edges) :
    g'.plan = g.plan := by
  unfold plan containment
  rw [hnames, hedges, breakCycles_congr hnames hedges]

/-- Where types do not contain each other, what breaks the cycles is planned. -/
theorem plan_of_acyclic (hg : g.IsClosed) (hcontain : ∀ a, ¬ TransGen g.Contains a a) :
    g.plan.result = .ok ((g.breakCycles []).map (·.target)) := by
  have hcycles : g.containment.cycles = [] := by rwa [Graph.cycles_eq_nil_iff, step_containment hg]
  rw [plan, hcycles]

/-- Either types contain each other and nothing is planned, or they do not and the plan is finished. -/
theorem plan_cases (hg : g.IsClosed) :
    ((∃ a, TransGen g.Contains a a) ∧ ∃ cycle, g.plan.result = .error (.containment cycle)) ∨
      ((∀ a, ¬ TransGen g.Contains a a) ∧ ∃ forward, g.plan.result = .ok forward ∧ g.IsPlan forward) := by
  by_cases hcontain : ∃ a, TransGen g.Contains a a
  · refine Or.inl ⟨hcontain, ?_⟩
    have hne : g.containment.cycles ≠ [] := by
      rwa [ne_eq, Graph.cycles_eq_nil_iff, step_containment hg, ← not_exists, not_not]
    obtain ⟨cycle, rest, hcycles⟩ := List.exists_cons_of_ne_nil hne
    exact ⟨cycle, by rw [plan, hcycles]; rfl⟩
  · have hcontain := not_exists.1 hcontain
    exact Or.inr ⟨hcontain, _, plan_of_acyclic hg hcontain, isPlan_breakCycles hg hcontain⟩

end DependencyGraph

end CrateHeader
