import Mathlib
import CrateHeader.Proofs.Ordering

/-!
# Which cycles are broken

A forward declaration breaks a cycle at a pointer, but not at a pointer to an alias, since C cannot be told of an
alias beforehand. So types have no order exactly when they mention each other in a circle in which each
mention is outside of pointers and function types or is of an alias. In an order that is found every circle
of types has a pointer to a type that is declared in front of the definition that has the pointer.
-/

namespace CrateHeader

open Relation (TransGen)
open DependencyGraph (ofLibrary)

namespace Library

variable {lib : Library} {forward : List String} {order : List Entity} {e t : Entity} {m : Ty.Mention}
  {a b : String}

/-- No forward declaration helps with a mention of what is held, or of an alias. -/
def NeedsDefinition (_ : Entity) (m : Ty.Mention) (t : Entity) : Prop :=
  m.behindPointer = false ∨ t.kind = .typeAlias

/-- A mention that is not behind a pointer to something declared in front of the definition. -/
def IsUnbroken (events : List Event) (e : Entity) (m : Ty.Mention) (t : Entity) : Prop :=
  m.behindPointer = false ∨ ¬ [⟨.forwardDeclare, t⟩, ⟨.defineType, e⟩].Sublist events

/-! ### Mentions and edges -/

/-- An enum without payloads mentions nothing. -/
theorem mentions_of_untagged (hkind : e.kind = .enum) (h : e.body.isTagged = false) : e.mentions = [] := by
  unfold Entity.kind at hkind
  unfold Entity.mentions
  cases hbody : e.body with
  | enum variants =>
    rw [hbody] at h
    have hnone : ∀ v ∈ variants, v.fields = [] := by simpa [Body.isTagged, Variant.hasPayload] using h
    have htypes : (Body.enum variants).types = [] := by
      rw [Body.types, List.flatMap_eq_nil_iff]
      intro v hv
      rw [hnone v hv, List.map_nil]
    rw [htypes]
    rfl
  | _ => simp [hbody, Body.kind] at hkind

/-- An edge by value that leads back to its source is a mention that needs a definition. -/
theorem links_of_contains (htable : lib.IsTable) (hconcrete : lib.IsConcrete)
    (h : (ofLibrary lib).Contains a b) (hback : TransGen (ofLibrary lib).Contains b a) :
    lib.Links NeedsDefinition a b := by
  obtain ⟨e, m, t, href, rfl, rfl, hvalue⟩ := (contains_ofLibrary_iff hconcrete).1 h
  refine ⟨e, m, t, href, rfl, rfl, hvalue.imp_right ?_⟩
  rintro (halias | ⟨henum, huntagged⟩)
  · exact halias
  · -- the target has an edge of its own, so it mentions something
    obtain ⟨_, hnext, _⟩ := TransGen.head'_iff.1 hback
    obtain ⟨e', m', _, href', hsource, _⟩ := (contains_ofLibrary_iff hconcrete).1 hnext
    obtain rfl := eq_of_name_eq htable (List.mem_filter.1 href'.source).1 (mem_of_get? href.found) hsource
    have hm := href'.mention
    rw [mentions_of_untagged henum huntagged] at hm
    cases hm

theorem contains_of_links (hconcrete : lib.IsConcrete) (h : lib.Links NeedsDefinition a b) :
    (ofLibrary lib).Contains a b := by
  obtain ⟨e, m, t, href, hsource, htarget, hneeds⟩ := h
  exact (contains_ofLibrary_iff hconcrete).2 ⟨e, m, t, href, hsource, htarget, hneeds.imp_right Or.inl⟩

/-- Types contain each other when they mention each other in a circle that no forward declaration breaks. -/
theorem exists_contains_iff (htable : lib.IsTable) (hconcrete : lib.IsConcrete) :
    (∃ a, TransGen (ofLibrary lib).Contains a a) ↔ ∃ a, TransGen (lib.Links NeedsDefinition) a a := by
  constructor
  · rintro ⟨a, ha⟩
    exact ⟨a, transGen_self_of_forall (fun _ _ h hback => links_of_contains htable hconcrete h hback) ha⟩
  · rintro ⟨a, ha⟩
    exact ⟨a, TransGen.mono (fun _ _ => contains_of_links hconcrete) _ _ ha⟩

/-! ### Along a schedule -/

/-- A definition comes behind the declaration of a planned type that it has a pointer to. -/
theorem sublist_of_pointer (htable : lib.IsTable) (hconcrete : lib.IsConcrete) (hs : Schedule lib forward order)
    (href : lib.References e m t) {edge : Edge} (hedge : edge ∈ (ofLibrary lib).edges)
    (hstands : edge.StandsFor lib e m t) (hpointer : edge.byValue = false) (hplanned : t.name ∈ forward) :
    [⟨.forwardDeclare, t⟩, ⟨.defineType, e⟩].Sublist (lib.typeEvents forward order) := by
  have hkind : e.kind ≠ .opaqueType := by
    intro hop
    have hm := href.mention
    simp [Entity.mentions, Entity.body_of_opaque hop, Body.types] at hm
  have htarget : t.name ∈ (ofLibrary lib).pointerTargets e.name :=
    DependencyGraph.mem_pointerTargets.2 ⟨edge, hedge, hstands.source, hstands.target, hpointer⟩
  exact sublist_of_needed htable hconcrete hs href.source hkind (mem_of_get? href.found)
    (List.mem_cons_of_mem _ htarget) hplanned

/-- What is not broken has to wait. -/
theorem waits_of_links (htable : lib.IsTable) (hconcrete : lib.IsConcrete) (hs : Schedule lib forward order)
    {events : List Event} (hevents : (lib.typeEvents forward order).Sublist events)
    (h : lib.Links (IsUnbroken events) a b) : (ofLibrary lib).Waits forward a b := by
  obtain ⟨e, m, t, href, rfl, rfl, hunbroken⟩ := h
  obtain ⟨edge, hedge, hstands⟩ := href.exists_edge hconcrete
  refine ⟨edge, hedge, hstands.source, hstands.target, ?_⟩
  by_contra hnot
  rw [not_or, Bool.not_eq_true, not_not] at hnot
  obtain ⟨hpointer, hplanned⟩ := hnot
  rcases hunbroken with hheld | hmissing
  · have hvalue := hstands.byValue
    simp [hpointer, hheld] at hvalue
  · exact hmissing ((sublist_of_pointer htable hconcrete hs href hedge hstands hpointer hplanned).trans hevents)

/-! ### The main statement -/

/-- Ordering fails exactly when types mention each other in a circle in which each mention is outside of pointers
and function types or is of an alias. Otherwise each circle of types has a mention behind a pointer of a type
that is declared in front of the definition. -/
theorem order_breaks_cycles (htable : lib.IsTable) (hconcrete : lib.IsConcrete) :
    ((∃ error, lib.order.result = .error error ∧ error.diagnostic.kind = .unrepresentableCycle) ↔
        ∃ a, TransGen (lib.Links NeedsDefinition) a a) ∧
      ((∀ a, ¬ TransGen (lib.Links NeedsDefinition) a a) →
        ∃ events, lib.order.result = .ok events ∧ ∀ a, ¬ TransGen (lib.Links (IsUnbroken events)) a a) := by
  have hiff := exists_contains_iff htable hconcrete
  rcases order_cases htable hconcrete with ⟨hcycle, cycle, herror⟩ | ⟨hnone, forward, order, hs, _, _, hok⟩
  · have hcycle := hiff.1 hcycle
    refine ⟨⟨fun _ => hcycle, fun _ => ⟨_, herror, rfl⟩⟩, fun hnone => ?_⟩
    obtain ⟨a, ha⟩ := hcycle
    exact absurd ha (hnone a)
  · refine ⟨⟨?_, fun hcycle => ?_⟩, fun _ => ⟨_, hok, fun a ha => ?_⟩⟩
    · rintro ⟨error, herror, _⟩
      rw [hok] at herror
      cases herror
    · obtain ⟨a, ha⟩ := hiff.2 hcycle
      exact absurd ha (hnone a)
    · have hevents : (lib.typeEvents forward order).Sublist
          (lib.typeEvents forward order ++ lib.constantEvents ++ lib.valueEvents) := by
        rw [List.append_assoc]
        exact List.sublist_append_left _ _
      exact hs.plan.acyclic a (TransGen.mono (fun _ _ => waits_of_links htable hconcrete hs hevents) _ _ ha)

theorem order_breaks_cycles_forest : forest.IsTable ∧ forest.IsConcrete ∧
    TransGen (forest.Links fun _ _ _ => True) "Node" "Node" ∧
    (∀ a, ¬ TransGen (forest.Links NeedsDefinition) a a) ∧
    ∃ events, forest.order.result = .ok events ∧ ∀ a, ¬ TransGen (forest.Links (IsUnbroken events)) a a := by
  have hself : forest.Links (fun _ _ _ => True) "Node" "Node" :=
    ⟨_, ⟨"Node", [], true⟩, _, ⟨List.mem_of_mem_head? rfl, by decide, rfl, rfl⟩, rfl, rfl, trivial⟩
  have hnone : ∀ a, ¬ TransGen (forest.Links NeedsDefinition) a a := by
    refine not_exists.1 fun hcycle => ?_
    obtain ⟨a, ha⟩ := (exists_contains_iff isTable_forest isConcrete_forest).2 hcycle
    exact not_contains_forest a ha
  exact ⟨isTable_forest, isConcrete_forest, .single hself, hnone,
    (order_breaks_cycles isTable_forest isConcrete_forest).2 hnone⟩

def ringNode : Entity := .bare "Node" 0 (.struct [.bare "next" (.pointer (.path "Link" []) true true)])

def ringLink : Entity := .bare "Link" 1 (.typeAlias (.path "Node" []))

/-- A struct with a pointer to an alias of itself. -/
def ring : Library := ⟨[ringNode, ringLink], [], []⟩

theorem ring_links {way : Entity → Ty.Mention → Entity → Prop} (h : ring.Links way a b) :
    (a = "Node" ∧ b = "Link" ∧ way ringNode ⟨"Link", [], true⟩ ringLink) ∨
      (a = "Link" ∧ b = "Node" ∧ way ringLink ⟨"Node", [], false⟩ ringNode) := by
  obtain ⟨e, m, t, href, rfl, rfl, hway⟩ := h
  have htypes : ring.types = [ringNode, ringLink] := rfl
  have hsource := href.source
  have hm := href.mention
  have hfound := href.found
  rw [htypes] at hsource
  rcases List.mem_cons.1 hsource with rfl | hsource
  · have hmentions : ringNode.mentions = [⟨"Link", [], true⟩] := rfl
    rw [hmentions] at hm
    obtain rfl := List.mem_singleton.1 hm
    obtain rfl : ringLink = t := Option.some.inj hfound
    exact Or.inl ⟨rfl, rfl, hway⟩
  · obtain rfl := List.mem_singleton.1 hsource
    have hmentions : ringLink.mentions = [⟨"Node", [], false⟩] := rfl
    rw [hmentions] at hm
    obtain rfl := List.mem_singleton.1 hm
    obtain rfl : ringNode = t := Option.some.inj hfound
    exact Or.inr ⟨rfl, rfl, hway⟩

/-- The alias holds the struct, but nothing holds the alias, and there is no other circle. Still no order is found,
since nothing can be declared in front of the alias. -/
theorem order_ring : ring.IsTable ∧ ring.IsConcrete ∧
    (∀ a, ¬ TransGen (ring.Links fun _ m _ => m.behindPointer = false) a a) ∧
    (∀ a, ¬ TransGen (ring.Links fun e _ t => e.kind = .typeAlias ∧ t.kind = .typeAlias) a a) ∧
    ring.order.result = .error (.containment ["Node", "Link"]) ∧
    (OrderError.containment ["Node", "Link"]).diagnostic.kind = .unrepresentableCycle := by
  have htable : ring.IsTable := by unfold IsTable; decide
  have hconcrete : ring.IsConcrete := by unfold IsConcrete; decide
  have hnone : ∀ way : Entity → Ty.Mention → Entity → Prop,
      ¬ way ringNode ⟨"Link", [], true⟩ ringLink → ∀ a, ¬ TransGen (ring.Links way) a a := by
    intro way hway a ha
    obtain ⟨_, hfirst, _⟩ := TransGen.head'_iff.1 ha
    obtain ⟨_, _, hlast⟩ := TransGen.tail'_iff.1 ha
    rcases ring_links hfirst with ⟨_, _, h⟩ | ⟨rfl, _, _⟩
    · exact hway h
    · rcases ring_links hlast with ⟨_, _, h⟩ | ⟨_, hname, _⟩
      · exact hway h
      · exact absurd hname (by decide)
  refine ⟨htable, hconcrete, hnone _ (by decide), hnone _ (by decide), ?_, rfl⟩
  have hcycles : (ofLibrary ring).containment.cycles = [["Node", "Link"]] := by cbv
  rw [order_result, DependencyGraph.plan, hcycles]
  rfl

end Library

end CrateHeader
