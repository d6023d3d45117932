import Mathlib
import CrateHeader.Failure
import CrateHeader.Proofs.Announcing

/-!
# Ordering is total and complete

A library without templates either has types that contain each other, and then it has no order, or it has a
schedule: a finished plan and an order of its types in which each is ready. What the library says along the
schedule is what it has to say: one definition or declaration of every type, a declaration in front of it of
every planned one, and one event for every constant, static and function.
-/

namespace CrateHeader

open Relation (TransGen)
open DependencyGraph (ofLibrary)

/-- A plan for a library and an order of its types that keeps to it. -/
structure Schedule (lib : Library) (forward : List String) (order : List Entity) : Prop where
  plan : (ofLibrary lib).IsPlan forward
  perm : order.Perm (ofLibrary lib).nodes
  ready : (ofLibrary lib).ReadyOrder forward [] order

namespace Library

variable {lib : Library} {forward : List String} {order : List Entity} {e t : Entity}

/-- What a schedule says of the types. -/
def typeEvents (lib : Library) (forward : List String) (order : List Entity) : List Event :=
  (ofLibrary lib).eventsAlong forward [] order

/-- All that a library has to say when some types are declared beforehand, in no particular order. -/
def announcements (lib : Library) (forward : List String) : List Event :=
  (lib.types.filter fun e => e.kind ≠ .opaqueType).map (Event.mk .defineType) ++
    (lib.types.filter fun e => e.kind = .opaqueType ∨ e.name ∈ forward).map (Event.mk .forwardDeclare) ++
    (lib.ofKind .constant).map (Event.mk .declareConstant) ++
    (lib.ofKind .static).map (Event.mk .declareStatic) ++
    (lib.ofKind .function).map (Event.mk .declareFunction)

/-! ### Every library without containment has a schedule -/

theorem order_result (lib : Library) : lib.order.result = (ofLibrary lib).plan.result.bind fun forward =>
    ((ofLibrary lib).orderTypes forward).map (· ++ lib.constantEvents ++ lib.valueEvents) := by
  simp only [order, Logged.bind_result]
  rfl

theorem pairwise_rank_nodes (lib : Library) :
    (ofLibrary lib).nodes.Pairwise fun a b => a.rank ≤ b.rank := Entity.pairwise_sortBy_before _

theorem nodup_names_nodes (htable : lib.IsTable) : ((ofLibrary lib).nodes.map (·.name)).Nodup := by
  have hperm := (sortBy_perm Entity.before (lib.types.filter fun e => !e.isGeneric)).map (·.name)
  refine hperm.nodup_iff.2 (List.Nodup.sublist (List.Sublist.map _ ?_) htable)
  exact List.Sublist.trans List.filter_sublist List.filter_sublist

/-- The types are in order when each is the earliest of those left that is ready. -/
theorem orderTypes_eq_ok_iff (htable : lib.IsTable) {events : List Event} :
    (ofLibrary lib).orderTypes forward = .ok events ↔
      ∃ order, (ofLibrary lib).ChosenOrder forward [] (ofLibrary lib).nodes order ∧
        events = lib.typeEvents forward order :=
  DependencyGraph.orderTypes_eq_ok_iff (pairwise_rank_nodes lib) (nodup_names_nodes htable)

/-- Either types contain each other and that is the failure, or there is a schedule and no failure. -/
theorem order_cases (htable : lib.IsTable) (hconcrete : lib.IsConcrete) :
    ((∃ a, TransGen (ofLibrary lib).Contains a a) ∧
        ∃ cycle, lib.order.result = .error (.containment cycle)) ∨
      ((∀ a, ¬ TransGen (ofLibrary lib).Contains a a) ∧ ∃ forward order, Schedule lib forward order ∧
        (ofLibrary lib).plan.result = .ok forward ∧
        (ofLibrary lib).orderTypes forward = .ok (lib.typeEvents forward order) ∧
        lib.order.result = .ok (lib.typeEvents forward order ++ lib.constantEvents ++ lib.valueEvents)) := by
  have hclosed := DependencyGraph.isClosed_ofLibrary hconcrete
  rcases DependencyGraph.plan_cases hclosed with ⟨hcycle, cycle, hplan⟩ | ⟨hnone, forward, hplan, hfinished⟩
  · exact Or.inl ⟨hcycle, cycle, by rw [order_result, hplan]; rfl⟩
  · have hall : ∀ e ∈ (ofLibrary lib).nodes, ∀ b, (ofLibrary lib).Waits forward e.name b →
        b ∈ [] ∨ b ∈ (ofLibrary lib).nodes.map (·.name) := by
      rintro e _ b ⟨edge, hedge, _, rfl, _⟩
      exact Or.inr (hclosed edge hedge)
    obtain ⟨order, hchosen⟩ := DependencyGraph.exists_chosenOrder_of_acyclic hfinished.acyclic [] _ hall
    have hevents := (orderTypes_eq_ok_iff htable).2 ⟨order, hchosen, rfl⟩
    refine Or.inr ⟨hnone, forward, order, ⟨hfinished, hchosen.perm, hchosen.readyOrder⟩, hplan, hevents, ?_⟩
    rw [order_result, hplan]
    simp only [Except.bind, hevents]
    rfl

/-- An order that is found is that of a schedule. -/
theorem exists_schedule (htable : lib.IsTable) (hconcrete : lib.IsConcrete) {events : List Event}
    (h : lib.order.result = .ok events) : ∃ forward order, Schedule lib forward order ∧
      events = lib.typeEvents forward order ++ lib.constantEvents ++ lib.valueEvents := by
  rcases order_cases htable hconcrete with ⟨_, cycle, herror⟩ | ⟨_, forward, order, hschedule, _, _, hok⟩
  · rw [h] at herror
    cases herror
  · rw [h] at hok
    exact ⟨forward, order, hschedule, Except.ok.inj hok⟩

/-! ### What a schedule says -/

theorem mem_order (hconcrete : lib.IsConcrete) (hs : Schedule lib forward order) :
    e ∈ order ↔ e ∈ lib.types := by
  rw [hs.perm.mem_iff, DependencyGraph.mem_nodes_of_isConcrete hconcrete, types, List.mem_filter]

theorem nodup_order (htable : lib.IsTable) (hs : Schedule lib forward order) : order.Nodup := by
  rw [hs.perm.nodup_iff, DependencyGraph.ofLibrary, (sortBy_perm _ _).nodup_iff]
  exact ((nodup_entities htable).filter _).filter _

/-- What is planned is a type that has a definition, can be declared beforehand and lies on a cycle. -/
theorem exists_of_planned (htable : lib.IsTable) (hconcrete : lib.IsConcrete)
    (hs : Schedule lib forward order) {a : String} (ha : a ∈ forward) :
    ∃ t ∈ lib.types, t.name = a ∧ t.kind ≠ .opaqueType ∧ t.body.canForwardDeclare = true ∧
      TransGen (ofLibrary lib).Refers a a := by
  obtain ⟨edge, hedge, rfl, hpointer⟩ := hs.plan.pointer a ha
  obtain ⟨_, _, m, t, hstands⟩ := DependencyGraph.standsFor_of_mem_edges hedge
  have ht := mem_of_get? hstands.found
  have hcan : t.body.canForwardDeclare = true := by
    have h := hstands.byValue
    simp only [hpointer, Bool.false_eq, Bool.or_eq_false_iff, Bool.not_eq_false'] at h
    exact h.2
  have hcycle := hs.plan.onCycle _ ha
  refine ⟨t, by simp [types, ht, hstands.isType], hstands.target.symm, ?_, hcan, hcycle⟩
  -- A type on a cycle mentions something, which an opaque type does not.
  obtain ⟨next, ⟨first, hfirst, hsource, _⟩, _⟩ := TransGen.head'_iff.1 hcycle
  obtain ⟨user, huser, m', _, hfrom⟩ := DependencyGraph.standsFor_of_mem_edges hfirst
  have huser := ((DependencyGraph.mem_nodes_of_isConcrete hconcrete).1 huser).1
  obtain rfl : user = t := eq_of_name_eq htable huser ht
    (by rw [← hfrom.source, hsource, hstands.target])
  intro hop
  have hmention := hfrom.mention
  simp [Entity.mentions, Entity.body_of_opaque hop, Body.types] at hmention

theorem define_mem_typeEvents (hconcrete : lib.IsConcrete) (hs : Schedule lib forward order) :
    ⟨.defineType, t⟩ ∈ lib.typeEvents forward order ↔ t ∈ lib.types ∧ t.kind ≠ .opaqueType := by
  rw [typeEvents, DependencyGraph.define_mem_eventsAlong, mem_order hconcrete hs]

/-- What is declared along a part of a schedule is declared as the entity of the table. -/
theorem forward_mem_of_declaredAfter {front rest : List Entity} (htable : lib.IsTable)
    (hconcrete : lib.IsConcrete) (hs : Schedule lib forward (front ++ rest)) (ht : t ∈ lib.entities)
    (h : t.name ∈ (ofLibrary lib).declaredAfter forward [] front) :
    ⟨.forwardDeclare, t⟩ ∈ lib.typeEvents forward front := by
  rcases DependencyGraph.mem_declaredAfter.1 h with h | ⟨t', hname, hmem⟩
  · simp at h
  · have ht' : t' ∈ lib.entities := by
      rcases (DependencyGraph.of_forward_mem_eventsAlong hmem).2 with ⟨hin, _⟩ | ⟨_, hget⟩
      · exact (List.mem_filter.1 ((mem_order hconcrete hs).1 (List.mem_append_left _ hin))).1
      · exact mem_of_get? hget
    obtain rfl := eq_of_name_eq htable ht' ht hname
    exact hmem

/-- What a definition needs beforehand is declared in front of it. -/
theorem forward_mem_before_define (htable : lib.IsTable) (hconcrete : lib.IsConcrete)
    (hs : Schedule lib forward order) {before after : List Event}
    (h : lib.typeEvents forward order = before ++ ⟨.defineType, e⟩ :: after) (ht : t ∈ lib.entities)
    (hneeded : t.name ∈ e.name :: (ofLibrary lib).pointerTargets e.name) (hplanned : t.name ∈ forward) :
    ⟨.forwardDeclare, t⟩ ∈ before := by
  obtain ⟨front, rest, rfl, rfl⟩ := DependencyGraph.eventsAlong_before_define h
  by_cases hdeclared : t.name ∈ (ofLibrary lib).declaredAfter forward [] front
  · exact List.mem_append_left _ (forward_mem_of_declaredAfter htable hconcrete hs ht hdeclared)
  · exact List.mem_append_right _ (DependencyGraph.mem_forwardEvents.2
      ⟨rfl, get?_of_mem htable ht, hneeded, hplanned, hdeclared⟩)

/-- What stands in front of a definition for a type that it mentions: its definition, its declaration if it is
opaque, or its declaration if it is planned and mentioned behind a pointer. -/
theorem available_before_define (htable : lib.IsTable) (hconcrete : lib.IsConcrete)
    (hs : Schedule lib forward order) {before after : List Event}
    (h : lib.typeEvents forward order = before ++ ⟨.defineType, e⟩ :: after) {m : Ty.Mention}
    (hm : m ∈ e.mentions) (hfound : lib.get? m.name = some t) (htype : t.isType = true) :
    ⟨.defineType, t⟩ ∈ before ∨ (t.kind = .opaqueType ∧ ⟨.forwardDeclare, t⟩ ∈ before) ∨
      (m.behindPointer = true ∧ ⟨.forwardDeclare, t⟩ ∈ before) := by
  have ht := mem_of_get? hfound
  obtain ⟨front, rest, rfl, hbefore⟩ := DependencyGraph.eventsAlong_before_define h
  have he : e ∈ (ofLibrary lib).nodes := hs.perm.mem_iff.1 (by simp)
  obtain ⟨edge, hedge, hstands⟩ := DependencyGraph.exists_mem_edges he hm hfound htype
  by_cases hwaits : edge.byValue = true ∨ t.name ∉ forward
  · -- The mentioned type has been placed.
    have hfront : t ∈ front := by
      have hedge : (ofLibrary lib).Waits forward e.name t.name :=
        ⟨edge, hedge, hstands.source, hstands.target, hwaits⟩
      rcases DependencyGraph.mem_of_readyOrder hs.ready hedge with hin | hin
      · simp at hin
      · obtain ⟨t', ht', hname⟩ := List.mem_map.1 hin
        have hmem := (List.mem_filter.1 ((mem_order hconcrete hs).1 (List.mem_append_left _ ht'))).1
        exact eq_of_name_eq htable hmem ht hname ▸ ht'
    by_cases hop : t.kind = .opaqueType
    · refine Or.inr (Or.inl ⟨hop, ?_⟩)
      rw [hbefore]
      exact List.mem_append_left _ (forward_mem_of_declaredAfter htable hconcrete hs ht
        (DependencyGraph.mem_declaredAfter_of_opaque hfront hop))
    · refine Or.inl ?_
      rw [hbefore]
      exact List.mem_append_left _ (DependencyGraph.define_mem_eventsAlong.2 ⟨hfront, hop⟩)
  · -- The mention is behind a pointer and the mentioned type is planned.
    rw [not_or, Bool.not_eq_true, not_not] at hwaits
    obtain ⟨hpointer, hplanned⟩ := hwaits
    have hbehind : m.behindPointer = true := by
      have hv := hstands.byValue
      simp only [hpointer, Bool.false_eq, Bool.or_eq_false_iff, Bool.not_eq_false'] at hv
      exact hv.1
    have htarget : t.name ∈ (ofLibrary lib).pointerTargets e.name :=
      DependencyGraph.mem_pointerTargets.2 ⟨edge, hedge, hstands.source, hstands.target, hpointer⟩
    exact Or.inr (Or.inr ⟨hbehind, forward_mem_before_define htable hconcrete hs h ht
      (List.mem_cons_of_mem _ htarget) hplanned⟩)

theorem forward_mem_typeEvents (htable : lib.IsTable) (hconcrete : lib.IsConcrete)
    (hs : Schedule lib forward order) : ⟨.forwardDeclare, t⟩ ∈ lib.typeEvents forward order ↔
      t ∈ lib.types ∧ (t.kind = .opaqueType ∨ t.name ∈ forward) := by
  constructor
  · intro h
    rcases (DependencyGraph.of_forward_mem_eventsAlong h).2 with ⟨hin, hop⟩ | ⟨hplanned, hget⟩
    · exact ⟨(mem_order hconcrete hs).1 hin, Or.inl hop⟩
    · obtain ⟨t', ht', hname, _⟩ := exists_of_planned htable hconcrete hs hplanned
      have hmem := (List.mem_filter.1 ht').1
      exact ⟨eq_of_name_eq htable hmem (mem_of_get? hget) hname ▸ ht', Or.inr hplanned⟩
  · rintro ⟨ht, hop | hplanned⟩
    · have hall : Schedule lib forward (order ++ []) := by simpa using hs
      exact forward_mem_of_declaredAfter htable hconcrete hall (List.mem_filter.1 ht).1
        (DependencyGraph.mem_declaredAfter_of_opaque ((mem_order hconcrete hs).2 ht) hop)
    · have hmem := (List.mem_filter.1 ht).1
      obtain ⟨t', ht', hname, hkind, _⟩ := exists_of_planned htable hconcrete hs hplanned
      obtain rfl := eq_of_name_eq htable (List.mem_filter.1 ht').1 hmem hname
      obtain ⟨before, after, hsplit⟩ :=
        List.append_of_mem ((define_mem_typeEvents hconcrete hs).2 ⟨ht, hkind⟩)
      rw [hsplit]
      exact List.mem_append_left _ (forward_mem_before_define htable hconcrete hs hsplit hmem
        List.mem_cons_self hplanned)

/-! ### Nothing is missing and nothing is said twice -/

theorem nodup_types (htable : lib.IsTable) : lib.types.Nodup := (nodup_entities htable).filter _

theorem nodup_ofKind (htable : lib.IsTable) (kind : EntityKind) : (lib.ofKind kind).Nodup :=
  (nodup_entities htable).filter _

theorem nodup_map_event {kind : EventKind} {entities : List Entity} (h : entities.Nodup) :
    (entities.map (Event.mk kind)).Nodup :=
  h.map fun _ _ heq => (Event.mk.inj heq).2

theorem nodup_announcements (htable : lib.IsTable) (forward : List String) :
    (lib.announcements forward).Nodup := by
  have hdisjoint : ∀ {kind kind' : EventKind} {l l' : List Entity}, kind ≠ kind' →
      (l.map (Event.mk kind)).Disjoint (l'.map (Event.mk kind')) := by
    intro kind kind' l l' hne event h h'
    obtain ⟨_, _, rfl⟩ := List.mem_map.1 h
    obtain ⟨_, _, heq⟩ := List.mem_map.1 h'
    exact hne (Event.mk.inj heq).1.symm
  have htypes := nodup_types htable
  unfold announcements
  refine List.Nodup.append (.append (.append (.append ?_ ?_ ?_) ?_ ?_) ?_ ?_) ?_ ?_
  · exact nodup_map_event (htypes.filter _)
  · exact nodup_map_event (htypes.filter _)
  · exact hdisjoint (by decide)
  · exact nodup_map_event (nodup_ofKind htable _)
  · exact List.disjoint_append_left.2 ⟨hdisjoint (by decide), hdisjoint (by decide)⟩
  · exact nodup_map_event (nodup_ofKind htable _)
  · simp only [List.disjoint_append_left]
    exact ⟨⟨hdisjoint (by decide), hdisjoint (by decide)⟩, hdisjoint (by decide)⟩
  · exact nodup_map_event (nodup_ofKind htable _)
  · simp only [List.disjoint_append_left]
    exact ⟨⟨⟨hdisjoint (by decide), hdisjoint (by decide)⟩, hdisjoint (by decide)⟩, hdisjoint (by decide)⟩

theorem typeEvents_perm (htable : lib.IsTable) (hconcrete : lib.IsConcrete)
    (hs : Schedule lib forward order) : (lib.typeEvents forward order).Perm
      ((lib.types.filter fun e => e.kind ≠ .opaqueType).map (Event.mk .defineType) ++
        (lib.types.filter fun e => e.kind = .opaqueType ∨ e.name ∈ forward).map
          (Event.mk .forwardDeclare)) := by
  have hright := (List.nodup_append.1 (List.nodup_append.1 (List.nodup_append.1
    (nodup_announcements htable forward)).1).1).1
  refine (List.perm_ext_iff_of_nodup (DependencyGraph.nodup_eventsAlong (nodup_order htable hs)) hright).2 ?_
  rintro ⟨kind, t⟩
  simp only [List.mem_append, List.mem_map, List.mem_filter, Event.mk.injEq, decide_eq_true_eq]
  constructor
  · intro h
    rcases DependencyGraph.kind_of_mem_eventsAlong h with rfl | rfl
    · exact Or.inr ⟨t, (forward_mem_typeEvents htable hconcrete hs).1 h, rfl, rfl⟩
    · exact Or.inl ⟨t, (define_mem_typeEvents hconcrete hs).1 h, rfl, rfl⟩
  · rintro (⟨t, ht, rfl, rfl⟩ | ⟨t, ht, rfl, rfl⟩)
    · exact (define_mem_typeEvents hconcrete hs).2 ht
    · exact (forward_mem_typeEvents htable hconcrete hs).2 ht

theorem constantEvents_perm (lib : Library) :
    lib.constantEvents.Perm ((lib.ofKind .constant).map (Event.mk .declareConstant)) :=
  (sortBy_perm _ _).map _

theorem valueEvents_perm (lib : Library) : lib.valueEvents.Perm
    ((lib.ofKind .static).map (Event.mk .declareStatic) ++
      (lib.ofKind .function).map (Event.mk .declareFunction)) := by
  refine ((sortBy_perm _ _).map _).trans (.of_eq ?_)
  rw [List.map_append]
  congr 1
  · refine List.map_congr_left fun e he => ?_
    have hkind : e.kind = .static := by simpa [ofKind] using (List.mem_filter.1 he).2
    simp [hkind]
  · refine List.map_congr_left fun e he => ?_
    have hkind : e.kind = .function := by simpa [ofKind] using (List.mem_filter.1 he).2
    simp [hkind]

theorem events_perm (htable : lib.IsTable) (hconcrete : lib.IsConcrete)
    (hs : Schedule lib forward order) :
    (lib.typeEvents forward order ++ lib.constantEvents ++ lib.valueEvents).Perm
      (lib.announcements forward) := by
  refine (((typeEvents_perm htable hconcrete hs).append (constantEvents_perm lib)).append
    (valueEvents_perm lib)).trans (.of_eq ?_)
  simp only [announcements, List.append_assoc]

/-- A definition comes behind the declaration of a planned type that it needs. -/
theorem sublist_of_needed (htable : lib.IsTable) (hconcrete : lib.IsConcrete) (hs : Schedule lib forward order)
    (he : e ∈ lib.types) (hkind : e.kind ≠ .opaqueType) (ht : t ∈ lib.entities)
    (hneeded : t.name ∈ e.name :: (ofLibrary lib).pointerTargets e.name) (hplanned : t.name ∈ forward) :
    [⟨.forwardDeclare, t⟩, ⟨.defineType, e⟩].Sublist (lib.typeEvents forward order) := by
  obtain ⟨before, after, hsplit⟩ :=
    List.append_of_mem ((define_mem_typeEvents hconcrete hs).2 ⟨he, hkind⟩)
  have hforward := forward_mem_before_define htable hconcrete hs hsplit ht hneeded hplanned
  rw [hsplit]
  exact (List.singleton_sublist.2 hforward).append
    (List.singleton_sublist.2 (List.mem_cons_self : Event.mk .defineType e ∈ _ :: after))

/-- A planned type is declared before it is defined. -/
theorem sublist_of_planned (htable : lib.IsTable) (hconcrete : lib.IsConcrete)
    (hs : Schedule lib forward order) (ht : t ∈ lib.types) (hplanned : t.name ∈ forward) :
    [⟨.forwardDeclare, t⟩, ⟨.defineType, t⟩].Sublist (lib.typeEvents forward order) := by
  have hmem := (List.mem_filter.1 ht).1
  obtain ⟨t', ht', hname, hkind, _⟩ := exists_of_planned htable hconcrete hs hplanned
  obtain rfl := eq_of_name_eq htable (List.mem_filter.1 ht').1 hmem hname
  exact sublist_of_needed htable hconcrete hs ht hkind hmem List.mem_cons_self hplanned

/-! ### The main statement -/

/-- The edges between types are their mentions of each other. An order exists exactly when types do not contain each
other, where a mention of an alias or of an enum without payloads counts like one of what is held. Then every cycle
has an edge to break it at, the plan ends without a cycle and holds only types that lie on one and can be declared
beforehand, all types are placed, and the events are just what the library has to say, each once, a planned type
being declared before it is defined. -/
theorem order_total (htable : lib.IsTable) (hconcrete : lib.IsConcrete) :
    (∀ a b, (ofLibrary lib).Refers a b ↔ lib.Links (fun _ _ _ => True) a b) ∧
      (∀ a b, (ofLibrary lib).Contains a b ↔ lib.Links CountsByValue a b) ∧
      ((∃ error, lib.order.result = .error error ∧ error.diagnostic.kind = .unrepresentableCycle) ↔
        ∃ a, TransGen (ofLibrary lib).Contains a a) ∧
      ((∀ a, ¬ TransGen (ofLibrary lib).Contains a a) →
        (∀ forward, ((ofLibrary lib).waiting forward).cycles ≠ [] →
          ∃ edge, (ofLibrary lib).breakingEdge? forward = some edge) ∧
        ∃ forward types events,
          (ofLibrary lib).plan.result = .ok forward ∧
          ((ofLibrary lib).waiting forward).cycles = [] ∧
          (∀ a ∈ forward, ∃ t ∈ lib.types, t.name = a ∧ t.body.canForwardDeclare = true ∧
            TransGen (ofLibrary lib).Refers a a) ∧
          (ofLibrary lib).orderTypes forward = .ok types ∧
          lib.order.result = .ok events ∧
          events.Nodup ∧ events.Perm (lib.announcements forward) ∧
          ∀ t ∈ lib.types, t.name ∈ forward →
            [⟨.forwardDeclare, t⟩, ⟨.defineType, t⟩].Sublist events) := by
  have hclosed := DependencyGraph.isClosed_ofLibrary hconcrete
  refine ⟨fun _ _ => refers_ofLibrary_iff hconcrete, fun _ _ => contains_ofLibrary_iff hconcrete, ?_⟩
  rcases order_cases htable hconcrete with
    ⟨hcycle, cycle, herror⟩ | ⟨hnone, forward, order, hs, hplan, htypes, hok⟩
  · refine ⟨⟨fun _ => hcycle, fun _ => ⟨_, herror, rfl⟩⟩, fun hnone => ?_⟩
    obtain ⟨a, ha⟩ := hcycle
    exact absurd ha (hnone a)
  · have hperm := events_perm htable hconcrete hs
    refine ⟨⟨?_, ?_⟩, fun _ => ⟨fun forward hcycles => ?_, ?_⟩⟩
    · rintro ⟨error, herror, _⟩
      rw [hok] at herror
      cases herror
    · rintro ⟨a, ha⟩
      exact absurd ha (hnone a)
    · exact DependencyGraph.exists_breakingEdge hclosed hnone hcycles
    · refine ⟨forward, _, _, hplan, ?_, ?_, htypes, hok, ?_, hperm, ?_⟩
      · rw [Graph.cycles_eq_nil_iff, DependencyGraph.step_waiting hclosed]
        exact hs.plan.acyclic
      · intro a ha
        obtain ⟨t, ht, hname, _, hcan, hrefers⟩ := exists_of_planned htable hconcrete hs ha
        exact ⟨t, ht, hname, hcan, hrefers⟩
      · exact hperm.nodup_iff.2 (nodup_announcements htable forward)
      · intro t ht hplanned
        rw [List.append_assoc]
        exact (sublist_of_planned htable hconcrete hs ht hplanned).trans (List.sublist_append_left _ _)

/-- Two structs, the first with a pointer to itself and both with pointers to each other, one of them under an
alias, beside an opaque type, a constant and a function. -/
def forest : Library where
  entities := [
    .bare "Node" 0 (.struct [.bare "next" (.pointer (.path "Node" []) true true),
      .bare "tree" (.pointer (.path "Tree" []) false true)]),
    .bare "Tree" 1 (.struct [.bare "root" (.path "Root" []), .bare "key" (.pointer (.path "Key" []) true true)]),
    .bare "Root" 2 (.typeAlias (.pointer (.path "Node" []) true true)),
    .bare "Key" 3 .opaqueType,
    .bare "LIMIT" 4 (.constant (.primitive .u32) "8"),
    .bare "plant" 5 (.function [] (.pointer (.path "Tree" []) true true) false)]
  instances := []
  external := []

theorem isTable_forest : forest.IsTable := by
  unfold IsTable
  decide

theorem isConcrete_forest : forest.IsConcrete := by
  unfold IsConcrete
  decide

theorem not_contains_forest : ∀ a, ¬ TransGen (ofLibrary forest).Contains a a := by
  rw [← DependencyGraph.step_containment (DependencyGraph.isClosed_ofLibrary isConcrete_forest),
    ← Graph.cycles_eq_nil_iff]
  cbv

theorem order_total_forest : forest.IsTable ∧ forest.IsConcrete ∧
    (ofLibrary forest).Contains "Tree" "Root" ∧
    (∀ a, ¬ TransGen (ofLibrary forest).Contains a a) ∧
    ∃ forward events, (ofLibrary forest).plan.result = .ok forward ∧
      forest.order.result = .ok events ∧ events.Perm (forest.announcements forward) := by
  obtain ⟨_, hcontains, _, horder⟩ := order_total isTable_forest isConcrete_forest
  obtain ⟨_, forward, _, events, hplan, _, _, _, hok, _, hperm, _⟩ := horder not_contains_forest
  have hroot : forest.Links CountsByValue "Tree" "Root" :=
    ⟨_, ⟨"Root", [], false⟩, _, ⟨List.mem_of_getElem? (i := 1) rfl, by decide, rfl, rfl⟩, rfl, rfl, .inl rfl⟩
  exact ⟨isTable_forest, isConcrete_forest, (hcontains _ _).2 hroot, not_contains_forest, forward, events, hplan,
    hok, hperm⟩

end Library

end CrateHeader
