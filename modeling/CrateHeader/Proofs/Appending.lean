import Mathlib
import CrateHeader.Proofs.TableOrder

/-!
# A type behind all others

A type that stands behind all others in declaration order and that none of them mentions is the last node of the
graph, and only its own edges lead to it. So the one cycle it can be on is a pointer to itself, every other
cycle is broken where it was broken before, and the new type is placed last.
-/

namespace CrateHeader

open Relation (TransGen)
open DependencyGraph (ofLibrary)

section Isolated

variable {α : Type} {r s : α → α → Prop} {x a b : α}

/-- Two relations with the same steps from all elements but one, to which no such step leads, relate the others to
the same elements. -/
theorem transGen_iff_of_ne (hsame : ∀ a b, a ≠ x → (s a b ↔ r a b)) (hnone : ∀ a, ¬ r a x) (ha : a ≠ x) :
    TransGen s a b ↔ TransGen r a b := by
  have hstep : ∀ a b, a ≠ x → s a b → r a b ∧ b ≠ x := by
    intro a b ha h
    have h := (hsame a b ha).1 h
    exact ⟨h, fun hb => hnone a (hb ▸ h)⟩
  constructor
  · intro h
    have main : TransGen r a b ∧ b ≠ x := by
      induction h with
      | single h => exact (hstep _ _ ha h).imp_left .single
      | tail _ h ih => exact (hstep _ _ ih.2 h).imp_left ih.1.tail
    exact main.1
  · intro h
    induction h using TransGen.head_induction_on with
    | single h => exact .single ((hsame _ _ ha).2 h)
    | head h _ ih => exact .head ((hsame _ _ ha).2 h) (ih fun hc => hnone _ (hc ▸ h))

/-- The one element is reached from itself alone, and then by a single step. -/
theorem eq_of_transGen (hsame : ∀ a b, a ≠ x → (s a b ↔ r a b)) (hnone : ∀ a, ¬ r a x) (h : TransGen s a x) :
    a = x := by
  by_contra ha
  obtain ⟨c, _, hc⟩ := TransGen.tail'_iff.1 ((transGen_iff_of_ne hsame hnone ha).1 h)
  exact hnone c hc

theorem self_of_transGen (hsame : ∀ a b, a ≠ x → (s a b ↔ r a b)) (hnone : ∀ a, ¬ r a x) (h : TransGen s x x) :
    s x x := by
  rcases TransGen.head'_iff.1 h with ⟨c, hstep, hrest⟩
  rcases Relation.reflTransGen_iff_eq_or_transGen.1 hrest with rfl | hrest
  · exact hstep
  · exact eq_of_transGen hsame hnone hrest ▸ hstep

end Isolated

namespace DependencyGraph

variable {g g' : DependencyGraph} {n e : Entity} {own : List Edge} {edge : Edge}
  {forward forward' placed declared : List String} {left order : List Entity} {a b : String}

/-- A graph that has one more node behind all others, and the edges of that node behind all others. -/
structure Extends (g' g : DependencyGraph) (n : Entity) (own : List Edge) : Prop where
  closed : g.IsClosed
  closed' : g'.IsClosed
  nodes : g'.nodes = g.nodes ++ [n]
  edges : g'.edges = g.edges ++ own
  fresh : n.name ∉ g.names
  source : ∀ edge ∈ g.edges, edge.source ∈ g.names
  source_own : ∀ edge ∈ own, edge.source = n.name
  found : g'.library.get? n.name = some n
  found_old : ∀ name ≠ n.name, g'.library.get? name = g.library.get? name

/-- Two plans that differ in the new node at most. -/
def Agree (forward' forward : List String) (n : Entity) : Prop :=
  ∀ name ≠ n.name, name ∈ forward' ↔ name ∈ forward

theorem Agree.refl (forward : List String) (n : Entity) : Agree forward forward n := fun _ _ => Iff.rfl

theorem Agree.cons (forward : List String) (n : Entity) : Agree (n.name :: forward) forward n :=
  fun _ hname => by simp [hname]

/-- A type that points to itself is declared beforehand. -/
def planOf (g : DependencyGraph) (n : Entity) : List String :=
  if n.name ∈ g.pointerTargets n.name then [n.name] else []

theorem Agree.planOf (g : DependencyGraph) (forward : List String) (n : Entity) :
    Agree (forward ++ g.planOf n) forward n := by
  intro a ha
  rw [List.mem_append, or_iff_left]
  unfold DependencyGraph.planOf
  split <;> simp [ha]

/-- What there is to say of a type that no other is mixed up with. -/
def ownEvents (g : DependencyGraph) (n : Entity) : List Event :=
  (if n.kind = .opaqueType ∨ n.name ∈ g.pointerTargets n.name then [⟨.forwardDeclare, n⟩] else []) ++
    if n.kind = .opaqueType then [] else [⟨.defineType, n⟩]

namespace Extends

theorem target_ne (h : g'.Extends g n own) (hedge : edge ∈ g.edges) : edge.target ≠ n.name :=
  fun heq => h.fresh (heq ▸ h.closed edge hedge)

theorem source_ne (h : g'.Extends g n own) (hedge : edge ∈ g.edges) : edge.source ≠ n.name :=
  fun heq => h.fresh (heq ▸ h.source edge hedge)

theorem mem_edges (h : g'.Extends g n own) (hsource : edge.source ≠ n.name) :
    edge ∈ g'.edges ↔ edge ∈ g.edges := by
  rw [h.edges, List.mem_append, or_iff_left fun hown => hsource (h.source_own edge hown)]

theorem contains_iff (h : g'.Extends g n own) (a b : String) (ha : a ≠ n.name) :
    g'.Contains a b ↔ g.Contains a b := by
  refine exists_congr fun edge => and_congr_left ?_
  rintro ⟨rfl, _⟩
  exact h.mem_edges ha

theorem waits_iff (h : g'.Extends g n own) (hagree : Agree forward' forward n) (a b : String)
    (ha : a ≠ n.name) : g'.Waits forward' a b ↔ g.Waits forward a b := by
  refine exists_congr fun edge => ?_
  constructor
  · rintro ⟨hmem, rfl, rfl, hwaits⟩
    have hmem := (h.mem_edges ha).1 hmem
    exact ⟨hmem, rfl, rfl, hwaits.imp_right fun hnot hin => hnot ((hagree _ (h.target_ne hmem)).2 hin)⟩
  · rintro ⟨hmem, rfl, rfl, hwaits⟩
    exact ⟨(h.mem_edges ha).2 hmem, rfl, rfl,
      hwaits.imp_right fun hnot hin => hnot ((hagree _ (h.target_ne hmem)).1 hin)⟩

theorem not_contains (h : g'.Extends g n own) (a : String) : ¬ g.Contains a n.name := by
  rintro ⟨edge, hmem, _, htarget, _⟩
  exact h.target_ne hmem htarget

theorem not_waits (h : g'.Extends g n own) (a : String) : ¬ g.Waits forward a n.name := by
  rintro ⟨edge, hmem, _, htarget, _⟩
  exact h.target_ne hmem htarget

/-! ### The plan -/

/-- The new node and the others do not contain each other. -/
theorem not_transGen_contains (h : g'.Extends g n own) (hcontain : ∀ a, ¬ TransGen g.Contains a a)
    (hself : ¬ g'.Contains n.name n.name) : ∀ a, ¬ TransGen g'.Contains a a := by
  intro a ha
  by_cases hname : a = n.name
  · subst hname
    exact hself (self_of_transGen h.contains_iff h.not_contains ha)
  · exact hcontain a ((transGen_iff_of_ne h.contains_iff h.not_contains hname).1 ha)

theorem breaks_iff (h : g'.Extends g n own) (hagree : Agree forward' forward n) (hedge : edge ∈ g.edges) :
    g'.Breaks forward' edge ↔ g.Breaks forward edge := by
  have htarget := h.target_ne hedge
  exact and_congr_right fun _ => and_congr (not_congr (hagree _ htarget))
    (transGen_iff_of_ne (h.waits_iff hagree) h.not_waits htarget)

/-- Of the edges of the new node, pointers to itself make a cycle. -/
theorem breaks_own_iff (h : g'.Extends g n own) (hagree : Agree forward' forward n) (hedge : edge ∈ own) :
    g'.Breaks forward' edge ↔ edge.byValue = false ∧ edge.target = n.name ∧ n.name ∉ forward' := by
  have hsource := h.source_own edge hedge
  constructor
  · rintro ⟨hpointer, hnot, hcycle⟩
    rw [hsource] at hcycle
    have htarget := eq_of_transGen (h.waits_iff hagree) h.not_waits hcycle
    exact ⟨hpointer, htarget, htarget ▸ hnot⟩
  · rintro ⟨hpointer, htarget, hnot⟩
    refine ⟨hpointer, htarget ▸ hnot, ?_⟩
    have hmem : edge ∈ g'.edges := h.edges ▸ List.mem_append_right _ hedge
    rw [hsource, htarget]
    exact .single ⟨edge, hmem, hsource, htarget, Or.inr hnot⟩

/-- The cycles of the old nodes are broken first, each where it was, and then that of the new one. -/
theorem breakingEdge?_eq (h : g'.Extends g n own) (hagree : Agree forward' forward n) :
    g'.breakingEdge? forward' = (g.breakingEdge? forward).or
      (own.find? fun edge => edge.byValue = false ∧ edge.target = n.name ∧ n.name ∉ forward') := by
  classical
  rw [breakingEdge?_eq_find? h.closed', breakingEdge?_eq_find? h.closed, h.edges, List.find?_append]
  congr 1
  · refine List.find?_congr fun edge hedge => ?_
    rw [decide_eq_decide]
    exact h.breaks_iff hagree hedge
  · refine List.find?_congr fun edge hedge => ?_
    rw [decide_eq_decide]
    exact h.breaks_own_iff hagree hedge

theorem breakCycles_eq (h : g'.Extends g n own) (hfresh : n.name ∉ forward) :
    g'.breakCycles forward = g.breakCycles forward ++
      (own.find? fun edge => edge.byValue = false ∧ edge.target = n.name).toList := by
  induction forward using breakCycles.induct g with
  | case1 forward hnone =>
    have hedge := h.breakingEdge?_eq (Agree.refl forward n)
    simp only [hnone, Option.none_or, hfresh, not_false_eq_true, and_true] at hedge
    rw [breakCycles_of_none hnone, List.nil_append]
    cases hself : own.find? fun edge => edge.byValue = false ∧ edge.target = n.name with
    | none => rw [breakCycles_of_none (hedge.trans hself), Option.toList_none]
    | some edge =>
      -- the one cycle that is left is that of the new node
      have htarget : edge.target = n.name := (of_decide_eq_true (List.find?_some hself :)).2
      have hnext : g'.breakingEdge? (n.name :: forward) = none := by
        rw [h.breakingEdge?_eq (Agree.cons forward n), hnone, Option.none_or, List.find?_eq_none]
        simp
      rw [breakCycles_of_some (hedge.trans hself), htarget, breakCycles_of_none hnext]
      rfl
  | case2 forward chosen hsome _ ih =>
    have hedge := h.breakingEdge?_eq (Agree.refl forward n)
    rw [hsome, Option.some_or] at hedge
    have htarget := h.target_ne (breaks_of_breakingEdge? h.closed hsome).1
    rw [breakCycles_of_some hsome, breakCycles_of_some hedge, List.cons_append,
      ih (List.not_mem_cons_of_ne_of_not_mem htarget.symm hfresh)]

/-- The new node points to itself when one of its edges does. -/
theorem pointsToSelf_iff (h : g'.Extends g n own) :
    n.name ∈ g'.pointerTargets n.name ↔ ∃ edge ∈ own, edge.byValue = false ∧ edge.target = n.name := by
  rw [mem_pointerTargets]
  constructor
  · rintro ⟨edge, hmem, hsource, htarget, hpointer⟩
    rw [h.edges, List.mem_append, or_iff_right fun hold => h.source_ne hold hsource] at hmem
    exact ⟨edge, hmem, hpointer, htarget⟩
  · rintro ⟨edge, hmem, hpointer, htarget⟩
    exact ⟨edge, h.edges ▸ List.mem_append_right _ hmem, h.source_own edge hmem, htarget, hpointer⟩

theorem map_target_find? (h : g'.Extends g n own) :
    (own.find? fun edge => edge.byValue = false ∧ edge.target = n.name).toList.map (·.target) =
      g'.planOf n := by
  unfold planOf
  cases hself : own.find? fun edge => edge.byValue = false ∧ edge.target = n.name with
  | none =>
    have hnone : n.name ∉ g'.pointerTargets n.name := by
      rw [h.pointsToSelf_iff]
      rintro ⟨edge, hmem, hpointer⟩
      exact List.find?_eq_none.1 hself edge hmem (decide_eq_true hpointer)
    rw [if_neg hnone]
    rfl
  | some edge =>
    have hpointer := of_decide_eq_true (List.find?_some hself :)
    have hmem := List.mem_of_find?_eq_some hself
    rw [if_pos (h.pointsToSelf_iff.2 ⟨edge, hmem, hpointer⟩), ← hpointer.2]
    rfl

/-- What was planned is planned, in the same order, and then the new node if it points to itself. -/
theorem plan_eq (h : g'.Extends g n own) (hcontain : ∀ a, ¬ TransGen g.Contains a a)
    (hself : ¬ g'.Contains n.name n.name) (hplan : g.plan.result = .ok forward) :
    g'.plan.result = .ok (forward ++ g'.planOf n) := by
  rw [plan_of_acyclic h.closed hcontain, Except.ok.injEq] at hplan
  rw [plan_of_acyclic h.closed' (h.not_transGen_contains hcontain hself), h.breakCycles_eq List.not_mem_nil,
    List.map_append, hplan, h.map_target_find?]

/-! ### The order -/

/-- All that the new node waits for is old. -/
theorem waits_last (h : g'.Extends g n own) (hself : ¬ g'.Contains n.name n.name)
    (hwaits : g'.Waits (forward ++ g'.planOf n) n.name b) : b ∈ g.names := by
  obtain ⟨edge, hedge, hsource, rfl, hwaits⟩ := hwaits
  have hin : edge.target ∈ g.names ∨ edge.target = n.name := by
    have hclosed := h.closed' edge hedge
    rwa [names, h.nodes, List.map_append, List.mem_append, List.map_singleton, List.mem_singleton] at hclosed
  refine hin.resolve_right fun htarget => ?_
  cases hvalue : edge.byValue with
  | true => exact hself ⟨edge, hedge, hsource, htarget, hvalue⟩
  | false =>
    have hpoints : n.name ∈ g'.pointerTargets n.name :=
      mem_pointerTargets.2 ⟨edge, hedge, hsource, htarget, hvalue⟩
    refine hwaits.elim (by simp [hvalue]) fun hnot => hnot (List.mem_append_right _ ?_)
    rw [planOf, if_pos hpoints, htarget]
    exact List.mem_singleton_self _

theorem isReady_eq (h : g'.Extends g n own) (hagree : Agree forward' forward n) (he : e.name ≠ n.name) :
    g'.isReady forward' placed e = g.isReady forward placed e := by
  rw [Bool.eq_iff_iff, isReady_iff, isReady_iff]
  exact forall_congr' fun b => imp_congr (h.waits_iff hagree _ b he) Iff.rfl

/-- The old nodes are chosen as before, and the new one when none of them is left. -/
theorem chosenOrder (h : g'.Extends g n own) (hagree : Agree forward' forward n)
    (hleft : ∀ e ∈ left, e.name ≠ n.name) (horder : g.ChosenOrder forward placed left order)
    (hlast : ∀ b, g'.Waits forward' n.name b → b ∈ placed ∨ b ∈ order.map (·.name)) :
    g'.ChosenOrder forward' placed (left ++ [n]) (order ++ [n]) := by
  induction order generalizing placed left with
  | nil =>
    obtain rfl : left = [] := horder
    have hready : g'.isReady forward' placed n = true :=
      isReady_iff.2 fun b hb => (hlast b hb).resolve_right List.not_mem_nil
    exact ⟨List.find?_cons_of_pos hready, List.erase_cons_head n []⟩
  | cons e rest ih =>
    obtain ⟨hfirst, hrest⟩ := horder
    have he := List.mem_of_find?_eq_some hfirst
    have hfind : left.find? (g'.isReady forward' placed) = some e :=
      (List.find?_congr fun x hx => h.isReady_eq hagree (hleft x hx)).trans hfirst
    refine ⟨by rw [List.find?_append, hfind, Option.some_or], ?_⟩
    rw [List.erase_append_left _ he]
    refine ih (fun x hx => hleft x (List.mem_of_mem_erase hx)) hrest fun b hb => ?_
    rcases hlast b hb with hplaced | hin
    · exact Or.inl (List.mem_cons_of_mem _ hplaced)
    · rcases List.mem_cons.1 hin with rfl | hin
      · exact Or.inl List.mem_cons_self
      · exact Or.inr hin

theorem pointerTargets_eq (h : g'.Extends g n own) (ha : a ≠ n.name) :
    g'.pointerTargets a = g.pointerTargets a := by
  have hnone : own.filter (fun edge => edge.source == a && !edge.byValue) = [] := by
    refine List.filter_eq_nil_iff.2 fun edge hedge => ?_
    simp [h.source_own edge hedge, ha.symm]
  rw [pointerTargets, h.edges, List.filter_append, hnone, List.append_nil]
  rfl

theorem pointerTargets_ne (h : g'.Extends g n own) : ∀ name ∈ g.pointerTargets a, name ≠ n.name := by
  rintro name hname rfl
  obtain ⟨edge, hedge, _, htarget, _⟩ := mem_pointerTargets.1 hname
  exact h.target_ne hedge htarget

theorem forwardEvents_eq (h : g'.Extends g n own) (hagree : Agree forward' forward n) {names : List String}
    (hnames : ∀ name ∈ names, name ≠ n.name) :
    g'.forwardEvents forward' declared names = g.forwardEvents forward declared names := by
  have hfilter : names.filter forward'.contains = names.filter forward.contains := by
    refine List.filter_congr fun name hname => ?_
    simpa using hagree name (hnames name hname)
  unfold forwardEvents
  rw [hfilter]
  refine List.filterMap_congr fun name hname => ?_
  rw [mem_distinctFrom, List.mem_filter] at hname
  rw [h.found_old name (hnames name hname.1.1)]

theorem eventsOf_eq (h : g'.Extends g n own) (hagree : Agree forward' forward n) (he : e.name ≠ n.name) :
    g'.eventsOf forward' declared e = g.eventsOf forward declared e := by
  unfold eventsOf
  rw [h.pointerTargets_eq he, h.forwardEvents_eq hagree]
  rintro name (_ | ⟨_, hname⟩)
  · exact he
  · exact h.pointerTargets_ne name hname

theorem eventsAlong_eq (h : g'.Extends g n own) (hagree : Agree forward' forward n)
    (horder : ∀ e ∈ order, e.name ≠ n.name) :
    g'.eventsAlong forward' declared order = g.eventsAlong forward declared order := by
  induction order generalizing declared with
  | nil => rfl
  | cons e rest ih =>
    rw [eventsAlong, eventsAlong, h.eventsOf_eq hagree (horder e List.mem_cons_self),
      ih fun x hx => horder x (List.mem_cons_of_mem _ hx)]

theorem mem_declaredAfter_iff (h : g'.Extends g n own) (hagree : Agree forward' forward n)
    (horder : ∀ e ∈ order, e.name ≠ n.name) :
    a ∈ g'.declaredAfter forward' declared order ↔ a ∈ g.declaredAfter forward declared order := by
  rw [mem_declaredAfter, mem_declaredAfter, h.eventsAlong_eq hagree horder]

/-- Where all that was planned before is declared, nothing but the new node can be declared in front of it. -/
theorem mem_forwardEvents_last (h : g'.Extends g n own) (hold : ∀ a ∈ forward, a ∈ declared)
    (hnot : n.name ∉ declared) {event : Event} :
    event ∈ g'.forwardEvents (forward ++ g'.planOf n) declared (n.name :: g'.pointerTargets n.name) ↔
      event = ⟨.forwardDeclare, n⟩ ∧ n.name ∈ g'.pointerTargets n.name := by
  simp only [mem_forwardEvents, planOf, List.mem_append, List.mem_ite_nil_right, List.mem_singleton]
  constructor
  · obtain ⟨kind, t⟩ := event
    rintro ⟨rfl, hfound, _, hin | ⟨hself, hname⟩, hmissing⟩
    · exact absurd (hold _ hin) hmissing
    · rw [show t.name = n.name from hname, h.found] at hfound
      exact ⟨congrArg (Event.mk _) (Option.some.inj hfound).symm, hself⟩
  · rintro ⟨rfl, hself⟩
    exact ⟨rfl, h.found, List.mem_cons_self, Or.inr ⟨hself, rfl⟩, hnot⟩

theorem eventsOf_last (h : g'.Extends g n own) (hold : ∀ a ∈ forward, a ∈ declared) (hnot : n.name ∉ declared) :
    g'.eventsOf (forward ++ g'.planOf n) declared n = g'.ownEvents n := by
  unfold ownEvents
  rcases eventsOf_cases g' (forward ++ g'.planOf n) declared n with
    ⟨_, hin, _⟩ | ⟨hop, _, heq⟩ | ⟨hkind, heq⟩
  · exact absurd hin hnot
  · rw [heq, if_pos (Or.inl hop), if_pos hop, List.append_nil]
  · rw [heq, if_neg hkind]
    congr 1
    by_cases hself : n.name ∈ g'.pointerTargets n.name
    · rw [if_pos (Or.inr hself), ← List.perm_singleton]
      refine (List.perm_ext_iff_of_nodup nodup_forwardEvents (List.nodup_singleton _)).2 fun event => ?_
      rw [h.mem_forwardEvents_last hold hnot, List.mem_singleton, and_iff_left hself]
    · rw [if_neg (not_or.2 ⟨hkind, hself⟩), List.eq_nil_iff_forall_not_mem]
      exact fun event hevent => hself ((h.mem_forwardEvents_last hold hnot).1 hevent).2

end Extends

end DependencyGraph

/-- A type of which a library knows nothing and which stands behind all types of it. -/
structure Entity.Follows (n : Entity) (lib : Library) : Prop where
  isType : n.isType = true
  concrete : n.isGeneric = false
  fresh : n.name ∉ lib.names
  unmentioned : ∀ e ∈ lib.types, ∀ m ∈ e.mentions, m.name ≠ n.name
  last : ∀ e ∈ lib.types, e.place < n.place

namespace Library

variable {lib : Library} {n : Entity} {name : String}

theorem get?_push (hfresh : n.name ∉ lib.names) :
    (lib.push n).get? name = if name = n.name then some n else lib.get? name := by
  unfold get? push
  rw [List.find?_append]
  split
  · next heq =>
    subst heq
    rw [show lib.entities.find? _ = none from get?_eq_none_iff.2 hfresh, Option.none_or]
    exact List.find?_cons_of_pos (beq_self_eq_true _)
  · next hne =>
    have hnone : [n].find? (fun e => e.name == name) = none := by simp [Ne.symm hne]
    rw [hnone, Option.or_none]

/-- A type is no value. -/
theorem ofKind_push (htype : n.isType = true) {kind : EntityKind} (hkind : kind.isType = false) :
    (lib.push n).ofKind kind = lib.ofKind kind := by
  have hne : n.kind ≠ kind := by
    rintro rfl
    rw [Entity.isType, hkind] at htype
    cases htype
  simp [ofKind, push, hne]

section Follows

variable (htable : lib.IsTable) (hconcrete : lib.IsConcrete) (hn : n.Follows lib)
include hn

theorem isConcrete_push (hconcrete : lib.IsConcrete) : (lib.push n).IsConcrete := by
  intro e he htype
  rcases List.mem_append.1 he with he | he
  · exact hconcrete e he htype
  · exact List.mem_singleton.1 he ▸ hn.concrete

theorem constantEvents_push : (lib.push n).constantEvents = lib.constantEvents := by
  unfold constantEvents
  rw [ofKind_push hn.isType rfl]

theorem valueEvents_push : (lib.push n).valueEvents = lib.valueEvents := by
  unfold valueEvents
  rw [ofKind_push hn.isType rfl, ofKind_push hn.isType rfl]

include htable

theorem isTable_of_follows : (lib.push n).IsTable := by
  refine isTable_push htable ?_
  rw [← Bool.not_eq_true, contains_iff]
  exact hn.fresh

theorem nodes_push : (ofLibrary (lib.push n)).nodes = (ofLibrary lib).nodes ++ [n] := by
  have htypes : (lib.push n).types.filter (!·.isGeneric) = lib.types.filter (!·.isGeneric) ++ [n] := by
    simp [types, push, hn.isType, hn.concrete]
  unfold ofLibrary
  rw [htypes]
  refine Entity.sortBy_before_eq ?_ ((sortBy_perm _ _).symm.append_right [n]) ?_
  · have hsub : (lib.types.filter (!·.isGeneric) ++ [n]).Sublist (lib.push n).entities :=
      (List.filter_sublist.trans List.filter_sublist).append_right [n]
    exact List.Nodup.sublist (hsub.map _) (isTable_of_follows htable hn)
  · refine List.pairwise_append.2 ⟨Entity.pairwise_sortBy_before _, List.pairwise_singleton _ _, ?_⟩
    intro a ha b hb
    rw [List.mem_singleton.1 hb]
    exact (Entity.rank_lt_of_place_lt
      (hn.last a (List.mem_filter.1 ((mem_sortBy).1 ha)).1)).le

theorem extends_push (hconcrete : lib.IsConcrete) :
    (ofLibrary (lib.push n)).Extends (ofLibrary lib) n (DependencyGraph.edgesOf (lib.push n) n) where
  closed := DependencyGraph.isClosed_ofLibrary hconcrete
  closed' := DependencyGraph.isClosed_ofLibrary (isConcrete_push hn hconcrete)
  nodes := nodes_push htable hn
  edges := by
    show (ofLibrary (lib.push n)).nodes.flatMap _ = (ofLibrary lib).nodes.flatMap _ ++ _
    rw [nodes_push htable hn, List.flatMap_append, List.flatMap_singleton]
    congr 1
    refine List.flatMap_congr fun e he => DependencyGraph.edgesOf_congr fun m hm => ?_
    have he : e ∈ lib.types :=
      List.mem_filter.2 ((DependencyGraph.mem_nodes_of_isConcrete hconcrete).1 he)
    rw [get?_push hn.fresh, if_neg (hn.unmentioned e he m hm)]
  fresh := by
    intro hin
    obtain ⟨e, he, hname⟩ := List.mem_map.1 hin
    exact hn.fresh (hname ▸ List.mem_map_of_mem (DependencyGraph.mem_nodes.1 he).1)
  source := by
    intro edge hedge
    obtain ⟨e, he, m, t, hstands⟩ := DependencyGraph.standsFor_of_mem_edges hedge
    exact hstands.source ▸ List.mem_map_of_mem he
  source_own := by
    intro edge hedge
    obtain ⟨m, t, hstands⟩ := DependencyGraph.standsFor_of_mem_edgesOf hedge
    exact hstands.source
  found := by
    show (lib.push n).get? n.name = some n
    rw [get?_push hn.fresh, if_pos rfl]
  found_old := by
    intro name hname
    show (lib.push n).get? name = lib.get? name
    rw [get?_push hn.fresh, if_neg hname]

end Follows

/-- All that is planned is declared once all types are placed, and nothing else but opaque types. -/
theorem mem_declaredAfter (htable : lib.IsTable) (hconcrete : lib.IsConcrete) {forward : List String}
    {order : List Entity} (hs : Schedule lib forward order) :
    name ∈ (ofLibrary lib).declaredAfter forward [] order ↔
      ∃ t ∈ lib.types, t.name = name ∧ (t.kind = .opaqueType ∨ name ∈ forward) := by
  rw [DependencyGraph.mem_declaredAfter, or_iff_right List.not_mem_nil]
  constructor
  · rintro ⟨t, rfl, hmem⟩
    obtain ⟨ht, hwhy⟩ := (forward_mem_typeEvents htable hconcrete hs).1 hmem
    exact ⟨t, ht, rfl, hwhy⟩
  · rintro ⟨t, ht, rfl, hwhy⟩
    exact ⟨t, rfl, (forward_mem_typeEvents htable hconcrete hs).2 ⟨ht, hwhy⟩⟩

/-- The new type is placed last, and all that it finds undeclared is itself. -/
theorem orderTypes_push (htable : lib.IsTable) (hconcrete : lib.IsConcrete) (hn : n.Follows lib)
    (hself : ¬ (ofLibrary (lib.push n)).Contains n.name n.name) {forward : List String} {types : List Event}
    (hplan : (ofLibrary lib).IsPlan forward) (htypes : (ofLibrary lib).orderTypes forward = .ok types) :
    (ofLibrary (lib.push n)).orderTypes (forward ++ (ofLibrary (lib.push n)).planOf n) =
      .ok (types ++ (ofLibrary (lib.push n)).ownEvents n) := by
  have hext := extends_push htable hn hconcrete
  obtain ⟨order, hchosen, rfl⟩ := (orderTypes_eq_ok_iff htable).1 htypes
  have hs : Schedule lib forward order := ⟨hplan, hchosen.perm, hchosen.readyOrder⟩
  have hnames : ∀ e ∈ (ofLibrary lib).nodes, e.name ≠ n.name :=
    fun e he heq => hext.fresh (heq ▸ List.mem_map_of_mem he)
  have hagree := DependencyGraph.Agree.planOf (ofLibrary (lib.push n)) forward n
  refine (orderTypes_eq_ok_iff (isTable_of_follows htable hn)).2 ⟨order ++ [n], ?_, ?_⟩
  · rw [hext.nodes]
    refine hext.chosenOrder hagree hnames hchosen fun b hb => Or.inr ?_
    exact (hs.perm.map _).mem_iff.2 (hext.waits_last hself hb)
  · have horder : ∀ e ∈ order, e.name ≠ n.name := fun e he => hnames e (hs.perm.mem_iff.1 he)
    rw [typeEvents, typeEvents, DependencyGraph.eventsAlong_append, hext.eventsAlong_eq hagree horder, DependencyGraph.eventsAlong,
      DependencyGraph.eventsAlong, List.append_nil, hext.eventsOf_last]
    · intro a ha
      obtain ⟨t, ht, hname, _⟩ := exists_of_planned htable hconcrete hs ha
      exact (hext.mem_declaredAfter_iff hagree horder).2
        ((mem_declaredAfter htable hconcrete hs).2 ⟨t, ht, hname, Or.inr ha⟩)
    · intro hin
      obtain ⟨t, ht, hname, _⟩ :=
        (mem_declaredAfter htable hconcrete hs).1 ((hext.mem_declaredAfter_iff hagree horder).1 hin)
      exact hn.fresh (hname ▸ List.mem_map_of_mem (List.mem_filter.1 ht).1)

/-- A type that stands behind all others, that they do not mention and that does not contain itself moves nothing. Its
declaration, which it has when it is opaque or points to itself, and its definition follow all that was said
of the types, in front of what was said of the values. -/
theorem order_push (htable : lib.IsTable) (hconcrete : lib.IsConcrete) (hn : n.Follows lib)
    (hself : ¬ (ofLibrary (lib.push n)).Contains n.name n.name) {events : List Event}
    (h : lib.order.result = .ok events) :
    ∃ types values, events = types ++ values ∧
      (∀ event ∈ types, event.kind = .forwardDeclare ∨ event.kind = .defineType) ∧
      (∀ event ∈ values, event.kind ≠ .forwardDeclare ∧ event.kind ≠ .defineType) ∧
      (lib.push n).order.result = .ok (types ++ (ofLibrary (lib.push n)).ownEvents n ++ values) := by
  rcases order_cases htable hconcrete with ⟨_, cycle, herror⟩ | ⟨hnone, forward, order, hs, hplan, htypes, hok⟩
  · rw [h] at herror
    cases herror
  · obtain rfl := Except.ok.inj (h.symm.trans hok)
    refine ⟨_, _, List.append_assoc _ _ _, fun event => DependencyGraph.kind_of_mem_eventsAlong, ?_, ?_⟩
    · intro event hevent
      rcases List.mem_append.1 hevent with hevent | hevent
      · obtain ⟨e, _, rfl⟩ := List.mem_map.1 hevent
        exact ⟨nofun, nofun⟩
      · obtain ⟨e, _, rfl⟩ := List.mem_map.1 hevent
        dsimp only
        split <;> exact ⟨nofun, nofun⟩
    · have hext := extends_push htable hn hconcrete
      rw [order_result, hext.plan_eq hnone hself hplan, Except.bind,
        orderTypes_push htable hconcrete hn hself hs.plan htypes, constantEvents_push hn, valueEvents_push hn,
        ← List.append_assoc]
      rfl

/-- A struct with pointers to itself and to a type of a library, and a type of the library that it holds. -/
def grove : Entity := .bare "Grove" 6 (.struct [.bare "next" (.pointer (.path "Grove" []) true true),
  .bare "first" (.pointer (.path "Node" []) false true), .bare "tree" (.path "Tree" [])])

theorem order_push_grove : forest.IsTable ∧ forest.IsConcrete ∧ grove.Follows forest ∧
    ¬ (ofLibrary (forest.push grove)).Contains grove.name grove.name ∧
    ∃ events types values, forest.order.result = .ok events ∧ events = types ++ values ∧
      (forest.push grove).order.result =
        .ok (types ++ [⟨.forwardDeclare, grove⟩, ⟨.defineType, grove⟩] ++ values) := by
  have hfollows : grove.Follows forest := ⟨rfl, rfl, by decide, by decide, by decide⟩
  have hself : ¬ (ofLibrary (forest.push grove)).Contains grove.name grove.name := by
    unfold DependencyGraph.Contains
    decide
  have hown : (ofLibrary (forest.push grove)).ownEvents grove =
      [⟨.forwardDeclare, grove⟩, ⟨.defineType, grove⟩] := by decide
  rcases order_cases isTable_forest isConcrete_forest with ⟨⟨a, ha⟩, _⟩ | ⟨_, _, _, _, _, _, hok⟩
  · exact absurd ha (not_contains_forest a)
  · obtain ⟨types, values, hevents, _, _, hpush⟩ := order_push isTable_forest isConcrete_forest hfollows hself hok
    exact ⟨isTable_forest, isConcrete_forest, hfollows, hself, _, types, values, hok, hevents, hown ▸ hpush⟩

end Library

end CrateHeader
