import Mathlib
import CrateHeader.Proofs.TableOrder

/-!
# The least admissible order

An order of the types is admissible when each type stands behind all that it waits for. Placing takes the earliest
type that is ready, and whatever is ready may as well come first: the rest of an admissible order stays
admissible behind it. So if there is an admissible order, placing ends with one, and no other is smaller where the
two first differ.
-/

namespace CrateHeader.DependencyGraph

variable {g : DependencyGraph} {forward placed placed' declared : List String} {left order other : List Entity}
  {e : Entity}

/-- An order of all types in which each stands behind everything that it waits for. -/
structure Admissible (g : DependencyGraph) (forward : List String) (order : List Entity) : Prop where
  perm : order.Perm g.nodes
  behind : ∀ front e rest, order = front ++ e :: rest →
    ∀ b ∈ g.waitsFor forward e.name, b ∈ front.map (·.name)

/-- The types that some events define, in order. -/
def definitions (events : List Event) : List Entity :=
  (events.filter fun event => event.kind = .defineType).map (·.entity)

/-! ### Ready orders -/

theorem readyOrder_iff : g.ReadyOrder forward placed order ↔
    ∀ front e rest, order = front ++ e :: rest →
      ∀ b, g.Waits forward e.name b → b ∈ placed ∨ b ∈ front.map (·.name) := by
  constructor
  · rintro h front e rest rfl b hb
    exact mem_of_readyOrder h hb
  · intro h
    induction order generalizing placed with
    | nil => trivial
    | cons e rest ih =>
      refine ⟨fun b hb => (h [] e rest rfl b hb).resolve_right (by simp), ih ?_⟩
      rintro front x later rfl b hb
      rcases h (e :: front) x later rfl b hb with hplaced | hfront
      · exact Or.inl (List.mem_cons_of_mem _ hplaced)
      · rcases List.mem_cons.1 hfront with rfl | hfront
        · exact Or.inl List.mem_cons_self
        · exact Or.inr hfront

theorem admissible_iff : g.Admissible forward order ↔
    order.Perm g.nodes ∧ g.ReadyOrder forward [] order := by
  constructor
  · rintro ⟨hperm, hbehind⟩
    refine ⟨hperm, readyOrder_iff.2 fun front e rest hsplit b hb => ?_⟩
    exact Or.inr (hbehind front e rest hsplit b (mem_waitsFor.2 hb))
  · rintro ⟨hperm, hready⟩
    refine ⟨hperm, fun front e rest hsplit b hb => ?_⟩
    exact (readyOrder_iff.1 hready front e rest hsplit b (mem_waitsFor.1 hb)).resolve_left (by simp)

theorem ReadyOrder.mono (h : g.ReadyOrder forward placed order) (hsub : placed ⊆ placed') :
    g.ReadyOrder forward placed' order := by
  rw [readyOrder_iff] at h ⊢
  intro front e rest hsplit b hb
  exact (h front e rest hsplit b hb).imp_left fun hin => hsub hin

/-- A type that comes early does no harm to the others. -/
theorem ReadyOrder.erase (h : g.ReadyOrder forward placed order) :
    g.ReadyOrder forward (e.name :: placed) (order.erase e) := by
  induction order generalizing placed with
  | nil => trivial
  | cons x rest ih =>
    by_cases hx : x = e
    · rw [hx, List.erase_cons_head]
      exact hx ▸ h.2
    · rw [List.erase_cons_tail (by simpa using hx)]
      refine ⟨fun b hb => List.mem_cons_of_mem _ (h.1 b hb), (ih h.2).mono ?_⟩
      intro b hb
      simp only [List.mem_cons] at hb ⊢
      tauto

/-- What comes first of some types in a ready order is ready. -/
theorem isReady_head {x : Entity} {rest : List Entity} (h : g.ReadyOrder forward placed (x :: rest)) :
    g.isReady forward placed x = true := isReady_iff.2 h.1

/-! ### Choosing the earliest -/

/-- If some types can be placed at all, choosing the earliest that is ready places them. -/
theorem exists_chosenOrder (hperm : other.Perm left) (hready : g.ReadyOrder forward placed other) :
    ∃ order, g.ChosenOrder forward placed left order := by
  induction hn : left.length generalizing placed left other with
  | zero => exact ⟨[], List.length_eq_zero_iff.1 hn⟩
  | succ n ih =>
    obtain ⟨x, rest, rfl⟩ : ∃ x rest, other = x :: rest := by
      refine List.exists_cons_of_ne_nil fun hnil => ?_
      rw [← hperm.length_eq, hnil] at hn
      cases hn
    have hx : x ∈ left := hperm.mem_iff.1 List.mem_cons_self
    obtain ⟨e, he⟩ : ∃ e, left.find? (g.isReady forward placed) = some e := by
      rw [← Option.isSome_iff_exists, List.find?_isSome]
      exact ⟨x, hx, isReady_head hready⟩
    have hmem := List.mem_of_find?_eq_some he
    obtain ⟨order, horder⟩ := ih (hperm.erase e) hready.erase (by
      rw [List.length_erase_of_mem hmem, hn]
      rfl)
    exact ⟨e :: order, he, horder⟩

/-- Of types in declaration order, the first that is ready has the least rank of those that are. -/
theorem rank_le_of_find? (hsorted : left.Pairwise fun a b => a.rank ≤ b.rank)
    (he : left.find? (g.isReady forward placed) = some e) {x : Entity} (hx : x ∈ left)
    (hready : g.isReady forward placed x = true) : e.rank ≤ x.rank := by
  obtain ⟨_, front, rest, rfl, hfront⟩ := List.find?_eq_some_iff_append.1 he
  rcases List.mem_append.1 hx with hx | hx
  · have hnot := hfront x hx
    rw [hready] at hnot
    cases hnot
  · rcases List.mem_cons.1 hx with rfl | hx
    · exact le_rfl
    · exact (List.pairwise_cons.1 (List.pairwise_append.1 hsorted).2.1).1 x hx

/-- An order of choices is the least of the ready orders. -/
theorem ChosenOrder.rank_le (h : g.ChosenOrder forward placed left order)
    (hsorted : left.Pairwise fun a b => a.rank ≤ b.rank) (hnames : (left.map (·.name)).Nodup)
    (hperm : other.Perm left) (hready : g.ReadyOrder forward placed other) :
    order.map Entity.rank ≤ other.map Entity.rank := by
  induction order generalizing placed left other with
  | nil =>
    rw [show left = [] from h, List.perm_nil] at hperm
    rw [hperm]
  | cons e rest ih =>
    obtain ⟨he, hrest⟩ := h
    have hmem := List.mem_of_find?_eq_some he
    obtain ⟨x, later, rfl⟩ := List.exists_cons_of_ne_nil
      (List.ne_nil_of_mem (hperm.mem_iff.2 hmem))
    have hx : x ∈ left := hperm.mem_iff.1 List.mem_cons_self
    rcases (rank_le_of_find? hsorted he hx (isReady_head hready)).lt_or_eq with hlt | heq
    · exact le_of_lt (List.Lex.rel hlt)
    · obtain rfl : e = x := List.inj_on_of_nodup_map hnames hmem hx (Entity.name_eq_of_rank_eq heq)
      have hlater : rest.map Entity.rank ≤ later.map Entity.rank :=
        ih hrest (hsorted.sublist List.erase_sublist) (hnames.sublist (List.erase_sublist.map _))
          (by simpa using hperm.erase e) hready.2
      rcases hlater.lt_or_eq with hlt | hsame
      · exact le_of_lt (List.Lex.cons hlt)
      · rw [List.map_cons, List.map_cons, hsame]

/-! ### What is defined -/

theorem definitions_append (events later : List Event) :
    definitions (events ++ later) = definitions events ++ definitions later := by
  simp [definitions]

theorem definitions_eventsOf : definitions (g.eventsOf forward declared e) =
    [e].filter fun e => e.kind ≠ .opaqueType := by
  have hforward : ∀ names, definitions (g.forwardEvents forward declared names) = [] := by
    intro names
    rw [definitions, List.map_eq_nil_iff, List.filter_eq_nil_iff]
    intro event hevent
    rw [(mem_forwardEvents.1 hevent).1]
    decide
  rcases eventsOf_cases g forward declared e with ⟨h, _, heq⟩ | ⟨h, _, heq⟩ | ⟨h, heq⟩
  · simp [heq, h, definitions]
  · simp [heq, h, definitions]
  · rw [heq, definitions_append, hforward]
    simp [h, definitions]

/-- Types are defined in the order in which they are placed. -/
theorem definitions_eventsAlong : definitions (g.eventsAlong forward declared order) =
    order.filter fun e => e.kind ≠ .opaqueType := by
  induction order generalizing declared with
  | nil => rfl
  | cons e rest ih =>
    rw [eventsAlong, definitions_append, ih, definitions_eventsOf, ← List.filter_append,
      List.singleton_append]

end CrateHeader.DependencyGraph

namespace CrateHeader.Library

open DependencyGraph (ofLibrary definitions)

variable {lib : Library}

/-- Types are placed in the least of all orders in which each stands behind what it waits for, compared by their places
in declaration order one after the other, and they are defined in that order. Where there is such an order
one is found; where there is none, that is the failure. -/
theorem orderTypes_least (htable : lib.IsTable) (forward : List String) :
    (∀ events, (ofLibrary lib).orderTypes forward = .ok events →
      ∃ order, (ofLibrary lib).Admissible forward order ∧
        (∀ other, (ofLibrary lib).Admissible forward other →
          order.map Entity.rank ≤ other.map Entity.rank) ∧
        events = (ofLibrary lib).eventsAlong forward [] order ∧
        definitions events = order.filter fun e => e.kind ≠ .opaqueType) ∧
    ((∃ order, (ofLibrary lib).Admissible forward order) →
      ∃ events, (ofLibrary lib).orderTypes forward = .ok events) ∧
    ((¬ ∃ order, (ofLibrary lib).Admissible forward order) →
      ∃ error, (ofLibrary lib).orderTypes forward = .error error ∧
        error.diagnostic.kind = .unrepresentableCycle) := by
  have hexists : (∃ order, (ofLibrary lib).Admissible forward order) →
      ∃ events, (ofLibrary lib).orderTypes forward = .ok events := by
    rintro ⟨other, hother⟩
    obtain ⟨hperm, hready⟩ := DependencyGraph.admissible_iff.1 hother
    obtain ⟨order, hchosen⟩ := DependencyGraph.exists_chosenOrder hperm hready
    exact ⟨_, (orderTypes_eq_ok_iff htable).2 ⟨order, hchosen, rfl⟩⟩
  refine ⟨fun events hevents => ?_, hexists, fun hnone => ?_⟩
  · obtain ⟨order, hchosen, rfl⟩ := (orderTypes_eq_ok_iff htable).1 hevents
    refine ⟨order, DependencyGraph.admissible_iff.2 ⟨hchosen.perm, hchosen.readyOrder⟩,
      fun other hother => ?_, rfl, DependencyGraph.definitions_eventsAlong⟩
    obtain ⟨hperm, hready⟩ := DependencyGraph.admissible_iff.1 hother
    exact hchosen.rank_le (pairwise_rank_nodes lib) (nodup_names_nodes htable) hperm hready
  · cases hplaced : (ofLibrary lib).orderTypes forward with
    | error error => exact ⟨error, rfl, by cases error <;> rfl⟩
    | ok events =>
      obtain ⟨order, hchosen, _⟩ := (orderTypes_eq_ok_iff htable).1 hplaced
      exact absurd ⟨order, DependencyGraph.admissible_iff.2 ⟨hchosen.perm, hchosen.readyOrder⟩⟩ hnone

/-- A struct that contains the last of the others, and one between them that could stand anywhere. -/
def pile : Library where
  entities := [
    .bare "Top" 0 (.struct [.bare "base" (.path "Base" []), .bare "spare" (.path "Base" [])]),
    .bare "Loose" 1 (.struct [.bare "top" (.pointer (.path "Top" []) true true)]),
    .bare "Base" 2 (.struct [])]
  instances := []
  external := []

theorem orderTypes_least_pile : pile.IsTable ∧ ∃ events order,
    (ofLibrary pile).orderTypes ["Top"] = .ok events ∧
    (ofLibrary pile).Admissible ["Top"] order ∧ order.map (·.name) = ["Loose", "Base", "Top"] ∧
    ∀ other, (ofLibrary pile).Admissible ["Top"] other → order.map Entity.rank ≤ other.map Entity.rank := by
  have htable : pile.IsTable := by
    unfold IsTable
    decide
  have hnames : ((ofLibrary pile).orderTypes ["Top"]).map (fun events => (definitions events).map (·.name)) =
      .ok ["Loose", "Base", "Top"] := by cbv
  cases hevents : (ofLibrary pile).orderTypes ["Top"] with
  | error error =>
    rw [hevents] at hnames
    cases hnames
  | ok events =>
    obtain ⟨order, hadmissible, hleast, _, hdefined⟩ := (orderTypes_least htable ["Top"]).1 events hevents
    have hall : ∀ e ∈ order, decide (e.kind ≠ .opaqueType) = true := by
      intro e he
      have hnone : ∀ e ∈ (ofLibrary pile).nodes, e.kind ≠ .opaqueType := by decide
      exact decide_eq_true (hnone e (hadmissible.perm.mem_iff.1 he))
    rw [hevents, Except.map, hdefined, List.filter_eq_self.2 hall] at hnames
    exact ⟨htable, events, order, rfl, hadmissible, Except.ok.inj hnames, hleast⟩

end CrateHeader.Library
