import Mathlib
import CrateHeader.Proofs.Ordering

/-!
# The order of the table does not matter

Entities are sorted by their places and then by their names, and no two of a table have the same name. So a sorted
list is the only one of its members, lookups and edges are the same in whatever order the table lists its
entities, and the plan, the placing and all that is said and logged depend on nothing else.
-/

namespace CrateHeader

open DependencyGraph (ofLibrary)

namespace DependencyGraph

/-- Edges depend on what the library finds alone. -/
theorem edgesOf_congr {lib lib' : Library} {e : Entity}
    (hfind : ∀ m ∈ e.mentions, lib'.get? m.name = lib.get? m.name) : edgesOf lib' e = edgesOf lib e := by
  unfold edgesOf
  congr 1
  refine List.filterMap_congr fun m hm => ?_
  rw [hfind m hm]

/-- What is said of types depends on what the library finds. -/
theorem orderTypes_congr {g g' : DependencyGraph} (hnodes : g'.nodes = g.nodes) (hedges : g'.edges = g.edges)
    (hfind : g'.library.get? = g.library.get?) (forward : List String) :
    g'.orderTypes forward = g.orderTypes forward := by
  have hwaits : ∀ name, g'.waitsFor forward name = g.waitsFor forward name := by
    intro name
    unfold waitsFor
    rw [hedges]
  have hevents : ∀ declared e, g'.eventsOf forward declared (id e) =
      (g.eventsOf forward declared e).map id := by
    intro declared e
    unfold eventsOf forwardEvents pointerTargets
    rw [hfind, hedges, List.map_id]
    rfl
  have hmap := orderTypes_map (f := id) (fun _ => rfl) (fun _ _ => rfl) (by rw [hnodes, List.map_id]) hwaits hevents
    fun events => by rw [List.map_id]
  rw [hmap]
  cases g.orderTypes forward with
  | error error => rfl
  | ok events => exact congrArg Except.ok events.map_id

end DependencyGraph

namespace Library

variable {lib lib' : Library} (htable : lib.IsTable) (hperm : lib'.entities.Perm lib.entities)
include htable hperm

theorem isTable_of_perm : lib'.IsTable := by
  unfold IsTable names
  exact (hperm.map _).nodup_iff.2 htable

theorem get?_of_perm : lib'.get? = lib.get? := by
  funext name
  refine Option.ext fun e => ?_
  rw [get?_eq_some_iff htable, get?_eq_some_iff (isTable_of_perm htable hperm), hperm.mem_iff]

theorem sortBy_filter_of_perm (p : Entity → Bool) :
    sortBy Entity.before (lib'.entities.filter p) = sortBy Entity.before (lib.entities.filter p) := by
  have hnames : ((lib'.entities.filter p).map (·.name)).Nodup :=
    (isTable_of_perm htable hperm).sublist (List.filter_sublist.map _)
  exact Entity.sortBy_before_eq_of_perm hnames (hperm.filter p)

theorem nodes_of_perm : (ofLibrary lib').nodes = (ofLibrary lib).nodes := by
  unfold ofLibrary types
  dsimp only
  rw [List.filter_filter, List.filter_filter, sortBy_filter_of_perm htable hperm]

theorem edges_of_perm : (ofLibrary lib').edges = (ofLibrary lib).edges := by
  show (ofLibrary lib').nodes.flatMap _ = (ofLibrary lib).nodes.flatMap _
  rw [nodes_of_perm htable hperm]
  congr 1
  funext e
  exact DependencyGraph.edgesOf_congr fun m _ => by rw [get?_of_perm htable hperm]

theorem constantEvents_of_perm : lib'.constantEvents = lib.constantEvents := by
  unfold constantEvents ofKind
  rw [sortBy_filter_of_perm htable hperm]

theorem valueEvents_of_perm : lib'.valueEvents = lib.valueEvents := by
  have hnames : ((lib'.ofKind .static ++ lib'.ofKind .function).map (·.name)).Nodup := by
    rw [List.map_append]
    have htable' := isTable_of_perm htable hperm
    refine List.Nodup.append (htable'.sublist (List.filter_sublist.map _))
      (htable'.sublist (List.filter_sublist.map _)) ?_
    intro name hstatic hfunction
    obtain ⟨a, ha, rfl⟩ := List.mem_map.1 hstatic
    obtain ⟨b, hb, hname⟩ := List.mem_map.1 hfunction
    obtain ⟨ha, hkind⟩ := List.mem_filter.1 ha
    obtain ⟨hb, hkind'⟩ := List.mem_filter.1 hb
    rw [eq_of_name_eq htable' hb ha hname] at hkind'
    simp only [decide_eq_true_eq] at hkind hkind'
    rw [hkind] at hkind'
    cases hkind'
  unfold valueEvents
  rw [Entity.sortBy_before_eq_of_perm hnames ((hperm.filter _).append (hperm.filter _))]
  rfl

/-- What is said and logged does not depend on the order of the table. -/
theorem order_eq_of_perm : lib'.order = lib.order := by
  have hnodes := nodes_of_perm htable hperm
  have hedges := edges_of_perm htable hperm
  have hplan : (ofLibrary lib').plan = (ofLibrary lib).plan :=
    DependencyGraph.plan_congr (congrArg (List.map _) hnodes) hedges
  have htypes : ∀ forward, (ofLibrary lib').orderTypes forward = (ofLibrary lib).orderTypes forward :=
    DependencyGraph.orderTypes_congr hnodes hedges (get?_of_perm htable hperm)
  unfold order
  dsimp only
  simp only [hplan, htypes, constantEvents_of_perm htable hperm, valueEvents_of_perm htable hperm]

end Library

namespace Library

variable {lib : Library}

theorem entities_foldl_push (lib : Library) (added : List Entity) :
    (added.foldl push lib).entities = lib.entities ++ added := by
  induction added generalizing lib with
  | nil => exact (List.append_nil _).symm
  | cons e rest ih =>
    rw [List.foldl_cons, ih, push, List.append_assoc]
    rfl

/-- Libraries that list the same entities in some order have the same events, or the same failure, and the same
log. So it does not matter that entities which are made later are added at the end of the table, wherever in
it they might have been listed. -/
theorem order_of_perm (htable : lib.IsTable) :
    (∀ lib' : Library, lib'.entities.Perm lib.entities → lib'.order = lib.order) ∧
      ∀ front added back, lib.entities = front ++ added ++ back →
        (added.foldl push { lib with entities := front ++ back }).order = lib.order := by
  refine ⟨fun lib' hperm => order_eq_of_perm htable hperm, fun front added back hsplit => ?_⟩
  refine order_eq_of_perm htable ?_
  rw [entities_foldl_push, hsplit, List.append_assoc, List.append_assoc]
  exact List.perm_append_comm.append_left front

/-- Two structs of one place that point at each other, with what stands for a type that was removed. -/
def knot : Library where
  entities := [
    .bare "Left" 0 (.struct [.bare "right" (.pointer (.path "Right" []) true true)]),
    .bare "Right" 0 (.struct [.bare "left" (.pointer (.path "Left" []) true true),
      .bare "gone" (.pointer (.path "Gone" []) true true)]),
    { Entity.bare "Gone" 0 .opaqueType with synthetic := true }]
  instances := []
  external := []

theorem order_of_perm_knot : knot.IsTable ∧ knot.entities.reverse.Perm knot.entities ∧
    knot.entities.reverse ≠ knot.entities ∧
    ({ knot with entities := knot.entities.reverse } : Library).order = knot.order := by
  have htable : knot.IsTable := by unfold IsTable; decide
  have hperm := List.reverse_perm knot.entities
  exact ⟨htable, hperm, by decide, (order_of_perm htable).1 _ hperm⟩

end Library

end CrateHeader
