import CrateHeader.Dependency.Order
import CrateHeader.Proofs.Planning
import CrateHeader.Proofs.Ranking
import Mathlib.Data.Fintype.Card
import Mathlib.Data.Fintype.EquivFin
import Mathlib.Data.Fintype.Sets
import Mathlib.Order.WellFounded

/-!
# Placing types

The types are placed in an order in which each comes after all it waits for. Where nothing waits for itself
there always is a next one: of finitely many types, one waits for none of the others. What is said on the way
depends on that order alone, so it is studied as `eventsAlong` an order. While types are placed, an agenda
counts for each of the others what it still misses; it `Lists` what is left as long as the counts are right.
-/

namespace CrateHeader

/-! ### Agendas side by side -/

def Waiter.map (f : Entity → Entity) (w : Waiter) : Waiter := { w with entity := f w.entity }

theorem Waiter.map_see (f : Entity → Entity) (name : String) (w : Waiter) :
    (w.map f).see name = (w.see name).map f := by
  unfold see map
  split
  · rfl
  · rfl

namespace Agenda

def map (f : Entity → Entity) (a : Agenda) : Agenda := ⟨a.ready.map f, a.waiting.map (Waiter.map f)⟩

theorem map_release {f : Entity → Entity} (hbefore : ∀ a b, (f a).before (f b) = a.before b)
    (ready : List Entity) (waiters : List Waiter) :
    release (ready.map f) (waiters.map (Waiter.map f)) = (release ready waiters).map f := by
  have hfold : ∀ es ready : List Entity,
      (es.map f).foldl (fun ready e => insertBy Entity.before e ready) (ready.map f) =
        (es.foldl (fun ready e => insertBy Entity.before e ready) ready).map f := by
    intro es
    induction es with
    | nil => exact fun _ => rfl
    | cons e rest ih =>
      intro ready
      rw [List.map_cons, List.foldl_cons, ← map_insertBy hbefore, ih, List.foldl_cons]
  unfold release map
  rw [List.filter_map, List.filter_map, ← hfold, List.map_map, List.map_map]
  rfl

theorem map_next {f : Entity → Entity} (hbefore : ∀ a b, (f a).before (f b) = a.before b) (name : String)
    (rest : List Entity) (waiting : List Waiter) :
    next name (rest.map f) (waiting.map (Waiter.map f)) = (next name rest waiting).map f := by
  have hsee : (waiting.map (Waiter.map f)).map (Waiter.see name) =
      (waiting.map (Waiter.see name)).map (Waiter.map f) := by
    simp [Function.comp_def, Waiter.map_see]
  rw [next, next, hsee, map_release hbefore]

end Agenda

namespace DependencyGraph

open Relation (TransGen)

variable {g : DependencyGraph} {forward placed declared : List String} {left order : List Entity}
  {e t : Entity}

/-! ### The order -/

/-- Is everything placed that a type waits for? -/
def isReady (g : DependencyGraph) (forward placed : List String) (e : Entity) : Bool :=
  (g.waitsFor forward e.name).all placed.contains

/-- Each type comes when all it waits for is placed. -/
def ReadyOrder (g : DependencyGraph) (forward placed : List String) : List Entity → Prop
  | [] => True
  | e :: rest => (∀ b, g.Waits forward e.name b → b ∈ placed) ∧ g.ReadyOrder forward (e.name :: placed) rest

/-- Each type is the first of those left that is ready, until none is left. -/
def ChosenOrder (g : DependencyGraph) (forward placed : List String) (left : List Entity) :
    List Entity → Prop
  | [] => left = []
  | e :: rest => left.find? (g.isReady forward placed) = some e ∧
      g.ChosenOrder forward (e.name :: placed) (left.erase e) rest

/-- What is said of types that are placed one after the other. -/
def eventsAlong (g : DependencyGraph) (forward declared : List String) : List Entity → List Event
  | [] => []
  | e :: rest => g.eventsOf forward declared e ++
      g.eventsAlong forward (declaredBy (g.eventsOf forward declared e) ++ declared) rest

/-- What is declared once some types are placed. -/
def declaredAfter (g : DependencyGraph) (forward declared : List String) : List Entity → List String
  | [] => declared
  | e :: rest => g.declaredAfter forward (declaredBy (g.eventsOf forward declared e) ++ declared) rest

theorem eventsAlong_append (g : DependencyGraph) (forward declared : List String) (order later : List Entity) :
    g.eventsAlong forward declared (order ++ later) = g.eventsAlong forward declared order ++
      g.eventsAlong forward (g.declaredAfter forward declared order) later := by
  induction order generalizing declared with
  | nil => rfl
  | cons e rest ih => rw [List.cons_append, eventsAlong, eventsAlong, declaredAfter, ih, List.append_assoc]

theorem isReady_iff : g.isReady forward placed e = true ↔ ∀ b, g.Waits forward e.name b → b ∈ placed := by
  simp [isReady, mem_waitsFor]

/-! ### Placing from an agenda -/

variable {a : Agenda} {rest : List Entity}

theorem place_of_nil (h : a.ready = []) : g.place forward declared a =
    if a.waiting.isEmpty then .ok [] else .error (.noOrder (sortTexts (a.waiting.map (·.entity.name)))) := by
  rw [place]
  split
  · rfl
  · next hcons =>
    rw [h] at hcons
    cases hcons

theorem place_of_cons (h : a.ready = e :: rest) : g.place forward declared a =
    (g.place forward (declaredBy (g.eventsOf forward declared e) ++ declared)
      (Agenda.next e.name rest a.waiting)).map (g.eventsOf forward declared e ++ ·) := by
  rw [place]
  split
  · next hnil =>
    rw [h] at hnil
    cases hnil
  · next hcons =>
    rw [h] at hcons
    cases hcons
    rfl

/-- Graphs whose types wait for the same, compare in the same way and say the same have the same order. -/
theorem orderTypes_map {g' : DependencyGraph} {f : Entity → Entity} {h : Event → Event}
    (hname : ∀ e, (f e).name = e.name) (hbefore : ∀ a b, (f a).before (f b) = a.before b)
    (hnodes : g'.nodes = g.nodes.map f) (hwaits : ∀ name, g'.waitsFor forward name = g.waitsFor forward name)
    (hevents : ∀ declared e, g'.eventsOf forward declared (f e) = (g.eventsOf forward declared e).map h)
    (hdeclared : ∀ events, declaredBy (events.map h) = declaredBy events) :
    g'.orderTypes forward = (g.orderTypes forward).map (List.map h) := by
  have hplace : ∀ declared a, g'.place forward declared (a.map f) =
      (g.place forward declared a).map (List.map h) := by
    intro declared a
    induction declared, a using place.induct g forward with
    | case1 declared a hnil hempty =>
      have hmapped : (a.map f).ready = [] := by rw [Agenda.map, hnil]; rfl
      rw [place_of_nil hnil, place_of_nil hmapped, if_pos hempty, if_pos (by simpa [Agenda.map] using hempty)]
      rfl
    | case2 declared a hnil hempty =>
      have hmapped : (a.map f).ready = [] := by rw [Agenda.map, hnil]; rfl
      have hnames : (a.map f).waiting.map (·.entity.name) = a.waiting.map (·.entity.name) := by
        simp [Agenda.map, Waiter.map, Function.comp_def, hname]
      rw [place_of_nil hnil, place_of_nil hmapped, if_neg hempty, if_neg (by simpa [Agenda.map] using hempty), hnames]
      rfl
    | case3 declared a e rest hcons _ _ ih =>
      have hmapped : (a.map f).ready = f e :: rest.map f := by rw [Agenda.map, hcons]; rfl
      have hnext : Agenda.next (f e).name (rest.map f) (a.map f).waiting =
          (Agenda.next e.name rest a.waiting).map f := by
        rw [hname]
        exact Agenda.map_next hbefore e.name rest a.waiting
      rw [place_of_cons hcons, place_of_cons hmapped, hevents, hdeclared, hnext, ih]
      cases g.place forward (declaredBy (g.eventsOf forward declared e) ++ declared)
        (Agenda.next e.name rest a.waiting) with
      | error error => rfl
      | ok events => exact congrArg Except.ok List.map_append.symm
  have hstart : Agenda.release [] (g'.waiters forward) = (Agenda.release [] (g.waiters forward)).map f := by
    rw [← Agenda.map_release hbefore, waiters, waiters, hnodes, List.map_map, List.map_map]
    congr 1
    refine List.map_congr_left fun e _ => ?_
    simp [Waiter.map, hname, hwaits]
  rw [orderTypes, orderTypes, hstart, hplace]

/-! ### What an agenda lists -/

/-- A type that waits, when some types are placed. -/
def waiter (g : DependencyGraph) (forward placed : List String) (e : Entity) : Waiter where
  entity := e
  targets := g.waitsFor forward e.name
  missing := ((g.waitsFor forward e.name).filter fun b => !placed.contains b).length

theorem waiters_eq (g : DependencyGraph) (forward : List String) :
    g.waiters forward = g.nodes.map (g.waiter forward []) := by
  simp [waiters, waiter]

theorem missing_waiter : (g.waiter forward placed e).missing = 0 ↔ g.isReady forward placed e = true := by
  simp [waiter, isReady, List.filter_eq_nil_iff]

/-- A type that waits misses one less when one that it waits for is placed for the first time. -/
theorem see_waiter {name : String} (hname : name ∉ placed) :
    (g.waiter forward placed e).see name = g.waiter forward (name :: placed) e := by
  have hnodup : ((g.waitsFor forward e.name).filter fun b => !placed.contains b).Nodup :=
    (nodup_distinct _).filter _
  have hfilter : ((g.waitsFor forward e.name).filter fun b => !(name :: placed).contains b) =
      ((g.waitsFor forward e.name).filter fun b => !placed.contains b).erase name := by
    rw [hnodup.erase_eq_filter, List.filter_filter]
    refine List.filter_congr fun b _ => ?_
    by_cases hb : b = name
    · simp [hb]
    · simp [hb]
  unfold Waiter.see waiter
  dsimp only
  rw [hfilter]
  by_cases hmem : name ∈ g.waitsFor forward e.name
  · rw [if_pos (by simpa using hmem), List.length_erase_of_mem (List.mem_filter.2 ⟨hmem, by simpa using hname⟩)]
  · rw [if_neg (by simpa using hmem), List.erase_of_not_mem fun h => hmem (List.mem_filter.1 h).1]

theorem isReady_cons {name : String} (h : g.isReady forward placed e = true) :
    g.isReady forward (name :: placed) e = true :=
  isReady_iff.2 fun b hb => List.mem_cons_of_mem _ (isReady_iff.1 h b hb)

/-- An agenda of the types that are left when some are placed. -/
structure Lists (g : DependencyGraph) (forward placed : List String) (left : List Entity) (a : Agenda) : Prop where
  sorted : left.Pairwise fun a b => a.rank ≤ b.rank
  names : (left.map (·.name)).Nodup
  fresh : ∀ x ∈ left, x.name ∉ placed
  ready : a.ready = left.filter (g.isReady forward placed)
  waiting : a.waiting = (left.filter fun x => !g.isReady forward placed x).map (g.waiter forward placed)

/-- What is released joins what was ready, and what still misses something goes on waiting. -/
theorem lists_release {ready pending : List Entity} (hsorted : left.Pairwise fun a b => a.rank ≤ b.rank)
    (hnames : (left.map (·.name)).Nodup) (hfresh : ∀ x ∈ left, x.name ∉ placed)
    (hready : ready.Pairwise fun a b => a.rank ≤ b.rank)
    (hperm : (ready ++ pending.filter (g.isReady forward placed)).Perm (left.filter (g.isReady forward placed)))
    (hpending : (pending.filter fun x => !g.isReady forward placed x) =
      left.filter fun x => !g.isReady forward placed x) :
    g.Lists forward placed left (Agenda.release ready (pending.map (g.waiter forward placed))) where
  sorted := hsorted
  names := hnames
  fresh := hfresh
  ready := by
    have hreleased : ((pending.map (g.waiter forward placed)).filter fun w => w.missing = 0).map (·.entity) =
        pending.filter (g.isReady forward placed) := by
      rw [List.filter_map, List.map_map]
      refine (List.map_congr_left fun x _ => ?_).trans ((List.map_id _).trans (List.filter_congr fun x _ => ?_))
      · rfl
      · simp [missing_waiter]
    rw [Agenda.release, hreleased]
    have hfold := Entity.foldl_insertBy_perm (pending.filter (g.isReady forward placed)) ready
    refine (Entity.eq_of_perm ?_ (hfold.trans hperm).symm (hsorted.filter _)
      (Entity.pairwise_foldl_insertBy _ hready)).symm
    exact hnames.sublist (List.filter_sublist.map _)
  waiting := by
    rw [← hpending, Agenda.release]
    dsimp only
    rw [List.filter_map]
    refine congrArg _ (List.filter_congr fun x _ => ?_)
    simp [missing_waiter]

theorem lists_start (hsorted : g.nodes.Pairwise fun a b => a.rank ≤ b.rank)
    (hnames : (g.nodes.map (·.name)).Nodup) :
    g.Lists forward [] g.nodes (Agenda.release [] (g.waiters forward)) := by
  rw [waiters_eq]
  exact lists_release hsorted hnames (by simp) .nil (.refl _) rfl

theorem Lists.find?_ne (h : g.Lists forward placed left a) (hready : a.ready = []) (e : Entity) :
    left.find? (g.isReady forward placed) ≠ some e := by
  rw [← List.head?_filter, ← h.ready, hready]
  nofun

theorem Lists.left_eq_nil (h : g.Lists forward placed left a) (hready : a.ready = [])
    (hwaiting : a.waiting.isEmpty = true) : left = [] := by
  have hnone : left.filter (g.isReady forward placed) = [] := h.ready.symm.trans hready
  have hothers := List.map_eq_nil_iff.1 (h.waiting.symm.trans (List.isEmpty_iff.1 hwaiting))
  refine List.eq_nil_iff_forall_not_mem.2 fun x hx => List.filter_eq_nil_iff.1 hothers x hx ?_
  simpa using List.filter_eq_nil_iff.1 hnone x hx

theorem Lists.find?_eq (h : g.Lists forward placed left a) (hready : a.ready = e :: rest) :
    left.find? (g.isReady forward placed) = some e := by
  rw [← List.head?_filter, ← h.ready, hready]
  rfl

/-- What is placed is left no longer. -/
theorem Lists.fresh_erase (h : g.Lists forward placed left a) (he : e ∈ left) :
    ∀ x ∈ left.erase e, x.name ∉ e.name :: placed := by
  intro x hx hplaced
  rcases List.mem_cons.1 hplaced with hname | hplaced
  · have hsame := List.inj_on_of_nodup_map h.names (List.mem_of_mem_erase hx) he hname
    exact (List.Nodup.of_map _ h.names).not_mem_erase (hsame ▸ hx)
  · exact h.fresh x (List.mem_of_mem_erase hx) hplaced

/-- The others that were ready. -/
theorem Lists.rest_eq (h : g.Lists forward placed left a) (hready : a.ready = e :: rest) :
    rest = (left.erase e).filter (g.isReady forward placed) := by
  have hnodup : left.Nodup := .of_map _ h.names
  have hcons := congrArg (List.erase · e) (hready.symm.trans h.ready)
  rw [hnodup.erase_eq_filter, List.filter_comm, ← (hnodup.filter _).erase_eq_filter]
  simpa using hcons

/-- What waited goes on waiting for one type less. -/
theorem Lists.waiting_see (h : g.Lists forward placed left a) (hready : a.ready = e :: rest) :
    a.waiting.map (Waiter.see e.name) =
      ((left.erase e).filter fun x => !g.isReady forward placed x).map (g.waiter forward (e.name :: placed)) := by
  have hfind := h.find?_eq hready
  have hpending : (left.filter fun x => !g.isReady forward placed x) =
      (left.erase e).filter fun x => !g.isReady forward placed x := by
    rw [List.Nodup.erase_eq_filter (.of_map _ h.names), List.filter_filter]
    refine List.filter_congr fun x _ => ?_
    by_cases hx : x = e
    · simp [hx, List.find?_some hfind]
    · simp [hx]
  rw [h.waiting, List.map_map, hpending]
  exact List.map_congr_left fun x _ => see_waiter (h.fresh e (List.mem_of_find?_eq_some hfind))

/-- Placing the first type that is ready leaves an agenda of the others. -/
theorem Lists.next (h : g.Lists forward placed left a) (hready : a.ready = e :: rest) :
    g.Lists forward (e.name :: placed) (left.erase e) (Agenda.next e.name rest a.waiting) := by
  have hsorted := h.sorted.sublist (List.erase_sublist (a := e))
  rw [Agenda.next, h.waiting_see hready]
  refine lists_release hsorted (h.names.sublist (List.erase_sublist.map _))
    (h.fresh_erase (List.mem_of_find?_eq_some (h.find?_eq hready))) ?_ ?_ ?_
  · rw [h.rest_eq hready]
    exact hsorted.filter _
  · -- what was ready stays ready
    have hsplit := List.filter_append_perm (g.isReady forward placed)
      ((left.erase e).filter (g.isReady forward (e.name :: placed)))
    refine List.Perm.trans (.of_eq ?_) hsplit
    rw [h.rest_eq hready, List.filter_filter, List.filter_filter, List.filter_filter]
    congr 1
    · refine List.filter_congr fun x _ => ?_
      cases hx : g.isReady forward placed x with
      | false => simp
      | true => simp [isReady_cons hx]
    · refine List.filter_congr fun x _ => ?_
      exact Bool.and_comm _ _
  · rw [List.filter_filter]
    refine List.filter_congr fun x _ => ?_
    cases hx : g.isReady forward placed x with
    | false => simp
    | true => simp [isReady_cons hx]

/-! ### The order of the choices -/

/-- Placing says what is said along the order in which the earliest type that is ready comes next. -/
theorem place_eq_ok_iff {events : List Event} (h : g.Lists forward placed left a) :
    g.place forward declared a = .ok events ↔
      ∃ order, g.ChosenOrder forward placed left order ∧ events = g.eventsAlong forward declared order := by
  induction declared, a using place.induct g forward generalizing placed left events with
  | case1 declared a hnil hempty =>
    rw [place_of_nil hnil, if_pos hempty]
    constructor
    · intro hok
      cases hok
      exact ⟨[], h.left_eq_nil hnil hempty, rfl⟩
    · rintro ⟨_ | ⟨e, rest⟩, hchosen, rfl⟩
      · rfl
      · exact absurd hchosen.1 (h.find?_ne hnil e)
  | case2 declared a hnil hempty =>
    rw [place_of_nil hnil, if_neg hempty]
    constructor
    · intro hok
      cases hok
    · rintro ⟨_ | ⟨e, rest⟩, hchosen, rfl⟩
      · refine absurd ?_ hempty
        rw [h.waiting, show left = [] from hchosen]
        rfl
      · exact absurd hchosen.1 (h.find?_ne hnil e)
  | case3 declared a e rest hcons _ _ =>
    rename_i ih
    have hfind := h.find?_eq hcons
    have hnext := h.next hcons
    rw [place_of_cons hcons]
    constructor
    · intro hok
      cases hplace : g.place forward (declaredBy (g.eventsOf forward declared e) ++ declared)
          (Agenda.next e.name rest a.waiting) with
      | error error => rw [hplace] at hok; cases hok
      | ok later =>
        rw [hplace] at hok
        cases hok
        obtain ⟨order, hchosen, rfl⟩ := (ih hnext).1 hplace
        exact ⟨e :: order, ⟨hfind, hchosen⟩, rfl⟩
    · rintro ⟨_ | ⟨x, order⟩, hchosen, rfl⟩
      · rw [show left = [] from hchosen] at hfind
        cases hfind
      · obtain ⟨hfirst, hrest⟩ := hchosen
        obtain rfl := Option.some.inj (hfind.symm.trans hfirst)
        rw [(ih hnext).2 ⟨order, hrest, rfl⟩]
        rfl

theorem orderTypes_eq_ok_iff (hsorted : g.nodes.Pairwise fun a b => a.rank ≤ b.rank)
    (hnames : (g.nodes.map (·.name)).Nodup) {events : List Event} : g.orderTypes forward = .ok events ↔
      ∃ order, g.ChosenOrder forward [] g.nodes order ∧ events = g.eventsAlong forward [] order :=
  place_eq_ok_iff (lists_start hsorted hnames)

theorem ChosenOrder.perm (h : g.ChosenOrder forward placed left order) : order.Perm left := by
  induction order generalizing placed left with
  | nil => rw [show left = [] from h]
  | cons e rest ih =>
    exact ((ih h.2).cons e).trans (List.perm_cons_erase (List.mem_of_find?_eq_some h.1)).symm

theorem ChosenOrder.readyOrder (h : g.ChosenOrder forward placed left order) :
    g.ReadyOrder forward placed order := by
  induction order generalizing placed left with
  | nil => trivial
  | cons e rest ih => exact ⟨isReady_iff.1 (List.find?_some h.1), ih h.2⟩

/-- Where nothing waits for itself, one of some types waits for none of them. -/
theorem exists_waits_for_none (hacyclic : ∀ a, ¬ TransGen (g.Waits forward) a a) {names : List String}
    (hne : names ≠ []) : ∃ a ∈ names, ∀ b ∈ names, ¬ g.Waits forward a b := by
  let later : {x // x ∈ names} → {x // x ∈ names} → Prop := fun x y => TransGen (g.Waits forward) y.1 x.1
  have : Finite {x // x ∈ names} := Finite.of_fintype _
  have : IsTrans _ later := ⟨fun x y z hxy hyz => TransGen.trans hyz hxy⟩
  have : Std.Irrefl later := ⟨fun x hx => hacyclic x.1 hx⟩
  have hwf : WellFounded later := Finite.wellFounded_of_trans_of_irrefl later
  obtain ⟨a, ha⟩ := List.exists_mem_of_ne_nil names hne
  obtain ⟨least, _, hleast⟩ := hwf.has_min Set.univ ⟨⟨a, ha⟩, trivial⟩
  exact ⟨least.1, least.2, fun b hb hwaits => hleast ⟨b, hb⟩ trivial (TransGen.single hwaits)⟩

/-- Types that wait only for each other and for what is placed can all be placed. -/
theorem exists_chosenOrder_of_acyclic (hacyclic : ∀ a, ¬ TransGen (g.Waits forward) a a) (placed : List String)
    (left : List Entity)
    (hleft : ∀ e ∈ left, ∀ b, g.Waits forward e.name b → b ∈ placed ∨ b ∈ left.map (·.name)) :
    ∃ order, g.ChosenOrder forward placed left order := by
  induction hn : left.length generalizing placed left with
  | zero => exact ⟨[], List.length_eq_zero_iff.1 hn⟩
  | succ n ih =>
    have hne : left.map (·.name) ≠ [] := by
      rintro hnil
      rw [List.map_eq_nil_iff.1 hnil] at hn
      cases hn
    obtain ⟨a, ha, hnot⟩ := exists_waits_for_none hacyclic hne
    obtain ⟨x, hx, rfl⟩ := List.mem_map.1 ha
    obtain ⟨e, he⟩ : ∃ e, left.find? (g.isReady forward placed) = some e := by
      rw [← Option.isSome_iff_exists, List.find?_isSome]
      exact ⟨x, hx, isReady_iff.2 fun b hb => (hleft x hx b hb).resolve_right fun hin => hnot b hin hb⟩
    obtain ⟨order, horder⟩ := ih (e.name :: placed) (left.erase e) (by
      intro y hy b hb
      rcases hleft y (List.mem_of_mem_erase hy) b hb with hplaced | hin
      · exact Or.inl (List.mem_cons_of_mem _ hplaced)
      · obtain ⟨z, hz, rfl⟩ := List.mem_map.1 hin
        by_cases hze : z = e
        · exact Or.inl (by simp [hze])
        · exact Or.inr (List.mem_map_of_mem ((List.mem_erase_of_ne hze).2 hz))) (by
      rw [List.length_erase_of_mem (List.mem_of_find?_eq_some he), hn]
      rfl)
    exact ⟨e :: order, he, horder⟩

/-- Whatever a type waits for is placed or stands in front of it. -/
theorem mem_of_readyOrder {front rest : List Entity} {b : String}
    (h : g.ReadyOrder forward placed (front ++ e :: rest)) (hb : g.Waits forward e.name b) :
    b ∈ placed ∨ b ∈ front.map (·.name) := by
  induction front generalizing placed with
  | nil => exact Or.inl (h.1 b hb)
  | cons x front ih =>
    rcases ih h.2 with hin | hin
    · rcases List.mem_cons.1 hin with rfl | hin
      · exact Or.inr (by simp)
      · exact Or.inl hin
    · exact Or.inr (List.mem_cons_of_mem _ hin)

end DependencyGraph

end CrateHeader
