import Mathlib
import CrateHeader.Proofs.Walking

/-!
# What specialization keeps

After the walk the table gives up what was not reached and what is left out, and the paths of the rest are
renamed to the instances they select. Giving up an entity forgets neither which instances were made nor
their names, so the survivors are the reached entities in their old order with their paths renamed.
-/

namespace CrateHeader

namespace Library

variable {lib : Library} {e : Entity} {name : String} {reached excluded : List String}

/-! ### Giving up entities -/

/-- The instances as they were made, with their keys. -/
def recorded (lib : Library) : List (InstanceKey × Entity) :=
  lib.instances.map fun i => (i.key, i.made)

theorem recorded_withdraw : (lib.withdraw e).recorded = lib.recorded := by
  simp only [recorded, withdraw, List.map_map]
  refine List.map_congr_left fun i _ => ?_
  by_cases hi : i.name = e.name ∧ i.withdrawn = none
  · simp [hi]
  · simp [hi]

theorem recorded_erase : (lib.erase e).recorded = lib.recorded := recorded_withdraw

/-- The names of instances depend only on how they were made. -/
theorem instanceName?_eq_of_recorded_eq {lib' : Library} (h : lib.recorded = lib'.recorded) :
    lib.instanceName? = lib'.instanceName? := by
  have hfind : ∀ (l : Library) (n : String) (args : List Ty), l.instanceName? n args =
      (l.recorded.find? fun p => p.1 = ⟨n, args⟩).map fun p => p.2.name := by
    intro l n args
    simp only [instanceName?, instance?, recorded, List.find?_map, Option.map_map]
    rfl
  funext n args
  rw [hfind, hfind, h]

/-- Giving up one name after the other gives up all of them. -/
theorem entities_foldl {α : Type} (f : Library → α → Library) (nameOf : α → String)
    (hf : ∀ lib a, (f lib a).entities = lib.entities.filter fun x => x.name != nameOf a) (as : List α)
    (lib : Library) :
    (as.foldl f lib).entities = lib.entities.filter fun x => !(as.map nameOf).contains x.name := by
  induction as generalizing lib with
  | nil => simp
  | cons a rest ih =>
    rw [List.foldl_cons, ih, hf, List.filter_filter]
    refine List.filter_congr fun x _ => ?_
    simp only [List.map_cons, List.contains_cons, Bool.not_or]
    rw [Bool.and_comm]
    rfl

theorem recorded_foldl {α : Type} (f : Library → α → Library)
    (hf : ∀ lib a, (f lib a).recorded = lib.recorded) (as : List α) (lib : Library) :
    (as.foldl f lib).recorded = lib.recorded := by
  induction as generalizing lib with
  | nil => rfl
  | cons a rest ih => rw [List.foldl_cons, ih, hf]

/-- What was not reached is what is dropped. -/
theorem entities_drop : ((lib.dropped reached).foldl erase lib).entities =
    lib.entities.filter fun e => reached.contains e.name := by
  rw [entities_foldl erase (·.name) fun _ _ => rfl]
  refine List.filter_congr fun x hx => ?_
  rw [Bool.eq_iff_iff, Bool.not_eq_true', ← Bool.not_eq_true, List.contains_iff_mem, List.mem_map]
  constructor
  · intro h
    by_contra hreached
    exact h ⟨x, List.mem_filter.2 ⟨hx, by simpa using hreached⟩, rfl⟩
  · rintro h ⟨d, hd, hname⟩
    have hnot := (List.mem_filter.1 hd).2
    rw [hname, h] at hnot
    cases hnot

theorem entities_makeExternal :
    (lib.makeExternal name).entities = lib.entities.filter fun x => x.name != name := by
  have hwithout : (((lib.remove? name).map Prod.snd).getD lib).entities =
      lib.entities.filter fun x => x.name != name := by
    cases hget : lib.get? name with
    | none =>
      have hnot := get?_eq_none_iff.1 hget
      have hall : ∀ x ∈ lib.entities, (x.name != name) = true := by
        intro x hx
        rw [bne_iff_ne]
        rintro rfl
        exact hnot (List.mem_map_of_mem hx)
      rw [List.filter_eq_self.2 hall]
      simp [remove?, hget]
    | some e => simp [remove?, hget, erase, name_of_get? hget]
  unfold makeExternal
  dsimp only
  split
  · exact hwithout
  · exact hwithout

theorem recorded_makeExternal : (lib.makeExternal name).recorded = lib.recorded := by
  have hwithout : (((lib.remove? name).map Prod.snd).getD lib).recorded = lib.recorded := by
    cases hget : lib.get? name with
    | none => simp [remove?, hget]
    | some e => simp [remove?, hget, recorded_erase]
  unfold makeExternal
  dsimp only
  split
  · exact hwithout
  · exact hwithout

theorem entities_foldl_makeExternal (names : List String) (lib : Library) :
    (names.foldl makeExternal lib).entities = lib.entities.filter fun x => !names.contains x.name := by
  have h := entities_foldl makeExternal id (fun _ _ => entities_makeExternal) names lib
  rwa [List.map_id] at h

/-! ### Survivors -/

/-- The entities that a walk reached and that are not left out. -/
def survivors (reached excluded : List String) (es : List Entity) : List Entity :=
  es.filter fun e => reached.contains e.name && !excluded.contains e.name

theorem mem_survivors {es : List Entity} :
    e ∈ survivors reached excluded es ↔ e ∈ es ∧ e.name ∈ reached ∧ e.name ∉ excluded := by
  simp [survivors]

/-- Neither what is dropped nor what is left out is forgotten as an instance. -/
theorem recorded_giveUp (lib : Library) (reached excluded : List String) :
    (excluded.foldl makeExternal ((lib.dropped reached).foldl erase lib)).recorded = lib.recorded := by
  rw [recorded_foldl makeExternal fun _ _ => recorded_makeExternal,
    recorded_foldl erase fun _ _ => recorded_erase]

theorem recorded_keepReached : (lib.keepReached reached excluded).recorded = lib.recorded := by
  unfold keepReached renameInstances
  exact recorded_giveUp lib reached excluded

theorem made_keepReached :
    (lib.keepReached reached excluded).instances.map (·.made) = lib.instances.map (·.made) := by
  have h := congrArg (List.map Prod.snd) (recorded_keepReached : (lib.keepReached reached excluded).recorded = _)
  simpa [recorded, Function.comp_def] using h

/-- What is kept stands in the old order, each path that selects an instance renamed to it. -/
theorem entities_keepReached : (lib.keepReached reached excluded).entities =
    (survivors reached excluded lib.entities).map (Entity.mapTypes (Ty.replacePaths lib.instanceName?)) := by
  unfold keepReached renameInstances mapEntities
  dsimp only
  rw [entities_foldl_makeExternal, entities_drop, List.filter_filter]
  rw [instanceName?_eq_of_recorded_eq (recorded_giveUp lib reached excluded)]
  congr 1
  refine List.filter_congr fun x _ => ?_
  rw [Bool.and_comm]

/-! ### What is left to included headers -/

theorem external_makeExternal :
    (lib.makeExternal name).external = if name ∈ lib.external then lib.external else lib.external ++ [name] := by
  have hwithout : (((lib.remove? name).map Prod.snd).getD lib).external = lib.external := by
    cases hget : lib.get? name with
    | none => simp [remove?, hget]
    | some e => simp [remove?, hget, erase, withdraw]
  unfold makeExternal
  dsimp only
  rw [hwithout]
  by_cases hlisted : name ∈ lib.external
  · simp [hlisted, hwithout]
  · simp [hlisted]

theorem mem_external_makeExternal {n : String} :
    n ∈ (lib.makeExternal name).external ↔ n ∈ lib.external ∨ n = name := by
  rw [external_makeExternal]
  split
  · next hlisted =>
    refine ⟨Or.inl, ?_⟩
    rintro (h | rfl)
    · exact h
    · exact hlisted
  · simp

theorem external_drop (es : List Entity) : (es.foldl erase lib).external = lib.external := by
  induction es generalizing lib with
  | nil => rfl
  | cons e rest ih => exact ih

theorem mem_external_foldl_makeExternal {n : String} (names : List String) :
    n ∈ (names.foldl makeExternal lib).external ↔ n ∈ lib.external ∨ n ∈ names := by
  induction names generalizing lib with
  | nil => simp
  | cons first rest ih => rw [List.foldl_cons, ih, mem_external_makeExternal, List.mem_cons, or_assoc]

theorem external_foldl_makeExternal_eq_self {names : List String} (h : ∀ n ∈ names, n ∈ lib.external) :
    (names.foldl makeExternal lib).external = lib.external := by
  induction names generalizing lib with
  | nil => rfl
  | cons first rest ih =>
    have hfirst : (lib.makeExternal first).external = lib.external := by
      rw [external_makeExternal, if_pos (h first List.mem_cons_self)]
    rw [List.foldl_cons, ih fun n hn => hfirst ▸ h n (List.mem_cons_of_mem _ hn), hfirst]

/-- What is left out is left to included headers, beside what was before. -/
theorem mem_external_keepReached {n : String} :
    n ∈ (lib.keepReached reached excluded).external ↔ n ∈ lib.external ∨ n ∈ excluded := by
  unfold keepReached renameInstances mapEntities
  dsimp only
  rw [mem_external_foldl_makeExternal, external_drop]

theorem external_keepReached_eq_self (h : ∀ n ∈ excluded, n ∈ lib.external) :
    (lib.keepReached reached excluded).external = lib.external := by
  unfold keepReached renameInstances mapEntities
  dsimp only
  rw [external_foldl_makeExternal_eq_self, external_drop]
  rwa [external_drop]

end Library

namespace Workshop

variable {ceiling : Ceiling} {included excluded reached : List String} {w w' : Workshop} {base : Library}
  {firstSeq : Nat} {dropUnderscores : Bool}

/-! ### What a workshop keeps -/

namespace Grown

variable (hw : Grown base firstSeq dropUnderscores w)
include hw

/-- Declared entities are kept in front of instances. -/
theorem entities_kept : (w.library.keepReached reached excluded).entities =
    (Library.survivors reached excluded base.entities ++
      Library.survivors reached excluded ((w.library.keepReached reached excluded).instances.map (·.made))).map
        (Entity.mapTypes (Ty.replacePaths (w.library.keepReached reached excluded).instanceName?)) := by
  rw [Library.made_keepReached, Library.instanceName?_eq_of_recorded_eq Library.recorded_keepReached,
    Library.entities_keepReached, hw.entities, Library.survivors, List.filter_append]
  rfl

theorem seqs_kept : (w.library.keepReached reached excluded).instances.map (·.made.seq) =
    List.range' firstSeq (w.library.keepReached reached excluded).instances.length := by
  have hmade : (w.library.keepReached reached excluded).instances.map (·.made) =
      w.library.instances.map (·.made) := Library.made_keepReached
  have hlength : (w.library.keepReached reached excluded).instances.length = w.library.instances.length := by
    simpa using congrArg List.length hmade
  rw [hlength, ← hw.seqs]
  simpa [Function.comp_def] using congrArg (List.map Entity.seq) hmade

/-- Instances are kept in the order of their making. -/
theorem pairwise_seq_kept : (Library.survivors reached excluded
    ((w.library.keepReached reached excluded).instances.map (·.made))).Pairwise (·.seq < ·.seq) := by
  refine List.Pairwise.sublist List.filter_sublist (List.pairwise_map.2 ?_)
  have hsorted : (List.range' firstSeq (w.library.keepReached reached excluded).instances.length).Pairwise
      (· < ·) := List.pairwise_lt_range'
  rw [← hw.seqs_kept] at hsorted
  exact List.pairwise_map.1 hsorted

end Grown

/-! ### A specialization that succeeds -/

/-- Where a walk starts: at the roots, with nothing made. -/
def start (included excluded : List String) (w : Workshop) : Walk where
  workshop := { w with log := w.log ++ w.library.rootsLog included excluded }
  reached := (w.library.roots included excluded).map (·.name)
  queue := (w.library.roots included excluded).map fun e => (e, 0)

theorem inv_start_start (htable : w.library.IsTable) (hfresh : w.library.instances = []) :
    Walk.Inv w.library w.nextSeq dropUnderscores included excluded (Entity.bare "" 0 .opaqueType) []
      (w.start included excluded) := by
  let logged : Workshop := { w with log := w.log ++ w.library.rootsLog included excluded }
  have h : logged.library.IsTable := htable
  exact Walk.inv_start h hfresh

theorem specialize_run (h : w.specialize ceiling included excluded = (w', .ok ())) :
    ∃ walk, Walk.run ceiling excluded (w.start included excluded) = .ok walk ∧
      w'.library = walk.workshop.library.keepReached walk.reached excluded := by
  unfold specialize at h
  dsimp only at h
  split at h
  · cases h
  · next walk hrun =>
    cases h
    exact ⟨walk, hrun, rfl⟩

/-- A specialization fails where its walk does and leaves the workshop as it was then. -/
theorem specialize_of_failure {failure : WalkFailure}
    (h : Walk.run ceiling excluded (w.start included excluded) = .error failure) :
    w.specialize ceiling included excluded = (failure.workshop, .error failure.error) := by
  have hrun : Walk.run ceiling excluded ⟨{ w with log := w.log ++ w.library.rootsLog included excluded },
      (w.library.roots included excluded).map (·.name),
      (w.library.roots included excluded).map fun e => (e, 0)⟩ = .error failure := h
  unfold specialize
  dsimp only
  rw [hrun]

/-- A specialization succeeds where its walk ends and keeps what the walk reached. -/
theorem specialize_of_walk {walk : Walk} (h : Walk.run ceiling excluded (w.start included excluded) = .ok walk) :
    (w.specialize ceiling included excluded).2 = .ok () ∧
      (w.specialize ceiling included excluded).1.library =
        walk.workshop.library.keepReached walk.reached excluded := by
  have hrun : Walk.run ceiling excluded ⟨{ w with log := w.log ++ w.library.rootsLog included excluded },
      (w.library.roots included excluded).map (·.name),
      (w.library.roots included excluded).map fun e => (e, 0)⟩ = .ok walk := h
  unfold specialize
  dsimp only
  rw [hrun]
  exact ⟨rfl, rfl⟩

/-- A specialization that succeeds has walked the surface to its end. -/
theorem specialize_ok (htable : w.library.IsTable) (hfresh : w.library.instances = [])
    (h : w.specialize ceiling included excluded = (w', .ok ())) :
    ∃ walk owner, Walk.Inv w.library w.nextSeq ceiling.dropUnderscores included excluded owner [] walk ∧
      walk.queue = [] ∧ w'.library = walk.workshop.library.keepReached walk.reached excluded := by
  obtain ⟨walk, hrun, hlib⟩ := specialize_run h
  obtain ⟨⟨owner, hinv⟩, hq⟩ := (inv_start_start htable hfresh).run rfl hrun
  exact ⟨walk, owner, hinv, hq, hlib⟩

/-- The table stays one, whatever was made before. -/
theorem isTable_specialize (htable : w.library.IsTable)
    (h : w.specialize ceiling included excluded = (w', .ok ())) : w'.library.IsTable := by
  obtain ⟨walk, hrun, hlib⟩ := specialize_run h
  have hwalk : (Walk.workshopOf (Walk.run ceiling excluded (w.start included excluded))).library.IsTable :=
    Walk.workshopOf_run (P := fun shop => shop.library.IsTable)
      (fun _ _ _ _ _ _ => isTable_of_follow) htable
  rw [hrun] at hwalk
  have hnames : w'.library.names =
      (Library.survivors walk.reached excluded walk.workshop.library.entities).map (·.name) := by
    rw [hlib, Library.names, Library.entities_keepReached, List.map_map]
    rfl
  unfold Library.IsTable
  rw [hnames]
  exact hwalk.sublist (List.filter_sublist.map _)

/-- Templates are never on the surface, only their instances are. -/
theorem isGeneric_of_onSurface {s : Member} (hs : OnSurface w.library included excluded s)
    (dropUnderscores : Bool) (seq : Nat) : (s.entity dropUnderscores seq).isGeneric = false := by
  cases hs with
  | root _ hconcrete => exact hconcrete
  | concrete _ _ _ _ hconcrete => exact hconcrete
  | generic => rfl

theorem not_isGeneric_of_specialize (htable : w.library.IsTable) (hfresh : w.library.instances = [])
    (h : w.specialize ceiling included excluded = (w', .ok ())) :
    ∀ e ∈ w'.library.entities, e.isGeneric = false := by
  obtain ⟨walk, owner, hinv, _, hlib⟩ := specialize_ok htable hfresh h
  intro e he
  rw [hlib, Library.entities_keepReached] at he
  obtain ⟨x, hx, rfl⟩ := List.mem_map.1 he
  obtain ⟨hmem, hreached, _⟩ := Library.mem_survivors.1 hx
  obtain ⟨s, seq, hs, rfl⟩ := hinv.sound hmem hreached
  exact isGeneric_of_onSurface hs _ _

/-- Specialization keeps the surface and nothing else. The surface follows the outer paths of the references that its
members have. What survives is declared or made, as it stands on the surface but with the paths that select instances
renamed: first the declared entities in the order that they had, then instances in the order of their making. -/
theorem specialize_exact (htable : w.library.IsTable) (hfresh : w.library.instances = [])
    (h : w.specialize ceiling included excluded = (w', .ok ())) :
    (∀ name, name ∈ w'.library.names ↔ name ∉ excluded ∧
      ∃ s, OnSurface w.library included excluded s ∧ s.name ceiling.dropUnderscores = name) ∧
    (∀ s : Member, ∃ types, s.HasReferences types ∧ s.mentions = types.flatMap Ty.paths) ∧
    (∀ e ∈ w'.library.entities, e.isGeneric = false) ∧
    ∃ declared made : List Entity,
      w'.library.entities =
        (declared ++ made).map (Entity.mapTypes (Ty.replacePaths w'.library.instanceName?)) ∧
      declared.Sublist w.library.entities ∧
      made.Sublist (w'.library.instances.map (·.made)) ∧
      w'.library.instances.map (·.made.seq) = List.range' w.nextSeq w'.library.instances.length ∧
      made.Pairwise (·.seq < ·.seq) ∧
      (∀ e ∈ declared, OnSurface w.library included excluded (.declared e)) ∧
      ∀ e ∈ made, ∃ t args seq, OnSurface w.library included excluded (.made t args) ∧
        e = (Member.made t args).entity ceiling.dropUnderscores seq ∧
        (Member.made t args).HasReferences e.body.types := by
  obtain ⟨walk, owner, hinv, hq, hlib⟩ := specialize_ok htable hfresh h
  have hconcrete := not_isGeneric_of_specialize htable hfresh h
  rw [hlib] at hconcrete ⊢
  refine ⟨fun name => ?_, Member.exists_references, hconcrete, _, _, hinv.grown.entities_kept, List.filter_sublist,
    List.filter_sublist, hinv.grown.seqs_kept, hinv.grown.pairwise_seq_kept, ?_, ?_⟩
  · rw [← hinv.mem_reached hq, Library.names, Library.entities_keepReached, List.map_map,
      List.mem_map]
    constructor
    · rintro ⟨e, he, rfl⟩
      obtain ⟨_, hreached, hkept⟩ := Library.mem_survivors.1 he
      exact ⟨hkept, hreached⟩
    · rintro ⟨hkept, hreached⟩
      obtain ⟨e, he, rfl⟩ := List.mem_map.1 (hinv.listed name hreached)
      exact ⟨e, Library.mem_survivors.2 ⟨he, hreached, hkept⟩, rfl⟩
  · intro e he
    obtain ⟨hmem, hreached, _⟩ := Library.mem_survivors.1 he
    exact hinv.declared e hmem hreached
  · intro e he
    have hmem := (Library.mem_survivors.1 he).1
    rw [Library.made_keepReached] at hmem
    obtain ⟨i, hi, rfl⟩ := List.mem_map.1 hmem
    obtain ⟨t, args, hs, hcopy⟩ := hinv.copied i hi
    refine ⟨t, args, i.made.seq, hs, hcopy, ?_⟩
    rw [hcopy]
    exact Member.hasReferences_entity _ _ _

/-- A template that an exported struct uses, with a struct that nothing mentions and one to leave out. -/
def shelf : Workshop where
  library := {
    entities := [
      { Entity.bare "Box" 0 (.struct [.bare "item" (.path "T" [])]) with generics := ["T"] },
      .bare "Lid" 1 (.struct []),
      .bare "Shelf" 2 (.struct [.bare "box" (.path "Box" [.primitive .bool]),
        .bare "lid" (.pointer (.path "Lid" []) false true)]),
      { Entity.bare "Lost" 3 (.struct []) with exported := false }]
    instances := []
    external := [] }
  nextSeq := 1
  log := []

theorem isTable_shelf : shelf.library.IsTable := by
  unfold Library.IsTable
  decide

theorem specialize_exact_shelf : shelf.library.IsTable ∧ shelf.library.instances = [] ∧
    ∃ w', shelf.specialize ⟨4, false⟩ [] ["Lid"] = (w', .ok ()) ∧ w'.library.names = ["Shelf", "Box_bool"] ∧
      w'.library.entities.map (·.body.types) =
        [[.path "Box_bool" [], .pointer (.path "Lid" []) false true], [.primitive .bool]] ∧
      ∀ name, name ∈ w'.library.names ↔ name ∉ ["Lid"] ∧
        ∃ s, OnSurface shelf.library [] ["Lid"] s ∧ s.name false = name := by
  have hok : (shelf.specialize ⟨4, false⟩ [] ["Lid"]).2 = .ok () := by cbv
  have hrun : shelf.specialize ⟨4, false⟩ [] ["Lid"] =
      ((shelf.specialize ⟨4, false⟩ [] ["Lid"]).1, .ok ()) := Prod.ext rfl hok
  have hnames : (shelf.specialize ⟨4, false⟩ [] ["Lid"]).1.library.names = ["Shelf", "Box_bool"] := by cbv
  exact ⟨isTable_shelf, rfl, _, hrun, hnames, by cbv, (specialize_exact isTable_shelf rfl hrun).1⟩

end Workshop

end CrateHeader
