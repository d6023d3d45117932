import CrateHeader.Proofs.Renaming

/-!
# References that instances capture

An instance stands in the same table as what was declared, under a name that nobody declared. So a reference
may spell that name without having selected the instance, and then it leads there all the same.
`specialize_hygienic_iff` says that no other reference is led astray: one that leads to an instance has
selected it, and one that leads anywhere has no arguments, unless it spells the name of an instance that the
table keeps.
-/

namespace CrateHeader

namespace Ty

variable {rename : String → List Ty → Option String}

/-- What becomes of an outer path when paths are replaced. -/
def Mention.renamed (rename : String → List Ty → Option String) (m : Mention) : Mention :=
  match m.args with
  | [] => m
  | args => match rename m.name args with
    | some n => ⟨n, [], m.behindPointer⟩
    | none => ⟨m.name, replacePathsAll rename args, m.behindPointer⟩

theorem Mention.renamed_of_nil {m : Mention} (h : m.args = []) : m.renamed rename = m := by
  simp only [renamed, h]

theorem Mention.renamed_of_some {m : Mention} {n : String} (hargs : m.args ≠ [])
    (h : rename m.name m.args = some n) : m.renamed rename = ⟨n, [], m.behindPointer⟩ := by
  unfold renamed
  split
  · next hnil => exact absurd hnil hargs
  · next => rw [h]

/-- A path that selects no instance keeps its name. -/
theorem Mention.name_renamed_of_none {m : Mention} (h : rename m.name m.args = none) :
    (m.renamed rename).name = m.name := by
  unfold renamed
  split
  · rfl
  · rw [h]

mutual
theorem mentions_replacePaths (rename : String → List Ty → Option String) (behind : Bool) : (ty : Ty) →
    (ty.replacePaths rename).mentions behind = (ty.mentions behind).map (Mention.renamed rename)
  | .primitive _ => rfl
  | .path _ [] => rfl
  | .path name (first :: rest) => by
    cases h : rename name (first :: rest) with
    | some n => simp only [replacePaths, mentions, h, List.map_cons, List.map_nil, Mention.renamed]
    | none => simp only [replacePaths, mentions, h, List.map_cons, List.map_nil, Mention.renamed]
  | .pointer target _ _ => mentions_replacePaths rename true target
  | .array element _ => mentions_replacePaths rename behind element
  | .function params ret _ => by
    simp only [replacePaths, mentions, List.map_append, mentions_replacePathsParams rename params,
      mentions_replacePaths rename true ret]

theorem mentions_replacePathsParams (rename : String → List Ty → Option String) :
    (params : List (Option String × Ty)) →
      mentionsParams (replacePathsParams rename params) = (mentionsParams params).map (Mention.renamed rename)
  | [] => rfl
  | (_, ty) :: rest => by
    simp only [replacePathsParams, mentionsParams, List.map_append, mentions_replacePaths rename true ty,
      mentions_replacePathsParams rename rest]
end

end Ty

theorem Entity.mentions_replacePaths (rename : String → List Ty → Option String) (e : Entity) :
    (e.mapTypes (Ty.replacePaths rename)).mentions = e.mentions.map (Ty.Mention.renamed rename) := by
  simp only [mentions, mapTypes, Body.types_mapTypes, List.flatMap_map, List.map_flatMap, Ty.paths,
    Ty.mentions_replacePaths]

/-- Where a reference `m` as the walk saw it leads to an instance, `m` selected it; and where it leads to
anything, it has no arguments left. -/
def Library.IsHygienic (lib : Library) (m : Ty.Mention) : Prop :=
  ∀ t, lib.get? (m.renamed lib.instanceName?).name = some t →
    (m.renamed lib.instanceName?).args = [] ∧
      ∀ i ∈ lib.instances, i.name = t.name → i.key = ⟨m.name, m.args⟩

/-- A reference that selects no instance but names one is led astray. -/
theorem Library.not_isHygienic {lib : Library} {m : Ty.Mention} {i : Instance} {t : Entity}
    (hi : i ∈ lib.instances) (ht : lib.get? m.name = some t) (hname : i.name = t.name)
    (hnone : lib.instanceName? m.name m.args = none) (hother : i.key.template ≠ m.name) :
    ¬ lib.IsHygienic m := by
  intro h
  rw [← Ty.Mention.name_renamed_of_none hnone] at ht
  exact hother (congrArg InstanceKey.template ((h t ht).2 i hi hname))

/-! ### Everything that is reached is visited -/

namespace Workshop

variable {base : Library} {ceiling : Ceiling} {excluded : List String} {w w' : Workshop} {owner : Entity}
  {m : Ty.Mention} {depth firstSeq : Nat} {dropUnderscores : Bool} {found : Option Entity}

theorem Grown.follow (hw : Grown base firstSeq dropUnderscores w)
    (hdrop : ceiling.dropUnderscores = dropUnderscores)
    (h : w.follow ceiling excluded owner m depth = .ok (found, w')) :
    Grown base firstSeq dropUnderscores w' := by
  rcases follow_workshop h with rfl | ⟨t, _, _, _, ht, hgeneric, hmade⟩
  · exact hw
  · exact (hw.instantiate (hw.mem_base_of_isGeneric ht hgeneric) hgeneric hdrop hmade).1

end Workshop

namespace Walk

variable {base : Library} {ceiling : Ceiling} {included excluded : List String} {w w' : Walk}
  {owner e : Entity} {m : Ty.Mention} {ms : List Ty.Mention} {depth firstSeq : Nat} {dropUnderscores : Bool}

/-- Each path of an entity was followed at some time. -/
def Visited (base : Library) (firstSeq : Nat) (ceiling : Ceiling) (excluded : List String) (e : Entity) : Prop :=
  ∀ m ∈ e.mentions, ∃ shop depth found, Workshop.Grown base firstSeq ceiling.dropUnderscores shop ∧
    shop.follow ceiling excluded e m depth = .ok found

/-- A visit follows the paths of its owner one after the other, each from a workshop that has only grown. -/
theorem followed_of_visit (hw : Workshop.Grown base firstSeq ceiling.dropUnderscores w.workshop)
    (h : visit ceiling excluded owner depth ms w = .ok w') :
    ∀ m ∈ ms, ∃ shop depth found, Workshop.Grown base firstSeq ceiling.dropUnderscores shop ∧
      shop.follow ceiling excluded owner m depth = .ok found := by
  induction ms generalizing w with
  | nil => simp
  | cons m rest ih =>
    simp only [visit] at h
    split at h
    · cases h
    · next found hfound =>
      have hgrown : Workshop.Grown base firstSeq ceiling.dropUnderscores (w.reach depth found).workshop := by
        rw [workshop_reach_eq found hfound]
        exact hw.follow rfl hfound
      intro m' hm'
      rcases List.mem_cons.1 hm' with rfl | hm'
      · exact ⟨w.workshop, depth, found, hw, hfound⟩
      · exact ih hgrown h m' hm'

theorem mem_entities_of_visit (h : visit ceiling excluded owner depth ms w = .ok w')
    (he : e ∈ w.workshop.library.entities) : e ∈ w'.workshop.library.entities := by
  refine visit_induction (P := fun _ w => e ∈ w.workshop.library.entities) ?_ he h
  intro m left w found he hfound
  rw [workshop_reach_eq found hfound]
  exact Workshop.mem_entities_of_follow hfound he

theorem mem_entities_of_run (h : run ceiling excluded w = .ok w') (he : e ∈ w.workshop.library.entities) :
    e ∈ w'.workshop.library.entities := by
  refine (run_induction (P := fun w => e ∈ w.workshop.library.entities) ?_ he h).1
  rintro w w' he ⟨x, depth, rest, _, hv⟩
  exact mem_entities_of_visit hv he

/-- What a visit reaches that was not reached before waits in the queue. -/
theorem reached_of_visit {name : String} (h : visit ceiling excluded owner depth ms w = .ok w')
    (hname : name ∈ w'.reached) : name ∈ w.reached ∨ ∃ x ∈ w'.queue, x.1.name = name := by
  induction ms generalizing w with
  | nil =>
    simp only [visit, Except.ok.injEq] at h
    rw [← h] at hname
    exact Or.inl hname
  | cons m rest ih =>
    simp only [visit] at h
    split at h
    · cases h
    · next found hfound =>
      rcases ih h with hreached | hqueue
      · obtain ⟨_ | e, shop⟩ := found
        · exact Or.inl hreached
        · rcases mem_reached_reach.1 hreached with rfl | hreached
          · by_cases hold : e.name ∈ w.reached
            · exact Or.inl hold
            · have hqueue : ∃ d, (e, d) ∈ (w.reach depth (some e, shop)).queue := exists_mem_queue_reach hold
              obtain ⟨d, hd⟩ := hqueue
              obtain ⟨pushed, hpushed, _⟩ := extends_visit h
              exact Or.inr ⟨_, hpushed ▸ List.mem_append_left _ hd, rfl⟩
          · exact Or.inl hreached
      · exact Or.inr hqueue

/-- When a walk ends, each entity that it reached has been visited, unless that was before it began. -/
theorem visited_of_run (hw : Inv base firstSeq ceiling.dropUnderscores included excluded owner [] w)
    (h : run ceiling excluded w = .ok w') (he : e ∈ w'.workshop.library.entities)
    (hreached : e.name ∈ w'.reached) :
    (e.name ∈ w.reached ∧ ∀ x ∈ w.queue, x.1.name ≠ e.name) ∨ Visited base firstSeq ceiling excluded e := by
  induction w using Walk.run.induct ceiling excluded generalizing owner with
  | case1 w hq =>
    rw [run_of_nil hq] at h
    cases h
    exact Or.inl ⟨hreached, by simp [hq]⟩
  | case2 w x depth rest hq failure hv =>
    rw [run_of_failure hq hv] at h
    cases h
  | case3 w x depth rest hq after hv _ ih =>
    have hvisiting := hw.visiting hq
    have hafter := (hvisiting.visit rfl hv).inv
    have hrun : run ceiling excluded after = .ok w' := by rwa [run_of_visit hq hv] at h
    rcases ih hafter hrun with ⟨hold, hidle⟩ | hvisited
    · obtain ⟨⟨_, hend⟩, _⟩ := hafter.run rfl hrun
      by_cases hname : x.name = e.name
      · have hxmem := mem_entities_of_run hrun (mem_entities_of_visit hv hvisiting.present)
        obtain rfl := Library.eq_of_name_eq hend.grown.table hxmem he hname
        exact Or.inr (followed_of_visit hvisiting.inv.grown hv)
      · rcases reached_of_visit hv hold with hreached | ⟨y, hy, hyname⟩
        · obtain ⟨pushed, hpushed, _⟩ := extends_visit hv
          refine Or.inl ⟨hreached, fun y hy => ?_⟩
          rw [hq] at hy
          rcases List.mem_cons.1 hy with rfl | hy
          · exact hname
          · exact hidle y (hpushed ▸ List.mem_append_left _ hy)
        · exact absurd hyname (hidle y hy)
    · exact Or.inr hvisited

end Walk

/-! ### What instances capture -/

namespace Workshop

variable {ceiling : Ceiling} {included excluded : List String} {w w' : Workshop} {x : Entity} {m : Ty.Mention}

/-- The entities as the walk saw them: what was declared, and the instances as they were made. -/
def seen (w w' : Workshop) : List Entity := w.library.entities ++ w'.library.instances.map (·.made)

/-- A walk that has ended with what specialization keeps of it. -/
structure Ended (ceiling : Ceiling) (included excluded : List String) (w w' : Workshop) (walk : Walk)
    (owner : Entity) : Prop where
  inv : Walk.Inv w.library w.nextSeq ceiling.dropUnderscores included excluded owner [] walk
  idle : walk.queue = []
  library : w'.library = walk.workshop.library.keepReached walk.reached excluded
  visited : ∀ e ∈ walk.workshop.library.entities, e.name ∈ walk.reached →
    Walk.Visited w.library w.nextSeq ceiling excluded e

theorem exists_ended_of_run {walk : Walk} (htable : w.library.IsTable) (hfresh : w.library.instances = [])
    (hrun : Walk.run ceiling excluded (w.start included excluded) = .ok walk)
    (hlib : w'.library = walk.workshop.library.keepReached walk.reached excluded) :
    ∃ owner, Ended ceiling included excluded w w' walk owner := by
  have hstart : Walk.Inv w.library w.nextSeq ceiling.dropUnderscores included excluded
      (Entity.bare "" 0 .opaqueType) [] (w.start included excluded) := inv_start_start htable hfresh
  obtain ⟨⟨owner, hinv⟩, hq⟩ := hstart.run rfl hrun
  refine ⟨owner, hinv, hq, hlib, fun e he hreached => ?_⟩
  rcases Walk.visited_of_run hstart hrun he hreached with ⟨hroot, hidle⟩ | hvisited
  · -- What is reached at the start waits in the queue.
    obtain ⟨r, hr, hname⟩ := List.mem_map.1 hroot
    exact absurd hname (hidle (r, 0) (List.mem_map.2 ⟨r, hr, rfl⟩))
  · exact hvisited

theorem exists_ended (htable : w.library.IsTable) (hfresh : w.library.instances = [])
    (h : w.specialize ceiling included excluded = (w', .ok ())) :
    ∃ walk owner, Ended ceiling included excluded w w' walk owner := by
  obtain ⟨walk, hrun, hlib⟩ := specialize_run h
  exact ⟨walk, exists_ended_of_run htable hfresh hrun hlib⟩

namespace Ended

variable {walk : Walk} {owner : Entity} (hw : Ended ceiling included excluded w w' walk owner)
include hw

theorem recorded : w'.library.recorded = walk.workshop.library.recorded := by
  rw [hw.library]
  exact Library.recorded_keepReached

theorem instanceName?_eq : w'.library.instanceName? = walk.workshop.library.instanceName? :=
  Library.instanceName?_eq_of_recorded_eq hw.recorded

theorem seen_eq : seen w w' = walk.workshop.library.entities := by
  rw [seen, hw.library, Library.made_keepReached, hw.inv.grown.entities]

theorem entities_eq : w'.library.entities =
    (Library.survivors walk.reached excluded (seen w w')).map
      (Entity.mapTypes (Ty.replacePaths w'.library.instanceName?)) := by
  rw [hw.instanceName?_eq, hw.seen_eq, hw.library, Library.entities_keepReached]

/-- An entity that the walk saw survives if its name is kept. -/
theorem mem_survivors_of_mem_names (hx : x ∈ seen w w') (hname : x.name ∈ w'.library.names) :
    x ∈ Library.survivors walk.reached excluded (seen w w') := by
  rw [Library.names, hw.entities_eq, List.map_map] at hname
  obtain ⟨y, hy, hyname⟩ := List.mem_map.1 hname
  have hyseen := (Library.mem_survivors.1 hy).1
  rw [hw.seen_eq] at hx hyseen
  rwa [← Library.eq_of_name_eq hw.inv.grown.table hyseen hx hyname]

/-- The instances that are left are those of the walk. -/
theorem exists_instance {i : Instance} (hi : i ∈ w'.library.instances) :
    ∃ j ∈ walk.workshop.library.instances, j.key = i.key ∧ j.made = i.made :=
  Library.exists_instance_of_recorded_eq hw.recorded hi

/-- The template of an instance was declared. -/
theorem template_mem_names {i : Instance} (hi : i ∈ w'.library.instances) :
    i.key.template ∈ w.library.names := by
  obtain ⟨j, hj, hkey, _⟩ := hw.exists_instance hi
  obtain ⟨_, t, ht, hname, _⟩ := hw.inv.isTemplate_of_instance hj
  rw [← hkey, ← hname]
  exact List.mem_map_of_mem ht

/-- The name of an instance was not declared. -/
theorem name_not_mem_names {i : Instance} (hi : i ∈ w'.library.instances) : i.name ∉ w.library.names := by
  obtain ⟨j, hj, _, hmade⟩ := hw.exists_instance hi
  intro hname
  obtain ⟨e, he, hsame⟩ := List.mem_map.1 hname
  have hbase := hw.inv.grown.mem_entities.2 (Or.inl he)
  have hinstance : j.made ∈ walk.workshop.library.entities :=
    hw.inv.grown.mem_entities.2 (Or.inr ⟨j, hj, rfl⟩)
  have heq : e = j.made := by
    refine Library.eq_of_name_eq hw.inv.grown.table hbase hinstance ?_
    rw [hsame, hmade, Instance.name]
  exact hw.inv.grown.not_mem_base_of_instance hj (heq ▸ he)

/-- An instance that is not left out is in the table. -/
theorem name_mem_names {i : Instance} (hi : i ∈ w'.library.instances) (hkept : i.name ∉ excluded) :
    i.name ∈ w'.library.names := by
  obtain ⟨j, hj, _, hmade⟩ := hw.exists_instance hi
  have hname : i.name = j.name := by rw [Instance.name, Instance.name, hmade]
  have hreached : i.made.name ∈ walk.reached := by
    have h := hw.inv.made j hj
    rwa [← hname] at h
  have hseen : i.made ∈ seen w w' := List.mem_append_right _ (List.mem_map_of_mem hi)
  rw [Library.names, hw.entities_eq, List.map_map]
  exact List.mem_map.2 ⟨i.made, Library.mem_survivors.2 ⟨hseen, hreached, hkept⟩, rfl⟩

theorem not_mem_excluded {name : String} (hname : name ∈ w'.library.names) : name ∉ excluded := by
  rw [Library.names, hw.entities_eq, List.map_map] at hname
  obtain ⟨y, hy, rfl⟩ := List.mem_map.1 hname
  exact (Library.mem_survivors.1 hy).2.2

/-- A reference of what survives that names a declared entity of the table has no arguments. -/
theorem args_eq_nil (hx : x ∈ Library.survivors walk.reached excluded (seen w w')) (hm : m ∈ x.mentions)
    {e : Entity} (he : e ∈ w.library.entities) (hname : e.name = m.name) (hkept : m.name ∉ excluded)
    (hconcrete : e.isGeneric = false) : m.args = [] := by
  obtain ⟨hmem, hreached, _⟩ := Library.mem_survivors.1 hx
  rw [hw.seen_eq] at hmem
  obtain ⟨shop, depth, found, hgrown, hfollow⟩ := hw.visited x hmem hreached m hm
  have hget := hgrown.get?_of_mem_base he
  rw [hname] at hget
  rcases follow_ok hfollow with ⟨_, _, hnone | hexcluded⟩ | ⟨_, _, _, _, hargs, _, _⟩ |
    ⟨t, _, ht, _, hgeneric, _, _, _⟩
  · rw [hget] at hnone
    cases hnone
  · exact absurd hexcluded hkept
  · exact hargs
  · obtain rfl : e = t := Option.some.inj (hget.symm.trans ht)
    rw [hconcrete] at hgeneric
    cases hgeneric

/-- Two instances of one name have one key. -/
theorem key_eq_of_name_eq {i j : Instance} (hi : i ∈ w'.library.instances) (hj : j ∈ w'.library.instances)
    (hname : i.name = j.name) : i.key = j.key := by
  obtain ⟨i', hi', hikey, himade⟩ := hw.exists_instance hi
  obtain ⟨j', hj', hjkey, hjmade⟩ := hw.exists_instance hj
  have hsame : i'.name = j'.name := by
    rw [Instance.name, Instance.name, himade, hjmade]
    exact hname
  have heq : i' = j' := List.inj_on_of_nodup_map hw.inv.grown.nodup_names hi' hj' hsame
  rw [← hikey, ← hjkey, heq]

/-- An instance captures what spells its name, for the template that it would have to name was declared. -/
theorem not_isHygienic (htable : w'.library.IsTable) {i : Instance} (hi : i ∈ w'.library.instances)
    (hkept : i.name ∉ excluded) (hspelled : m.name = i.name) : ¬ w'.library.IsHygienic m := by
  have hundeclared : m.name ∉ w.library.names := hspelled ▸ hw.name_not_mem_names hi
  have hnone : w'.library.instanceName? m.name m.args = none := by
    cases hn : w'.library.instanceName? m.name m.args with
    | none => rfl
    | some n =>
      obtain ⟨j, hj, hkey, _⟩ := Library.key_of_instanceName? hn
      have hdeclared := hw.template_mem_names hj
      rw [hkey] at hdeclared
      exact absurd hdeclared hundeclared
  obtain ⟨t, ht, htname⟩ := List.mem_map.1 (hw.name_mem_names hi hkept)
  have hget : w'.library.get? m.name = some t := by
    rw [hspelled, ← htname]
    exact Library.get?_of_mem htable ht
  refine Library.not_isHygienic hi hget htname.symm hnone fun htemplate => ?_
  exact hundeclared (htemplate ▸ hw.template_mem_names hi)

/-- A reference that spells the name of no instance leads to the instance that it selected or to what was
declared under its name. -/
theorem isHygienic (hconcrete : ∀ e ∈ w'.library.entities, e.isGeneric = false)
    (hx : x ∈ Library.survivors walk.reached excluded (seen w w')) (hm : m ∈ x.mentions)
    (hfree : ∀ i ∈ w'.library.instances, i.name ∉ excluded → m.name ≠ i.name) :
    w'.library.IsHygienic m := by
  intro t ht
  have htmem := Library.mem_of_get? ht
  have htname := Library.name_of_get? ht
  have hkept : t.name ∉ excluded := hw.not_mem_excluded (List.mem_map_of_mem htmem)
  cases hn : w'.library.instanceName? m.name m.args with
  | some n =>
    obtain ⟨j, hj, hkey, hjname⟩ := Library.key_of_instanceName? hn
    have hargs : m.args ≠ [] := by
      obtain ⟨j', hj', hkey', _⟩ := hw.exists_instance hj
      have hne := hw.inv.grown.args_ne_nil hj'
      rwa [hkey', hkey] at hne
    rw [Ty.Mention.renamed_of_some hargs hn] at htname ⊢
    refine ⟨rfl, fun i hi hiname => ?_⟩
    rw [hw.key_eq_of_name_eq hi hj (by rw [hiname, htname, hjname]), hkey]
  | none =>
    rw [Ty.Mention.name_renamed_of_none hn] at htname
    have hother : ∀ i ∈ w'.library.instances, i.name ≠ t.name := by
      rintro i hi hiname
      exact hfree i hi (hiname ▸ hkept) (htname ▸ hiname.symm)
    have hargs : m.args = [] := by
      have hentity := htmem
      rw [hw.entities_eq] at hentity
      obtain ⟨y, hy, rfl⟩ := List.mem_map.1 hentity
      rcases List.mem_append.1 (Library.mem_survivors.1 hy).1 with hbase | hinstance
      · have hy := hconcrete _ htmem
        exact hw.args_eq_nil hx hm hbase htname (htname ▸ hkept) hy
      · obtain ⟨i, hi, rfl⟩ := List.mem_map.1 hinstance
        exact absurd rfl (hother i hi)
    rw [Ty.Mention.renamed_of_nil hargs]
    exact ⟨hargs, fun i hi hiname => absurd hiname (hother i hi)⟩

end Ended

/-- After specialization a reference of what is kept is led astray just when it spells the name of an instance
that is kept, which is a name that nobody declared. -/
theorem specialize_hygienic_iff (htable : w.library.IsTable) (hfresh : w.library.instances = [])
    (h : w.specialize ceiling included excluded = (w', .ok ())) :
    (∀ e ∈ w'.library.entities, ∃ x ∈ seen w w', x.name = e.name ∧
      e = x.mapTypes (Ty.replacePaths w'.library.instanceName?) ∧
      e.mentions = x.mentions.map (Ty.Mention.renamed w'.library.instanceName?)) ∧
    (∀ i ∈ w'.library.instances, i.name ∉ w.library.names) ∧
    ∀ x ∈ seen w w', x.name ∈ w'.library.names → ∀ m ∈ x.mentions,
      (w'.library.IsHygienic m ↔ ∀ i ∈ w'.library.instances, i.name ∉ excluded → m.name ≠ i.name) := by
  obtain ⟨walk, owner, hw⟩ := exists_ended htable hfresh h
  refine ⟨fun e he => ?_, fun i hi => hw.name_not_mem_names hi, fun x hx hname m hm => ⟨?_, fun hfree => ?_⟩⟩
  · rw [hw.entities_eq] at he
    obtain ⟨x, hx, rfl⟩ := List.mem_map.1 he
    exact ⟨x, (Library.mem_survivors.1 hx).1, rfl, rfl, Entity.mentions_replacePaths _ x⟩
  · intro hhygienic i hi hkept hspelled
    exact hw.not_isHygienic (isTable_specialize htable h) hi hkept hspelled hhygienic
  · exact hw.isHygienic (not_isGeneric_of_specialize htable hfresh h) (hw.mem_survivors_of_mem_names hx hname)
      hm hfree

/-- A template with a struct that uses it, and in front of them a struct that spells the name of the instance,
once with arguments. -/
def drawer : Workshop where
  library := {
    entities := [
      .bare "Drawer" 0 (.struct [.bare "lost" (.path "Tray_bool" [.primitive .u8]),
        .bare "plain" (.pointer (.path "Tray_bool" []) false true)]),
      { Entity.bare "Tray" 1 (.struct [.bare "item" (.path "T" [])]) with generics := ["T"] },
      .bare "Desk" 2 (.struct [.bare "tray" (.path "Tray" [.primitive .bool])])]
    instances := []
    external := [] }
  nextSeq := 1
  log := []

def drawerLeft : Workshop := (drawer.specialize ⟨4, false⟩ [] []).1

theorem specialize_drawer : drawer.specialize ⟨4, false⟩ [] [] = (drawerLeft, .ok ()) := by
  have hok : (drawer.specialize ⟨4, false⟩ [] []).2 = .ok () := by cbv
  exact Prod.ext rfl hok

theorem names_drawerLeft : drawerLeft.library.names = ["Drawer", "Desk", "Tray_bool"] := by cbv

theorem isTable_drawer : drawer.library.IsTable := by
  unfold Library.IsTable
  decide

theorem specialize_hygienic_iff_drawer : drawer.library.IsTable ∧ drawer.library.instances = [] ∧
    drawer.specialize ⟨4, false⟩ [] [] = (drawerLeft, .ok ()) ∧
    drawerLeft.library.names = ["Drawer", "Desk", "Tray_bool"] ∧
    ∀ x ∈ seen drawer drawerLeft, x.name ∈ drawerLeft.library.names → ∀ m ∈ x.mentions,
      (drawerLeft.library.IsHygienic m ↔
        ∀ i ∈ drawerLeft.library.instances, i.name ∉ [] → m.name ≠ i.name) :=
  ⟨isTable_drawer, rfl, specialize_drawer, names_drawerLeft,
    (specialize_hygienic_iff isTable_drawer rfl specialize_drawer).2.2⟩

/-- Both references of the drawer lead to an instance that neither of them selected, and one still has its
arguments. -/
theorem specialize_drawer_captures : drawer.library.IsTable ∧ drawer.library.instances = [] ∧
    drawer.specialize ⟨4, false⟩ [] [] = (drawerLeft, .ok ()) ∧
    ((drawerLeft.library.get? "Drawer").map Entity.mentions =
      some [⟨"Tray_bool", [.primitive .u8], false⟩, ⟨"Tray_bool", [], true⟩]) ∧
    ((drawerLeft.library.get? "Tray_bool").bind (·.instanceOf) = some ⟨"Tray", [.primitive .bool]⟩) ∧
    ∃ x ∈ seen drawer drawerLeft, x.name ∈ drawerLeft.library.names ∧
      ∀ m ∈ x.mentions, ¬ drawerLeft.library.IsHygienic m := by
  have hinstances : drawerLeft.library.instances.map (fun i => (i.name, i.key.template)) =
      [("Tray_bool", "Tray")] := by cbv
  have hfound : (drawerLeft.library.get? "Tray_bool").map (·.name) = some "Tray_bool" := by cbv
  have hnone : drawerLeft.library.instanceName? "Tray_bool" [.primitive .u8] = none ∧
      drawerLeft.library.instanceName? "Tray_bool" [] = none := ⟨by cbv, by cbv⟩
  have hmem : ("Tray_bool", "Tray") ∈ drawerLeft.library.instances.map fun i => (i.name, i.key.template) := by
    rw [hinstances]
    exact List.mem_singleton.2 rfl
  obtain ⟨i, hi, hpair⟩ := List.mem_map.1 hmem
  obtain ⟨hiname, hitemplate⟩ := Prod.mk.inj hpair
  obtain ⟨t, ht, htname⟩ := Option.map_eq_some_iff.1 hfound
  have hname : i.name = t.name := hiname.trans htname.symm
  have hother : i.key.template ≠ "Tray_bool" := by
    rw [hitemplate]
    decide
  refine ⟨isTable_drawer, rfl, specialize_drawer, by cbv, by cbv, _, List.mem_cons_self, ?_, ?_⟩
  · rw [names_drawerLeft]
    exact List.mem_cons_self
  intro m hm
  rcases List.mem_cons.1 hm with rfl | hm
  · exact Library.not_isHygienic hi ht hname hnone.1 hother
  · obtain rfl := List.mem_singleton.1 hm
    exact Library.not_isHygienic hi ht hname hnone.2 hother

end Workshop

end CrateHeader
