import CrateHeader.Proofs.Repeating

/-!
# Specializing twice

What specialization leaves has no templates, so the next run changes nothing just when it is settled. After a
first run it is settled if no instance has a name that is left out or that a type spells somewhere. An instance
that is left out is walked by the run that makes it but not by the next one, so what only that instance leads
to is kept once and then dropped.
-/

namespace CrateHeader

/-! ### No template is left -/

theorem Library.name_entityOf (lib : Library) (i : Instance) :
    (lib.entityOf i).name = (i.withdrawn.getD i.made).name := by
  unfold entityOf
  cases i.withdrawn with
  | some e => rfl
  | none =>
    cases hget : lib.get? i.name with
    | none => rfl
    | some e => exact Library.name_of_get? hget

theorem Library.name_ne_of_get?_eq_none {lib : Library} {name : String} {e : Entity}
    (h : lib.get? name = none) (he : e ∈ lib.entities) : e.name ≠ name :=
  fun hname => get?_eq_none_iff.1 h (hname ▸ List.mem_map_of_mem he)

/-- No template has the name of an instance that was made. -/
def Library.KeepsApart (lib : Library) : Prop :=
  ∀ i ∈ lib.instances, ∀ t ∈ lib.entities, t.name = (lib.entityOf i).name → t.isGeneric = false

namespace Walk

variable {ceiling : Ceiling} {excluded : List String} {w w' : Walk} {owner e : Entity} {m : Ty.Mention}
  {left : List Ty.Mention} {depth : Nat} {shop : Workshop} {found : Option Entity × Workshop}

/-- A walk that has reached no template. -/
structure IsConcrete (w : Walk) : Prop where
  table : w.workshop.library.IsTable
  apart : w.workshop.library.KeepsApart
  reached : ∀ e ∈ w.workshop.library.entities, e.name ∈ w.reached → e.isGeneric = false

/-- Under the name of an entity that a walk arrives at, there is no template. -/
theorem IsConcrete.arrive (hw : w.IsConcrete) (htable : shop.library.IsTable) (hapart : shop.library.KeepsApart)
    (hold : ∀ x ∈ shop.library.entities, x ∈ w.workshop.library.entities ∨ x.isGeneric = false)
    (he : ∀ x ∈ shop.library.entities, x.name = e.name → x.isGeneric = false) :
    (w.reach depth (some e, shop)).IsConcrete where
  table := by rwa [workshop_reach]
  apart := by rwa [workshop_reach]
  reached := by
    intro x hx hreached
    rw [workshop_reach] at hx
    rcases mem_reached_reach.1 hreached with hname | hreached
    · exact he x hx hname
    · rcases hold x hx with hx | hconcrete
      · exact hw.reached x hx hreached
      · exact hconcrete

theorem keepsApart_list {key : InstanceKey} (hw : shop.library.KeepsApart) (hfree : shop.library.get? e.name = none)
    (hconcrete : e.isGeneric = false) : (shop.list e key).library.KeepsApart := by
  intro i hi t ht hname
  rcases List.mem_append.1 ht with ht | ht
  · rw [Library.name_entityOf] at hname
    rcases List.mem_append.1 hi with hi | hi
    · exact hw i hi t ht (hname.trans (shop.library.name_entityOf i).symm)
    · obtain rfl := List.mem_singleton.1 hi
      exact absurd hname (Library.name_ne_of_get?_eq_none hfree ht)
  · exact List.mem_singleton.1 ht ▸ hconcrete

theorem IsConcrete.step (hw : w.IsConcrete) (h : w.workshop.follow ceiling excluded owner m depth = .ok found) :
    (w.reach depth found).IsConcrete := by
  obtain ⟨found, shop⟩ := found
  rcases Workshop.follow_ok h with ⟨rfl, rfl, _⟩ | ⟨t, ht, _, hconcrete, _, rfl, rfl⟩ |
    ⟨t, e, _, _, _, _, rfl, hmade⟩
  · exact hw
  · refine hw.arrive hw.table hw.apart (fun _ => Or.inl) fun x hx hname => ?_
    rwa [Library.eq_of_name_eq hw.table hx (Library.mem_of_get? ht) hname]
  · rcases Workshop.instantiate_ok hmade with ⟨i, hi, rfl, rfl⟩ | ⟨_, _, _, _, hfree, rfl, rfl⟩
    · exact hw.arrive hw.table hw.apart (fun _ => Or.inl) (hw.apart i (List.mem_of_find?_eq_some hi))
    · have htable := Workshop.isTable_of_follow hw.table h
      refine hw.arrive htable (keepsApart_list hw.apart hfree rfl) (fun x hx => ?_) fun x hx hname => ?_
      · rcases List.mem_append.1 hx with hx | hx
        · exact Or.inl hx
        · exact Or.inr (List.mem_singleton.1 hx ▸ rfl)
      · rcases List.mem_append.1 hx with hx | hx
        · exact absurd hname (Library.name_ne_of_get?_eq_none hfree hx)
        · exact List.mem_singleton.1 hx ▸ rfl

theorem IsConcrete.run (hw : w.IsConcrete) (h : run ceiling excluded w = .ok w') : w'.IsConcrete := by
  refine (run_induction (P := IsConcrete) ?_ hw h).1
  rintro w w' hw ⟨e, depth, rest, _, hv⟩
  exact visit_induction (P := fun _ w => w.IsConcrete) (fun _ _ _ _ hw => hw.step)
    (show IsConcrete { w with queue := rest } from ⟨hw.table, hw.apart, hw.reached⟩) hv

end Walk

namespace Workshop

variable {ceiling : Ceiling} {included excluded : List String} {w w' : Workshop}

theorem isConcrete_start (htable : w.library.IsTable) (hapart : w.library.KeepsApart) :
    (w.start included excluded).IsConcrete where
  table := htable
  apart := hapart
  reached := by
    intro e he hreached
    obtain ⟨r, hr, hname⟩ := List.mem_map.1 hreached
    obtain ⟨hmem, hroot⟩ := List.mem_filter.1 hr
    obtain rfl := Library.eq_of_name_eq htable hmem he hname
    have hroot : r.name ∉ excluded ∧ r.isGeneric = false ∧ (r.exported = true ∨ r.name ∈ included) := by
      simpa [and_assoc] using hroot
    exact hroot.2.1

theorem not_isGeneric_left (htable : w.library.IsTable) (hapart : w.library.KeepsApart)
    (h : w.specialize ceiling included excluded = (w', .ok ())) :
    ∀ e ∈ w'.library.entities, e.isGeneric = false := by
  obtain ⟨walk, hrun, hlib⟩ := specialize_run h
  have hstart : (w.start included excluded).IsConcrete := isConcrete_start htable hapart
  have hwalk := hstart.run hrun
  intro e he
  rw [hlib, Library.entities_keepReached] at he
  obtain ⟨x, hx, rfl⟩ := List.mem_map.1 he
  obtain ⟨hmem, hreached, _⟩ := Library.mem_survivors.1 hx
  exact hwalk.reached x hmem hreached

/-! ### What a first run leaves -/

/-- Whatever was made before, nothing that is left out stays in the table, and all of it is left to included
headers. -/
theorem leftOut_specialize (h : w.specialize ceiling included excluded = (w', .ok ())) :
    (∀ n ∈ w'.library.names, n ∉ excluded) ∧ ∀ n ∈ excluded, n ∈ w'.library.external := by
  obtain ⟨walk, _, hlib⟩ := specialize_run h
  rw [hlib]
  refine ⟨fun n hn => ?_, fun n hn => Library.mem_external_keepReached.2 (Or.inr hn)⟩
  rw [Library.names, Library.entities_keepReached, List.map_map] at hn
  obtain ⟨e, he, rfl⟩ := List.mem_map.1 hn
  exact (Library.mem_survivors.1 he).2.2

end Workshop

section

variable {lib : Library} {included excluded : List String} {s : Member} {t : Entity} {args : List Ty} {n : String}
  {dropUnderscores : Bool} {seq : Nat}

/-- Every name in a member of the surface is one that was declared there. -/
theorem OnSurface.pathNames (hs : OnSurface lib included excluded s)
    (hn : n ∈ (s.entity dropUnderscores seq).pathNames) : ∃ e ∈ lib.entities, n ∈ e.pathNames := by
  induction hs with
  | @root e he _ _ _ => exact ⟨e, he, hn⟩
  | @concrete _ _ t _ _ _ ht _ _ => exact ⟨t, Library.mem_of_get? ht, hn⟩
  | @generic s m t _ hm _ ht _ ih =>
    by_cases hargs : n ∈ Ty.pathNamesAll m.args
    · have hm : m ∈ (s.entity dropUnderscores seq).mentions := by rwa [Member.mentions_entity]
      exact ih (Entity.pathNames_of_mentions hm (List.mem_cons_of_mem _ hargs))
    · obtain ⟨_, hmem, hn⟩ := List.mem_flatMap.1 hn
      rw [show (Member.entity dropUnderscores seq (.made t m.args)).body.types = _ from Body.types_mapTypes ..] at hmem
      obtain ⟨ty, hty, rfl⟩ := List.mem_map.1 hmem
      exact ⟨t, Library.mem_of_get? ht, List.mem_flatMap.2 ⟨ty, hty, Ty.pathNames_substitute hargs ty hn⟩⟩

/-- So is every name in the arguments of an instance. -/
theorem OnSurface.pathNames_args (hs : OnSurface lib included excluded (.made t args))
    (hn : n ∈ Ty.pathNamesAll args) : ∃ e ∈ lib.entities, n ∈ e.pathNames := by
  cases hs with
  | @generic s m _ hs hm _ _ _ =>
    have hm : m ∈ (s.entity false 0).mentions := by rwa [Member.mentions_entity]
    exact hs.pathNames (Entity.pathNames_of_mentions hm (List.mem_cons_of_mem _ hn))

end

namespace Workshop.Ended

variable {ceiling : Ceiling} {included excluded : List String} {w w' : Workshop} {walk : Walk} {owner : Entity}
  {s : Member} {x y t : Entity} {m : Ty.Mention} (hw : Ended ceiling included excluded w w' walk owner)
include hw

/-- A member of the surface that is not left out survives. -/
theorem exists_survivor (hs : OnSurface w.library included excluded s)
    (hkept : s.name ceiling.dropUnderscores ∉ excluded) :
    ∃ seq, s.entity ceiling.dropUnderscores seq ∈ Library.survivors walk.reached excluded (seen w w') := by
  obtain ⟨e, he, hreached, seq, rfl⟩ := hw.inv.reached_of_onSurface hw.idle hs
  rw [← hw.seen_eq] at he
  rw [← Member.name_entity _ seq] at hkept
  exact ⟨seq, Library.mem_survivors.2 ⟨he, hreached, hkept⟩⟩

theorem entities_left : w'.library.entities =
    (Library.survivors walk.reached excluded (seen w w')).map w'.library.renamed := hw.entities_eq

theorem renamed_mem (hx : x ∈ Library.survivors walk.reached excluded (seen w w')) :
    w'.library.renamed x ∈ w'.library.entities := by
  rw [hw.entities_left]
  exact List.mem_map_of_mem hx

/-- What a reference of a survivor has become leads from one that is on the surface to another. -/
theorem onSurface_renamed (htable : w'.library.IsTable)
    (hx : OnSurface w'.library included excluded (.declared (w'.library.renamed x))) (hm : m ∈ x.mentions)
    (hy : y ∈ Library.survivors walk.reached excluded (seen w w'))
    (hname : (m.renamed w'.library.instanceName?).name = y.name) (hconcrete : y.isGeneric = false) :
    OnSurface w'.library included excluded (.declared (w'.library.renamed y)) := by
  have hmention : m.renamed w'.library.instanceName? ∈ (w'.library.renamed x).mentions := by
    rw [Library.renamed, Entity.mentions_replacePaths]
    exact List.mem_map_of_mem hm
  have hget : w'.library.get? y.name = some (w'.library.renamed y) :=
    Library.get?_of_mem htable (hw.renamed_mem hy)
  have hkept : y.name ∉ excluded := (Library.mem_survivors.1 hy).2.2
  exact .concrete hx hmention (hname ▸ hkept) (hname ▸ hget) hconcrete

/-- A reference of a survivor to a template has become the name of the instance that it selects. -/
theorem exists_selected (hx : x ∈ Library.survivors walk.reached excluded (seen w w')) (hm : m ∈ x.mentions)
    (hkept : m.name ∉ excluded) (ht : w.library.get? m.name = some t) (hgeneric : t.isGeneric = true) :
    ∃ i ∈ w'.library.instances, i.name = (Member.made t m.args).name ceiling.dropUnderscores ∧
      (m.renamed w'.library.instanceName?).name = i.name := by
  obtain ⟨hxseen, hreached, _⟩ := Library.mem_survivors.1 hx
  have htmem := Library.mem_of_get? ht
  have htname := Library.name_of_get? ht
  obtain ⟨hargs, n, hn⟩ :=
    hw.inv.selects hw.idle (hw.seen_eq ▸ hxseen) hreached hm ⟨hkept, t, htmem, htname, hgeneric⟩
  obtain ⟨j, hj, hkey, hjname⟩ := Library.key_of_instanceName? hn
  have hcopy := hw.inv.grown.made_eq hj htmem (htname.symm ▸ hkey)
  obtain ⟨i, hi, _, hmade⟩ := Library.exists_instance_of_recorded_eq hw.recorded.symm hj
  have hname : i.name = j.name := congrArg Entity.name hmade
  rw [← hw.instanceName?_eq] at hn
  refine ⟨i, hi, hname.trans (congrArg Entity.name hcopy), ?_⟩
  rw [Ty.Mention.renamed_of_some hargs hn]
  exact hjname.symm.trans hname.symm

/-- If no instance is left out, what is on the surface stays on it. -/
theorem onSurface_left (htable : w'.library.IsTable) (hnames : ∀ i ∈ w'.library.instances, i.name ∉ excluded)
    (hs : OnSurface w.library included excluded s) :
    ∃ seq, s.entity ceiling.dropUnderscores seq ∈ Library.survivors walk.reached excluded (seen w w') ∧
      OnSurface w'.library included excluded
        (.declared (w'.library.renamed (s.entity ceiling.dropUnderscores seq))) := by
  induction hs with
  | @root e he hconcrete hkept hwanted =>
    obtain ⟨seq, hsurvives⟩ := hw.exists_survivor (.root he hconcrete hkept hwanted) hkept
    exact ⟨seq, hsurvives, .root (hw.renamed_mem hsurvives) hconcrete hkept hwanted⟩
  | @concrete s m t hs hm hkept ht hconcrete ih =>
    obtain ⟨_, hx, hxs⟩ := ih
    have hname := Library.name_of_get? ht
    have htkept : t.name ∉ excluded := hname ▸ hkept
    obtain ⟨seq, hsurvives⟩ := hw.exists_survivor (.concrete hs hm hkept ht hconcrete) htkept
    rw [← Member.mentions_entity] at hm
    have hargs : m.args = [] := hw.args_eq_nil hx hm (Library.mem_of_get? ht) hname hkept hconcrete
    refine ⟨seq, hsurvives, hw.onSurface_renamed htable hxs hm hsurvives ?_ hconcrete⟩
    rw [Ty.Mention.renamed_of_nil hargs]
    exact hname.symm
  | @generic s m t hs hm hkept ht hgeneric ih =>
    obtain ⟨_, hx, hxs⟩ := ih
    have hmade := OnSurface.generic hs hm hkept ht hgeneric
    rw [← Member.mentions_entity] at hm
    obtain ⟨i, hi, hname, hrenamed⟩ := hw.exists_selected hx hm hkept ht hgeneric
    obtain ⟨seq, hsurvives⟩ := hw.exists_survivor hmade (hname ▸ hnames i hi)
    exact ⟨seq, hsurvives, hw.onSurface_renamed htable hxs hm hsurvives (hrenamed.trans hname) rfl⟩

section

variable (hapart : ∀ i ∈ w'.library.instances, ∀ e ∈ w.library.entities, i.name ∉ e.pathNames)
include hapart

/-- If no type spells the name of an instance, references that still have arguments lead out of the table. -/
theorem plain_left (hconcrete : ∀ e ∈ w'.library.entities, e.isGeneric = false) :
    ∀ e ∈ w'.library.entities, ∀ m ∈ e.mentions, m.args ≠ [] → w'.library.get? m.name = none := by
  intro e he m hm hargs
  rw [hw.entities_left] at he
  obtain ⟨x, hx, rfl⟩ := List.mem_map.1 he
  rw [Library.renamed, Entity.mentions_replacePaths] at hm
  obtain ⟨seen, hseen, rfl⟩ := List.mem_map.1 hm
  obtain ⟨hxseen, hreached, _⟩ := Library.mem_survivors.1 hx
  obtain ⟨s, seq, hs, rfl⟩ := hw.inv.sound (hw.seen_eq ▸ hxseen) hreached
  obtain ⟨e, he, hspelled⟩ := hs.pathNames (Entity.pathNames_of_mentions hseen List.mem_cons_self)
  have hhygienic : w'.library.IsHygienic seen :=
    hw.isHygienic hconcrete hx hseen fun i hi _ hname => hapart i hi e he (hname ▸ hspelled)
  cases hget : w'.library.get? (seen.renamed w'.library.instanceName?).name with
  | none => rfl
  | some t => exact absurd (hhygienic t hget).1 hargs

/-- Nor do the arguments of an instance. -/
theorem hasPlainKeys_left : Ty.HasPlainKeys w'.library.instanceName? := by
  rintro name args _ hn k ⟨_, _, hk⟩ hmem
  obtain ⟨i, hi, hkey, _⟩ := Library.key_of_instanceName? hn
  obtain ⟨i', hi', _, rfl⟩ := Library.key_of_instanceName? hk
  obtain ⟨j, hj, hjkey, _⟩ := hw.exists_instance hi
  obtain ⟨t, args', hs, hcopy⟩ := hw.inv.copied j hj
  have hinstance := hw.inv.grown.instanceOf_made hj
  rw [hcopy, hjkey, hkey] at hinstance
  obtain ⟨rfl, rfl⟩ : t.name = name ∧ args' = args := by simpa [Member.entity, makeInstance] using hinstance
  obtain ⟨e, he, hspelled⟩ := hs.pathNames_args hmem
  exact hapart i' hi' e he hspelled

/-- So renaming has renamed all there is to rename. -/
theorem renamed_left : ∀ e ∈ w'.library.entities, w'.library.renamed e = e := by
  intro e he
  rw [hw.entities_left] at he
  obtain ⟨x, _, rfl⟩ := List.mem_map.1 he
  rw [Library.renamed, Library.renamed, Entity.mapTypes_mapTypes]
  simp only [Ty.replacePaths_replacePaths (hw.hasPlainKeys_left hapart)]

/-- What a first run leaves is settled, if no instance has a name that is left out or that a type spells. -/
theorem isSettled (htable : w'.library.IsTable) (hconcrete : ∀ e ∈ w'.library.entities, e.isGeneric = false)
    (hnames : ∀ i ∈ w'.library.instances, i.name ∉ excluded) : w'.library.IsSettled included excluded where
  plain := hw.plain_left hapart hconcrete
  renamed := hw.renamed_left hapart
  reached := by
    intro e he
    rw [hw.entities_left] at he
    obtain ⟨x, hx, rfl⟩ := List.mem_map.1 he
    obtain ⟨hxseen, hreached, _⟩ := Library.mem_survivors.1 hx
    rw [hw.seen_eq] at hxseen
    obtain ⟨s, seq, hs, rfl⟩ := hw.inv.sound hxseen hreached
    obtain ⟨seq', hs', hleft⟩ := hw.onSurface_left htable hnames hs
    -- both copies of the member have its name, so they are the same
    have hsame : s.entity ceiling.dropUnderscores seq' = s.entity ceiling.dropUnderscores seq := by
      have hseen := (Library.mem_survivors.1 hs').1
      rw [hw.seen_eq] at hseen
      exact Library.eq_of_name_eq hw.inv.grown.table hseen hxseen (by simp)
    rwa [hsame] at hleft

end

end Workshop.Ended

namespace Workshop

variable {ceiling : Ceiling} {included excluded : List String} {w w' : Workshop}

/-- Specialized again, a library that specialization has left stays as it is just when it is settled: no
reference has arguments for what is in the table, everything in it is on the surface, and no path selects an
instance. The library is settled if nothing was made in it before, no instance has a name that is left out, and
no type spells the name of an instance. -/
theorem specialize_again (htable : w.library.IsTable) (hapart : w.library.KeepsApart)
    (h : w.specialize ceiling included excluded = (w', .ok ())) :
    (∀ e ∈ w'.library.entities, e.isGeneric = false) ∧
    (∀ (ceiling' : Ceiling) (again : Workshop), again.library = w'.library →
      (again.Repeats ceiling' included excluded ↔ w'.library.IsSettled included excluded)) ∧
    (w.library.instances = [] →
      (∀ i ∈ w'.library.instances, i.name ∉ excluded ∧ ∀ e ∈ w.library.entities, i.name ∉ e.pathNames) →
        w'.library.IsSettled included excluded) := by
  have hleft := isTable_specialize htable h
  have hconcrete := not_isGeneric_left htable hapart h
  obtain ⟨hkept, hexternal⟩ := leftOut_specialize h
  refine ⟨hconcrete, fun ceiling' again hagain => ?_, fun hfresh hnames => ?_⟩
  · rw [← hagain] at hleft hconcrete hkept hexternal ⊢
    exact repeats_iff_isSettled hleft hconcrete hkept hexternal
  · obtain ⟨walk, owner, hw⟩ := exists_ended htable hfresh h
    exact hw.isSettled (fun i hi => (hnames i hi).2) hleft hconcrete fun i hi => (hnames i hi).1

theorem specialize_again_shelf : shelf.library.IsTable ∧ shelf.library.KeepsApart ∧
    ∃ w', shelf.specialize ⟨4, false⟩ [] [] = (w', .ok ()) ∧ shelf.library.instances = [] ∧
      (∀ i ∈ w'.library.instances, i.name ∉ [] ∧ ∀ e ∈ shelf.library.entities, i.name ∉ e.pathNames) ∧
      w'.library.names = ["Lid", "Shelf", "Box_bool"] ∧ w'.Repeats ⟨4, false⟩ [] [] := by
  have hapart : shelf.library.KeepsApart := by
    rintro i ⟨⟩
  have hok : (shelf.specialize ⟨4, false⟩ [] []).2 = .ok () := by cbv
  have hrun : shelf.specialize ⟨4, false⟩ [] [] = ((shelf.specialize ⟨4, false⟩ [] []).1, .ok ()) := Prod.ext rfl hok
  have hmade : (shelf.specialize ⟨4, false⟩ [] []).1.library.instances.map Instance.name = ["Box_bool"] := by cbv
  have hspelled : shelf.library.entities.map Entity.pathNames = [["T"], [], ["Box", "Lid"], []] := by cbv
  have hnames : ∀ i ∈ (shelf.specialize ⟨4, false⟩ [] []).1.library.instances,
      i.name ∉ [] ∧ ∀ e ∈ shelf.library.entities, i.name ∉ e.pathNames := by
    have hfree : ∀ names ∈ [["T"], [], ["Box", "Lid"], []], "Box_bool" ∉ names := by decide
    intro i hi
    have hname : i.name = "Box_bool" := List.mem_singleton.1 (hmade ▸ List.mem_map_of_mem hi)
    refine ⟨List.not_mem_nil, fun e he => ?_⟩
    rw [hname]
    exact hfree _ (hspelled ▸ List.mem_map_of_mem he)
  obtain ⟨_, hiff, hsettled⟩ := specialize_again isTable_shelf hapart hrun
  exact ⟨isTable_shelf, hapart, _, hrun, rfl, hnames, by cbv, (hiff _ _ rfl).2 (hsettled rfl hnames)⟩

/-- A template that mentions a struct that is not exported and that nothing else mentions. -/
def orphan : Workshop where
  library := {
    entities := [
      { Entity.bare "Slot" 0 (.struct [.bare "item" (.path "T" []), .bare "helper" (.path "Helper" [])]) with
        generics := ["T"] },
      { Entity.bare "Helper" 1 (.struct []) with exported := false },
      .bare "Rack" 2 (.struct [.bare "slot" (.path "Slot" [.primitive .i32])])]
    instances := []
    external := [] }
  nextSeq := 1
  log := []

def orphanLeft : Workshop := (orphan.specialize ⟨4, false⟩ [] ["Slot_i32"]).1

theorem specialize_orphan : orphan.specialize ⟨4, false⟩ [] ["Slot_i32"] = (orphanLeft, .ok ()) := by
  have hok : (orphan.specialize ⟨4, false⟩ [] ["Slot_i32"]).2 = .ok () := by cbv
  exact Prod.ext rfl hok

theorem names_orphanLeft : orphanLeft.library.names = ["Helper", "Rack"] := by cbv

theorem names_orphanLeft_again :
    (orphanLeft.specialize ⟨4, false⟩ [] ["Slot_i32"]).1.library.names = ["Rack"] := by cbv

/-- The run that makes an instance of a name that is left out keeps what only the instance leads to, and the next
one drops it. Where a type spells the name of an instance, the next one may even fail. -/
theorem not_specialize_again :
    (¬ ∀ (ceiling : Ceiling) (included excluded : List String) (w w' : Workshop), w.library.IsTable →
      w.library.instances = [] → w.specialize ceiling included excluded = (w', .ok ()) →
        w'.Repeats ceiling included excluded) ∧
    drawer.specialize ⟨4, false⟩ [] [] = (drawerLeft, .ok ()) ∧
    (drawerLeft.specialize ⟨4, false⟩ [] []).2 = .error (.argumentsUnwanted "Tray_bool" "Drawer") := by
  refine ⟨fun h => ?_, specialize_drawer, by cbv⟩
  have htable : orphan.library.IsTable := by
    unfold Library.IsTable
    decide
  obtain ⟨again, hagain, hentities, _⟩ := h _ _ _ orphan orphanLeft htable rfl specialize_orphan
  have hnames : again.library.names = ["Rack"] := by
    rw [← names_orphanLeft_again, hagain]
  rw [Library.names, hentities, ← Library.names, names_orphanLeft] at hnames
  exact absurd hnames (by decide)

end Workshop

end CrateHeader
