import Mathlib
import CrateHeader.Proofs.Pruning
import CrateHeader.Proofs.Specializing

/-!
# Instances that the table gives up

As long as an instance is not withdrawn, the table has its entity under its name, and it has an entity of an
instance only for that. What a stage does to a library it does by a few operations, and each of them keeps
this and withdraws exactly the instances of the names that it gives up.
-/

namespace CrateHeader

/-- An entry after something is done to the library: it was made in the same way, and it is not withdrawn
exactly if it was not before and its name is not lost. -/
structure Instance.Keeps (lost : String → Prop) (i j : Instance) : Prop where
  key : j.key = i.key
  made : j.made = i.made
  withdrawn : j.withdrawn = none ↔ i.withdrawn = none ∧ ¬ lost i.name

theorem Instance.Keeps.name {lost : String → Prop} {i j : Instance} (h : i.Keeps lost j) : j.name = i.name :=
  congrArg Entity.name h.made

namespace Library

variable {lib lib' : Library} {e x : Entity} {i j : Instance} {name : String} {lost lost' : String → Prop}
  {before : List Instance}

/-- Entries and table agree. -/
structure IsCoherent (lib : Library) : Prop where
  table : lib.IsTable
  keys : (lib.instances.map (·.key)).Nodup
  present : ∀ i ∈ lib.instances, i.withdrawn = none →
    ∃ e ∈ lib.entities, e.name = i.name ∧ e.instanceOf = some i.key
  given : ∀ i ∈ lib.instances, ∀ e, i.withdrawn = some e → e.name = i.name ∧ e.instanceOf = some i.key
  known : ∀ e ∈ lib.entities, ∀ key, e.instanceOf = some key →
    ∃ i ∈ lib.instances, i.key = key ∧ i.name = e.name ∧ i.withdrawn = none

/-- Is an entry the very entity that the table has under its name? -/
def Holds (lib : Library) (i : Instance) : Prop :=
  ∃ e, lib.get? i.name = some e ∧ e.instanceOf = some i.key ∧ lib.entityOf i = e

namespace IsCoherent

theorem empty (external : List String) : (Library.empty external).IsCoherent where
  table := isTable_empty external
  keys := List.nodup_nil
  present := by simp [Library.empty]
  given := by simp [Library.empty]
  known := by simp [Library.empty]

variable (h : lib.IsCoherent)
include h

theorem eq_of_key (hi : i ∈ lib.instances) (hj : j ∈ lib.instances) (hkey : i.key = j.key) : i = j :=
  List.inj_on_of_nodup_map h.keys hi hj hkey

/-- The entity of an entry that is not withdrawn is the one of its name. -/
theorem instanceOf_eq (hi : i ∈ lib.instances) (hnone : i.withdrawn = none) (he : e ∈ lib.entities)
    (hname : e.name = i.name) : e.instanceOf = some i.key := by
  obtain ⟨x, hx, hxname, hxkey⟩ := h.present i hi hnone
  rwa [eq_of_name_eq h.table he hx (hname.trans hxname.symm)]

theorem holds_iff (hi : i ∈ lib.instances) : lib.Holds i ↔ i.withdrawn = none := by
  constructor
  · rintro ⟨e, hget, hkey, _⟩
    obtain ⟨j, hj, hjkey, _, hnone⟩ := h.known e (mem_of_get? hget) i.key hkey
    rwa [← h.eq_of_key hj hi hjkey]
  · intro hnone
    obtain ⟨e, he, hname, hkey⟩ := h.present i hi hnone
    have hget : lib.get? i.name = some e := hname ▸ get?_of_mem h.table he
    exact ⟨e, hget, hkey, by simp [entityOf, hnone, hget]⟩

theorem entityOf_spec (hi : i ∈ lib.instances) :
    (lib.entityOf i).name = i.name ∧ (lib.entityOf i).instanceOf = some i.key := by
  cases hw : i.withdrawn with
  | none =>
    obtain ⟨e, hget, hkey, hentity⟩ := (h.holds_iff hi).2 hw
    rw [hentity]
    exact ⟨name_of_get? hget, hkey⟩
  | some e => simpa [entityOf, hw] using h.given i hi e hw

end IsCoherent

/-! ### What is left of some entries -/

/-- A library that some entries have come to, with the names lost on the way. -/
structure Leaves (lost : String → Prop) (before : List Instance) (lib : Library) : Prop where
  coherent : lib.IsCoherent
  recorded : lib.recorded = before.map fun i => (i.key, i.made)
  entries : ∀ j ∈ lib.instances, ∃ i ∈ before, i.Keeps lost j

theorem IsCoherent.leaves (h : lib.IsCoherent) (hlost : ∀ n, ¬ lost n) : lib.Leaves lost lib.instances where
  coherent := h
  recorded := rfl
  entries := fun j hj => ⟨j, hj, rfl, rfl, by simp [hlost]⟩

theorem IsCoherent.unchanged (h : lib.IsCoherent) : lib.Leaves (fun _ => False) lib.instances :=
  h.leaves fun _ => id

namespace Leaves

theorem trans (h : lib.Leaves lost before) (h' : lib'.Leaves lost' lib.instances) :
    lib'.Leaves (fun n => lost n ∨ lost' n) before where
  coherent := h'.coherent
  recorded := h'.recorded.trans h.recorded
  entries := by
    intro k hk
    obtain ⟨j, hj, hjk⟩ := h'.entries k hk
    obtain ⟨i, hi, hij⟩ := h.entries j hj
    refine ⟨i, hi, hjk.key.trans hij.key, hjk.made.trans hij.made, ?_⟩
    rw [hjk.withdrawn, hij.withdrawn, hij.name, not_or, and_assoc]

/-- Only what is lost to an entry that is not withdrawn yet matters. -/
theorem congr (h : lib.Leaves lost before)
    (hlost : ∀ i ∈ before, i.withdrawn = none → (lost i.name ↔ lost' i.name)) : lib.Leaves lost' before where
  coherent := h.coherent
  recorded := h.recorded
  entries := by
    intro j hj
    obtain ⟨i, hi, hij⟩ := h.entries j hj
    refine ⟨i, hi, hij.key, hij.made, hij.withdrawn.trans (and_congr_right fun hnone => ?_)⟩
    rw [hlost i hi hnone]

end Leaves

/-! ### Single operations -/

/-- Changing entities in place, without their names and the memory of being instances, loses nothing. -/
theorem leaves_mapEntities {f : Entity → Entity} (h : lib.IsCoherent) (hname : ∀ e, (f e).name = e.name)
    (hinstance : ∀ e, (f e).instanceOf = e.instanceOf) :
    (lib.mapEntities f).Leaves (fun _ => False) lib.instances := by
  have hcoherent : (lib.mapEntities f).IsCoherent := by
    refine ⟨?_, h.keys, ?_, h.given, ?_⟩
    · unfold IsTable
      rw [names_mapEntities hname]
      exact h.table
    · intro i hi hnone
      obtain ⟨e, he, hen, hkey⟩ := h.present i hi hnone
      exact ⟨f e, List.mem_map_of_mem he, (hname e).trans hen, (hinstance e).trans hkey⟩
    · intro e he key hkey
      obtain ⟨x, hx, rfl⟩ := List.mem_map.1 he
      rw [hinstance] at hkey
      rw [hname]
      exact h.known x hx key hkey
  exact hcoherent.unchanged

theorem leaves_push (h : lib.IsCoherent) (hfree : lib.contains e.name = false) (hnot : e.instanceOf = none) :
    (lib.push e).Leaves (fun _ => False) lib.instances := by
  have hcoherent : (lib.push e).IsCoherent := by
    refine ⟨isTable_push h.table hfree, h.keys, ?_, h.given, ?_⟩
    · intro i hi hnone
      obtain ⟨x, hx, hkey⟩ := h.present i hi hnone
      exact ⟨x, List.mem_append_left _ hx, hkey⟩
    · intro x hx key hkey
      rcases List.mem_append.1 hx with hx | hx
      · exact h.known x hx key hkey
      · rw [List.mem_singleton.1 hx, hnot] at hkey
        cases hkey
  exact hcoherent.unchanged

/-- Withdrawing the instance of an entity. -/
theorem mem_withdraw (hj : j ∈ (lib.withdraw e).instances) :
    ∃ i ∈ lib.instances, j.key = i.key ∧ j.made = i.made ∧
      (i.name = e.name ∧ i.withdrawn = none ∧ j.withdrawn = some e ∨
        ¬ (i.name = e.name ∧ i.withdrawn = none) ∧ j = i) := by
  obtain ⟨i, hi, rfl⟩ := List.mem_map.1 hj
  refine ⟨i, hi, ?_⟩
  by_cases hlost : i.name = e.name ∧ i.withdrawn = none
  · simp [hlost]
  · simp [hlost]

/-- Withdrawing the instance of an entity whose place is taken by at most one that is no instance. -/
theorem leaves_withdraw (h : lib.IsCoherent) (he : e ∈ lib.entities)
    (hinstances : lib'.instances = (lib.withdraw e).instances) (htable : lib'.IsTable)
    (hothers : ∀ x, x.name ≠ e.name → (x ∈ lib'.entities ↔ x ∈ lib.entities))
    (hplace : ∀ x ∈ lib'.entities, x.name = e.name → x.instanceOf = none) :
    lib'.Leaves (fun n => n = e.name) lib.instances := by
  have hentries : ∀ j ∈ lib'.instances, ∃ i ∈ lib.instances, i.Keeps (fun n => n = e.name) j := by
    intro j hj
    obtain ⟨i, hi, hkey, hmade, hlost | ⟨hkept, rfl⟩⟩ := mem_withdraw (hinstances ▸ hj)
    · exact ⟨i, hi, hkey, hmade, by simp [hlost]⟩
    · exact ⟨j, hi, rfl, rfl, ⟨fun hnone => ⟨hnone, fun hname => hkept ⟨hname, hnone⟩⟩, And.left⟩⟩
  have hrecorded : lib'.recorded = lib.recorded := by
    rw [recorded, hinstances]
    exact recorded_withdraw
  have hkeys : lib'.instances.map (·.key) = lib.instances.map (·.key) := by
    simpa [recorded, Function.comp_def] using congrArg (List.map Prod.fst) hrecorded
  refine ⟨⟨htable, hkeys ▸ h.keys, ?_, ?_, ?_⟩, hrecorded, hentries⟩
  · intro j hj hnone
    obtain ⟨i, hi, hkeeps⟩ := hentries j hj
    obtain ⟨hold, hother⟩ := hkeeps.withdrawn.1 hnone
    obtain ⟨x, hx, hxname, hxkey⟩ := h.present i hi hold
    refine ⟨x, (hothers x (hxname ▸ hother)).2 hx, hxname.trans hkeeps.name.symm, ?_⟩
    rw [hxkey, hkeeps.key]
  · intro j hj x hx
    obtain ⟨i, hi, hkey, hmade, ⟨hname, hnone, hgiven⟩ | ⟨_, rfl⟩⟩ := mem_withdraw (hinstances ▸ hj)
    · obtain rfl := Option.some.inj (hgiven.symm.trans hx)
      refine ⟨hname.symm.trans (congrArg Entity.name hmade.symm), ?_⟩
      rw [hkey]
      exact h.instanceOf_eq hi hnone he hname.symm
    · exact h.given j hi x hx
  · intro x hx key hkey
    have hother : x.name ≠ e.name := by
      intro hname
      rw [hplace x hx hname] at hkey
      cases hkey
    obtain ⟨i, hi, hikey, hiname, hnone⟩ := h.known x ((hothers x hother).1 hx) key hkey
    refine ⟨i, ?_, hikey, hiname, hnone⟩
    rw [hinstances]
    refine List.mem_map.2 ⟨i, hi, if_neg fun hlost => hother ?_⟩
    exact hiname.symm.trans hlost.1

theorem leaves_erase (h : lib.IsCoherent) (he : e ∈ lib.entities) :
    (lib.erase e).Leaves (fun n => n = e.name) lib.instances := by
  refine leaves_withdraw h he rfl (isTable_erase h.table) (fun x hx => ?_) fun x hx hname => ?_
  · simp [erase, hx]
  · exact absurd hname (by simpa [erase] using (List.mem_filter.1 hx).2)

theorem leaves_replace (h : lib.IsCoherent) (he : e ∈ lib.entities) :
    (lib.replace e e.asOpaque).Leaves (fun n => n = e.name) lib.instances := by
  have hmem : ∀ x ∈ (lib.replace e e.asOpaque).entities, x = e.asOpaque ∨ x ∈ lib.entities ∧ x.name ≠ e.name := by
    intro x hx
    obtain ⟨y, hy, rfl⟩ := List.mem_map.1 hx
    by_cases hname : y.name = e.name
    · exact Or.inl (if_pos hname)
    · rw [if_neg hname]
      exact Or.inr ⟨hy, hname⟩
  refine leaves_withdraw h he rfl ?_ (fun x hx => ⟨fun hmem' => ?_, fun hmem' => ?_⟩) fun x hx hname => ?_
  · unfold IsTable
    rw [names_replace (show e.asOpaque.name = e.name from rfl)]
    exact h.table
  · rcases hmem x hmem' with rfl | ⟨hx, _⟩
    · exact absurd rfl hx
    · exact hx
  · exact List.mem_map.2 ⟨x, hmem', if_neg hx⟩
  · rcases hmem x hx with rfl | ⟨_, hother⟩
    · rfl
    · exact absurd hname hother

theorem leaves_remove? (h : lib.IsCoherent) (hremove : lib.remove? name = some (e, lib')) :
    lib'.Leaves (fun n => n = name) lib.instances := by
  obtain ⟨x, hget, hx⟩ := Option.map_eq_some_iff.1 hremove
  cases hx
  rw [← name_of_get? hget]
  exact leaves_erase h (mem_of_get? hget)

theorem leaves_makeExternal (h : lib.IsCoherent) (name : String) :
    (lib.makeExternal name).Leaves (fun n => n = name) lib.instances := by
  have hwithout : (((lib.remove? name).map Prod.snd).getD lib).Leaves (fun n => n = name) lib.instances := by
    cases hremove : lib.remove? name with
    | some removed =>
      obtain ⟨e, lib'⟩ := removed
      exact leaves_remove? h hremove
    | none =>
      have hget : lib.get? name = none := by simpa [remove?] using hremove
      refine h.unchanged.congr fun i hi hnone => ?_
      obtain ⟨e, he, hname, _⟩ := h.present i hi hnone
      refine ⟨False.elim, fun hlost => get?_eq_none_iff.1 hget ?_⟩
      exact List.mem_map.2 ⟨e, he, hname.trans hlost⟩
  unfold makeExternal
  dsimp only
  split
  · exact hwithout
  · exact ⟨⟨hwithout.coherent.table, hwithout.coherent.keys, hwithout.coherent.present,
      hwithout.coherent.given, hwithout.coherent.known⟩, hwithout.recorded, hwithout.entries⟩

/-! ### One operation after the other -/

/-- Giving up entities of different names one by one loses all their names. -/
theorem leaves_foldl {f : Library → Entity → Library}
    (hf : ∀ lib e, lib.IsCoherent → e ∈ lib.entities → (f lib e).Leaves (fun n => n = e.name) lib.instances)
    (hothers : ∀ lib e x, x ∈ lib.entities → x.name ≠ e.name → x ∈ (f lib e).entities) (es : List Entity)
    (hes : (es.map (·.name)).Nodup) (h : lib.IsCoherent) (hmem : es ⊆ lib.entities) :
    (es.foldl f lib).Leaves (fun n => n ∈ es.map (·.name)) lib.instances := by
  induction es generalizing lib with
  | nil => exact h.leaves (by simp)
  | cons e rest ih =>
    obtain ⟨hfresh, hrest⟩ := List.nodup_cons.1 hes
    obtain ⟨he, hmem⟩ := List.cons_subset.1 hmem
    have hfirst := hf lib e h he
    have hkept : rest ⊆ (f lib e).entities := fun x hx =>
      hothers lib e x (hmem hx) fun hname => hfresh (List.mem_map.2 ⟨x, hx, hname⟩)
    refine (hfirst.trans (ih hrest hfirst.coherent hkept)).congr fun i _ _ => ?_
    rw [List.map_cons, List.mem_cons]

theorem mem_erase (hx : x ∈ lib.entities) (hname : x.name ≠ e.name) : x ∈ (lib.erase e).entities :=
  List.mem_filter.2 ⟨hx, by simpa using hname⟩

theorem mem_replace (hx : x ∈ lib.entities) (hname : x.name ≠ e.name) :
    x ∈ (lib.replace e e.asOpaque).entities :=
  List.mem_map.2 ⟨x, hx, if_neg hname⟩

theorem nodup_filter_names (h : lib.IsTable) (p : Entity → Bool) :
    ((lib.entities.filter p).map (·.name)).Nodup :=
  h.sublist (List.filter_sublist.map _)

theorem leaves_foldl_erase (h : lib.IsCoherent) (p : Entity → Bool) :
    ((lib.entities.filter p).foldl erase lib).Leaves
      (fun n => n ∈ (lib.entities.filter p).map (·.name)) lib.instances :=
  leaves_foldl (fun _ _ => leaves_erase) (fun _ _ _ => mem_erase) _ (nodup_filter_names h.table p) h
    List.filter_sublist.subset

theorem leaves_foldl_makeExternal (names : List String) (h : lib.IsCoherent) :
    (names.foldl makeExternal lib).Leaves (fun n => n ∈ names) lib.instances := by
  induction names generalizing lib with
  | nil => exact h.leaves (by simp)
  | cons name rest ih =>
    have hfirst := leaves_makeExternal h name
    refine (hfirst.trans (ih hfirst.coherent)).congr fun i _ _ => ?_
    rw [List.mem_cons]

theorem leaves_foldl_addStub {α β : Type} (mentions : List (α × β × Entity)) (h : lib.IsCoherent) :
    (mentions.foldl (fun lib (_, _, r) => lib.addStub r) lib).Leaves (fun _ => False) lib.instances := by
  induction mentions generalizing lib with
  | nil => exact h.unchanged
  | cons m rest ih =>
    have hfirst : (lib.addStub m.2.2).Leaves (fun _ => False) lib.instances := by
      unfold addStub
      split
      · exact h.unchanged
      · next hfree => exact leaves_push (e := m.2.2.stub) h (Bool.eq_false_of_not_eq_true hfree) rfl
    refine (hfirst.trans (ih hfirst.coherent)).congr fun i _ _ => ?_
    rw [or_false]

/-! ### Whole stages -/

/-- Does pruning disable an entity or take its body? -/
def Prunes (env : Environment) (marks : List String) (e : Entity) : Prop :=
  e.isEnabled env = false ∨ isMarkedOpaque marks e = true ∧ e.isType = true

/-- Pruning loses the names of what it disables and of what it makes opaque. -/
theorem leaves_prune (env : Environment) (marks : List String) (h : lib.IsCoherent) :
    (lib.prune env marks).library.Leaves
      (fun n => ∃ e, lib.get? n = some e ∧ Prunes env marks e) lib.instances := by
  have hdisabled := leaves_foldl_erase h fun e => !e.isEnabled env
  have hpruned : (lib.pruneEntities env).Leaves _ lib.instances :=
    hdisabled.trans (leaves_mapEntities (f := Entity.prune env) hdisabled.coherent (fun _ => rfl) fun _ => rfl)
  have hmarked : ((lib.pruneEntities env).markOpaque marks).Leaves _ lib.instances :=
    hpruned.trans (leaves_foldl (fun _ _ => leaves_replace) (fun _ _ _ => mem_replace) _
      (nodup_filter_names hpruned.coherent.table _) hpruned.coherent List.filter_sublist.subset)
  refine (hmarked.trans (leaves_foldl_addStub _ hmarked.coherent)).congr fun i hi hnone => ?_
  obtain ⟨e, he, hname, _⟩ := h.present i hi hnone
  have hunique : ∀ x ∈ lib.entities, x.name = i.name → x = e := fun x hx hxname =>
    eq_of_name_eq h.table hx he (hxname.trans hname.symm)
  have hget : lib.get? i.name = some e := hname ▸ get?_of_mem h.table he
  simp only [hget, Option.some.injEq, exists_eq_left', or_false, entities_pruneEntities env h.table]
  constructor
  · rintro (hlost | hlost)
    · obtain ⟨x, hx, hxname⟩ := List.mem_map.1 hlost
      obtain ⟨hx, hdisabled⟩ := List.mem_filter.1 hx
      rw [hunique x hx hxname] at hdisabled
      exact Or.inl (by simpa using hdisabled)
    · obtain ⟨y, hy, hyname⟩ := List.mem_map.1 hlost
      obtain ⟨hy, hlost⟩ := List.mem_filter.1 hy
      obtain ⟨x, hx, rfl⟩ := List.mem_map.1 hy
      rw [hunique x (List.mem_filter.1 hx).1 hyname, isMarkedOpaque_prune, isType_prune] at hlost
      exact Or.inr (by simpa using hlost)
  · intro hprunes
    by_cases henabled : e.isEnabled env = true
    · have hlost : isMarkedOpaque marks e = true ∧ e.isType = true :=
        hprunes.resolve_left (by simp [henabled])
      refine Or.inr (List.mem_map.2 ⟨e.prune env, List.mem_filter.2 ⟨?_, ?_⟩, hname⟩)
      · exact List.mem_map_of_mem (List.mem_filter.2 ⟨he, henabled⟩)
      · rw [isMarkedOpaque_prune, isType_prune, hlost.1, hlost.2]
        rfl
    · exact Or.inl (List.mem_map.2 ⟨e, List.mem_filter.2 ⟨he, by simpa using henabled⟩, hname⟩)

/-- What is kept after a walk has lost the names that are in the table no more. -/
theorem leaves_keepReached (reached excluded : List String) (h : lib.IsCoherent) :
    (lib.keepReached reached excluded).Leaves
      (fun n => n ∉ (lib.keepReached reached excluded).names) lib.instances := by
  have hdropped := leaves_foldl_erase h fun e => !reached.contains e.name
  have hexternal := hdropped.trans (leaves_foldl_makeExternal excluded hdropped.coherent)
  have hkept : (lib.keepReached reached excluded).Leaves _ lib.instances :=
    hexternal.trans (leaves_mapEntities hexternal.coherent (fun _ => rfl) fun _ => rfl)
  refine hkept.congr fun i hi hnone => ?_
  obtain ⟨e, he, hname, _⟩ := h.present i hi hnone
  have hunique : ∀ x ∈ lib.entities, x.name = i.name → x = e := fun x hx hxname =>
    eq_of_name_eq h.table hx he (hxname.trans hname.symm)
  rw [names, entities_keepReached, List.map_map, or_false, ← hname]
  constructor
  · intro hlost hmem
    obtain ⟨x, hx, hxname⟩ := List.mem_map.1 hmem
    obtain ⟨hx, hreached, hkept⟩ := mem_survivors.1 hx
    obtain rfl := hunique x hx (hxname.trans hname)
    rcases hlost with hlost | hlost
    · obtain ⟨y, hy, hyname⟩ := List.mem_map.1 hlost
      have hnot := (List.mem_filter.1 hy).2
      rw [hyname] at hnot
      simp [hreached] at hnot
    · exact hkept hlost
  · intro hnot
    by_contra hkept
    rw [not_or] at hkept
    refine hnot (List.mem_map.2 ⟨e, mem_survivors.2 ⟨he, ?_, hkept.2⟩, rfl⟩)
    by_contra hreached
    exact hkept.1 (List.mem_map.2 ⟨e, List.mem_filter.2 ⟨he, by simpa using hreached⟩, rfl⟩)

end Library

end CrateHeader
