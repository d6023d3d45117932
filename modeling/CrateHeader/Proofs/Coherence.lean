import CrateHeader.Library.Session
import CrateHeader.Proofs.Capturing
import CrateHeader.Proofs.Withdrawing

/-!
# Entries and table through a session

The entry of an instance is the very entity that the table has under its name, from its making until an
operation takes the entity out: a removal by its name, a pruning that disables it or takes its body, or a
specialization that does not keep it. No entry is ever forgotten, so asking for the instance again then gives
the entity that is out of the table.
-/

namespace CrateHeader

variable {ceiling : Ceiling} {excluded : List String}

/-! ### Making instances -/

namespace Library

/-- A coherent library that has come from some entries by making instances only. -/
structure Extends (before : List Instance) (lib : Library) : Prop where
  coherent : lib.IsCoherent
  entries : ∃ new : List Instance, (∀ i ∈ new, i.withdrawn = none) ∧ lib.instances = before ++ new

theorem IsCoherent.extends {lib : Library} (h : lib.IsCoherent) : lib.Extends lib.instances :=
  ⟨h, [], by simp, by simp⟩

end Library

namespace Workshop

variable {w w' : Workshop} {template owner e : Entity} {args : List Ty} {key : InstanceKey}
  {before : List Instance} {m : Ty.Mention}

theorem isCoherent_list (h : w.library.IsCoherent) (hnew : w.library.instance? key = none)
    (hfree : w.library.get? e.name = none) (hkey : e.instanceOf = some key) :
    (w.list e key).library.IsCoherent := by
  constructor
  case table => exact isTable_list h.table hfree
  case keys => exact nodup_map_concat h.keys (Library.instance?_eq_none_iff.1 hnew)
  case present =>
    intro i hi hnone
    rcases List.mem_append.1 hi with hi | hi
    · obtain ⟨x, hx, hxkey⟩ := h.present i hi hnone
      exact ⟨x, List.mem_append_left _ hx, hxkey⟩
    · obtain rfl := List.mem_singleton.1 hi
      exact ⟨e, by simp [list], rfl, hkey⟩
  case given =>
    intro i hi x hx
    rcases List.mem_append.1 hi with hi | hi
    · exact h.given i hi x hx
    · rw [List.mem_singleton.1 hi] at hx
      cases hx
  case known =>
    intro x hx k hk
    rcases List.mem_append.1 hx with hx | hx
    · obtain ⟨i, hi, hik⟩ := h.known x hx k hk
      exact ⟨i, List.mem_append_left _ hi, hik⟩
    · obtain rfl := List.mem_singleton.1 hx
      rw [hkey, Option.some.injEq] at hk
      exact ⟨⟨key, x, none⟩, by simp [list], hk, rfl, rfl⟩

theorem extends_list (hw : w.library.Extends before) (hnew : w.library.instance? key = none)
    (hfree : w.library.get? e.name = none) (hkey : e.instanceOf = some key) :
    (w.list e key).library.Extends before := by
  obtain ⟨new, hnone, hinstances⟩ := hw.entries
  refine ⟨isCoherent_list hw.coherent hnew hfree hkey, new ++ [⟨key, e, none⟩], fun i hi => ?_, ?_⟩
  · rcases List.mem_append.1 hi with hi | hi
    · exact hnone i hi
    · rw [List.mem_singleton.1 hi]
  · simp [list, hinstances]

theorem extends_instantiate {depth : Int} (hw : w.library.Extends before)
    (h : w.instantiate ceiling template args depth = .ok (e, w')) : w'.library.Extends before := by
  rcases instantiate_ok h with ⟨_, _, _, rfl⟩ | ⟨hnew, _, _, _, hfree, rfl, rfl⟩
  · exact hw
  · exact extends_list hw hnew hfree rfl

theorem extends_follow {depth : Nat} {found : Option Entity} (hw : w.library.Extends before)
    (h : w.follow ceiling excluded owner m depth = .ok (found, w')) : w'.library.Extends before := by
  rcases follow_workshop h with rfl | ⟨_, _, _, _, _, _, hmade⟩
  · exact hw
  · exact extends_instantiate hw hmade

end Workshop

/-! ### Single operations -/

/-- Does an operation on a session take the entity of an instance of some name out of the table? -/
def Operation.TakesOut (ceiling : Ceiling) (s : Session) (name : String) : Operation → Prop
  | .prune env marks => ∃ e, s.library.get? name = some e ∧ Library.Prunes env marks e
  | .specialize included excluded =>
    (s.workshop.specialize ceiling included excluded).2 = .ok () ∧
      name ∉ (s.step ceiling (.specialize included excluded)).library.names
  | .remove removed => name = removed
  | _ => False

namespace Session

variable {s : Session} {op : Operation} {ops : List Operation} {external : List String} {i j : Instance}

theorem leaves_add (h : s.library.IsCoherent) (d : Declaration) :
    (s.step ceiling (.add d)).library.Leaves (fun _ => False) s.library.instances := by
  show (s.builder.add d).1.library.Leaves _ s.builder.library.instances
  unfold Builder.add
  split
  · split
    · exact h.unchanged
    · exact h.unchanged
  · dsimp only
    split
    · exact h.unchanged
    · next e hconvert =>
      split
      · exact h.unchanged
      · next hfree =>
        obtain ⟨_, _, _, _, _, _, rfl⟩ := Declaration.convert_ok hconvert
        exact Library.leaves_push h (Bool.eq_false_of_not_eq_true hfree) rfl

theorem leaves_specialize (h : s.library.IsCoherent) (included excluded : List String) :
    ∃ new : List Instance, (∀ i ∈ new, i.withdrawn = none) ∧
      (s.step ceiling (.specialize included excluded)).library.Leaves
        (fun n => (Operation.specialize included excluded).TakesOut ceiling s n)
        (s.library.instances ++ new) := by
  have hrun : (Walk.workshopOf (Walk.run ceiling excluded (s.workshop.start included excluded))).library.Extends
      s.library.instances :=
    Walk.workshopOf_run (P := fun shop => shop.library.Extends s.library.instances)
      (fun _ _ _ _ _ _ => Workshop.extends_follow) h.extends
  obtain ⟨new, hnone, hinstances⟩ := hrun.entries
  refine ⟨new, hnone, ?_⟩
  rw [← hinstances]
  cases hwalk : Walk.run ceiling excluded (s.workshop.start included excluded) with
  | error failure =>
    rw [hwalk] at hrun
    have hspecialize := Workshop.specialize_of_failure hwalk
    simp only [Operation.TakesOut, step, library_withWorkshop, hspecialize]
    exact hrun.coherent.leaves fun n h => by cases h.1
  | ok walk =>
    rw [hwalk] at hrun
    obtain ⟨hok, hkept⟩ := Workshop.specialize_of_walk hwalk
    simp only [Operation.TakesOut, step, library_withWorkshop, hok, hkept, true_and]
    exact Library.leaves_keepReached _ _ hrun.coherent

/-- What an operation makes of the entries: it may add some, and those that it takes out are withdrawn. -/
theorem step_leaves (ceiling : Ceiling) (h : s.library.IsCoherent) (op : Operation) :
    ∃ new : List Instance, (∀ i ∈ new, i.withdrawn = none) ∧
      (s.step ceiling op).library.Leaves (fun n => op.TakesOut ceiling s n) (s.library.instances ++ new) := by
  have hsame : ∀ {s' : Session}, s'.library.Leaves (fun n => op.TakesOut ceiling s n) s.library.instances →
      ∃ new : List Instance, (∀ i ∈ new, i.withdrawn = none) ∧
        s'.library.Leaves (fun n => op.TakesOut ceiling s n) (s.library.instances ++ new) := by
    intro s' hleaves
    exact ⟨[], by simp, by simpa using hleaves⟩
  cases op with
  | add d => exact hsame (leaves_add h d)
  | prune env marks => exact hsame (Library.leaves_prune env marks h)
  | specialize included excluded => exact leaves_specialize h included excluded
  | assignNames settings => exact hsame (Library.leaves_mapEntities h (fun _ => rfl) fun _ => rfl)
  | instantiate template args depth =>
    cases hmade : s.workshop.instantiate ceiling template args depth with
    | error e =>
      simp only [step, hmade]
      exact hsame (h.unchanged)
    | ok made =>
      obtain ⟨e, w⟩ := made
      have hextends : w.library.Extends s.library.instances :=
        Workshop.extends_instantiate (Library.IsCoherent.extends h) hmade
      obtain ⟨new, hnone, hinstances⟩ := hextends.entries
      simp only [step, hmade, library_withWorkshop]
      exact ⟨new, hnone, hinstances ▸ hextends.coherent.unchanged⟩
  | remove name =>
    cases hremove : s.library.remove? name with
    | none =>
      simp only [step, hremove]
      refine hsame (h.unchanged.congr fun i hi hnone => ?_)
      obtain ⟨e, he, hname, _⟩ := h.present i hi hnone
      have hget : s.library.get? name = none := by simpa [Library.remove?] using hremove
      refine ⟨False.elim, fun hlost => Library.get?_eq_none_iff.1 hget ?_⟩
      exact List.mem_map.2 ⟨e, he, hname.trans hlost⟩
    | some removed =>
      obtain ⟨e, lib⟩ := removed
      simp only [step, hremove]
      exact hsame (Library.leaves_remove? h hremove)

/-! ### Whole sessions -/

theorem run_append (ops more : List Operation) : s.run ceiling (ops ++ more) = (s.run ceiling ops).run ceiling more :=
  List.foldl_append

theorem isCoherent_run (ceiling : Ceiling) (h : s.library.IsCoherent) (ops : List Operation) :
    (s.run ceiling ops).library.IsCoherent := by
  induction ops generalizing s with
  | nil => exact h
  | cons op rest ih =>
    obtain ⟨_, _, hleaves⟩ := step_leaves ceiling h op
    exact ih hleaves.coherent

/-- No entry is forgotten or made anew. -/
theorem recorded_prefix_run (ceiling : Ceiling) (h : s.library.IsCoherent) (ops : List Operation) :
    s.library.recorded <+: (s.run ceiling ops).library.recorded := by
  induction ops generalizing s with
  | nil => exact List.prefix_rfl
  | cons op rest ih =>
    obtain ⟨new, _, hleaves⟩ := step_leaves ceiling h op
    refine List.IsPrefix.trans ?_ (ih hleaves.coherent)
    rw [hleaves.recorded, List.map_append]
    exact List.prefix_append _ _

theorem isCoherent_start (external : List String) : (start external).library.IsCoherent :=
  Library.IsCoherent.empty external

theorem isCoherent_session (ceiling : Ceiling) (external : List String) (ops : List Operation) :
    ((start external).run ceiling ops).library.IsCoherent :=
  isCoherent_run ceiling (isCoherent_start external) ops

/-- Was the entity of an entry taken out of the table in a session? -/
def TakenOut (ceiling : Ceiling) (external : List String) (ops : List Operation) (i : Instance) : Prop :=
  ∃ earlier op later, ops = earlier ++ op :: later ∧
    (∃ j ∈ ((start external).run ceiling (earlier ++ [op])).library.instances, j.key = i.key) ∧
    op.TakesOut ceiling ((start external).run ceiling earlier) i.name

theorem takenOut_append_singleton (hi : i ∈ ((start external).run ceiling (ops ++ [op])).library.instances) :
    TakenOut ceiling external (ops ++ [op]) i ↔
      TakenOut ceiling external ops i ∨ op.TakesOut ceiling ((start external).run ceiling ops) i.name := by
  constructor
  · rintro ⟨earlier, op', later, hsplit, hlisted, htakes⟩
    rcases concat_eq_append_cons hsplit with ⟨rfl, rfl⟩ | ⟨between, rfl⟩
    · exact Or.inr htakes
    · exact Or.inl ⟨earlier, op', between, rfl, hlisted, htakes⟩
  · rintro (⟨earlier, op', later, rfl, hlisted, htakes⟩ | htakes)
    · exact ⟨earlier, op', later ++ [op], by simp, hlisted, htakes⟩
    · exact ⟨ops, op, [], rfl, ⟨i, hi, rfl⟩, htakes⟩

theorem takenOut_congr (hkey : j.key = i.key) (hmade : j.made = i.made) :
    TakenOut ceiling external ops j ↔ TakenOut ceiling external ops i := by
  have hname : j.name = i.name := congrArg Entity.name hmade
  simp only [TakenOut, hkey, hname]

/-- What was taken out is listed. -/
theorem exists_of_takenOut (h : TakenOut ceiling external ops i) :
    ∃ j ∈ ((start external).run ceiling ops).library.instances, j.key = i.key := by
  obtain ⟨earlier, op, later, rfl, ⟨j, hj, hkey⟩, _⟩ := h
  have hkept := recorded_prefix_run ceiling
    (isCoherent_session ceiling external (earlier ++ [op])) later
  rw [← run_append, List.append_assoc, List.singleton_append] at hkept
  obtain ⟨k, hk, hkj⟩ := List.mem_map.1 (hkept.subset (List.mem_map_of_mem hj))
  exact ⟨k, hk, (congrArg Prod.fst hkj).trans hkey⟩

/-- An entry is withdrawn exactly when its entity has been taken out. -/
theorem withdrawn_iff_takenOut (ceiling : Ceiling) (external : List String) (ops : List Operation) :
    ∀ i ∈ ((start external).run ceiling ops).library.instances,
      i.withdrawn = none ↔ ¬ TakenOut ceiling external ops i := by
  induction ops using List.reverseRecOn with
  | nil =>
    intro i hi
    cases hi
  | append_singleton ops op ih =>
    intro j hj
    have hcoherent := isCoherent_session ceiling external ops
    obtain ⟨new, hnone, hleaves⟩ := step_leaves ceiling hcoherent op
    rw [takenOut_append_singleton hj, not_or]
    rw [run_append] at hj
    obtain ⟨i, hi, hkeeps⟩ := hleaves.entries j hj
    rw [hkeeps.withdrawn, hkeeps.name, takenOut_congr hkeeps.key hkeeps.made]
    refine and_congr_left fun _ => ?_
    rcases List.mem_append.1 hi with hold | hnew
    · exact ih i hold
    · -- its key is new, so it was not taken out before
      refine iff_of_true (hnone i hnew) fun htaken => ?_
      obtain ⟨k, hk, hkey⟩ := exists_of_takenOut htaken
      have hkeys : ((((start external).run ceiling ops).library.instances ++ new).map (·.key)).Nodup := by
        have hnodup := hleaves.coherent.keys
        have hrecorded := congrArg (List.map Prod.fst) hleaves.recorded
        simp only [Library.recorded, List.map_map, Function.comp_def] at hrecorded
        rwa [hrecorded] at hnodup
      rw [List.map_append, List.nodup_append] at hkeys
      exact hkeys.2.2 _ (List.mem_map_of_mem hk) _ (List.mem_map_of_mem hnew) hkey

/-- In every session, the entry of an instance is the very entity that the table has under its name, unless the
entity has been taken out of the table. An instance that is asked for is in the table, or it has been taken
out and nothing changes. No entry is ever forgotten or made anew. -/
theorem entries_hold_run (ceiling : Ceiling) (external : List String) (ops : List Operation) :
    let s := (start external).run ceiling ops
    (∀ i ∈ s.library.instances, s.library.Holds i ↔ ¬ TakenOut ceiling external ops i) ∧
      (∀ template args depth e w, s.workshop.instantiate ceiling template args depth = .ok (e, w) →
        e.instanceOf = some ⟨template.name, args⟩ ∧
        (w.library.get? e.name = some e ∨
          w = s.workshop ∧ ∃ i ∈ s.library.instances, i.key = ⟨template.name, args⟩ ∧
            e = s.library.entityOf i ∧ TakenOut ceiling external ops i)) ∧
      ∀ more, s.library.recorded <+: ((start external).run ceiling (ops ++ more)).library.recorded := by
  intro s
  have hcoherent : s.library.IsCoherent := isCoherent_session ceiling external ops
  have hholds : ∀ i ∈ s.library.instances, s.library.Holds i ↔ ¬ TakenOut ceiling external ops i := fun i hi =>
    (hcoherent.holds_iff hi).trans (withdrawn_iff_takenOut ceiling external ops i hi)
  refine ⟨hholds, fun template args depth e w h => ?_, fun more => ?_⟩
  · rcases Workshop.instantiate_ok h with ⟨i, hi, rfl, rfl⟩ | ⟨hnew, _, _, _, hfree, rfl, rfl⟩
    · have hmem : i ∈ s.library.instances := List.mem_of_find?_eq_some hi
      have hkey : i.key = ⟨template.name, args⟩ := by simpa using List.find?_some hi
      obtain ⟨hname, hinstance⟩ := hcoherent.entityOf_spec hmem
      refine ⟨hinstance.trans (congrArg some hkey), ?_⟩
      by_cases htaken : TakenOut ceiling external ops i
      · exact Or.inr ⟨rfl, i, hmem, hkey, rfl, htaken⟩
      · obtain ⟨e, hget, _, rfl⟩ := (hholds i hmem).2 htaken
        exact Or.inl (show s.library.get? (s.library.entityOf i).name = _ by rw [hname]; exact hget)
    · refine ⟨rfl, Or.inl ?_⟩
      have hextends := Workshop.extends_instantiate (Library.IsCoherent.extends hcoherent) h
      exact Library.get?_of_mem hextends.coherent.table (by simp [Workshop.list])
  · rw [run_append]
    exact recorded_prefix_run ceiling hcoherent more

def slot : Entity :=
  { Entity.bare "Slot" 0 (.struct [.bare "item" (.path "T" [])]) with generics := ["T"] }

/-- Of two instances of a template, the first is removed. -/
def removalSteps : List Operation := [
  .add ⟨"Slot", [], ["T"], "crate", true, [], .struct [⟨"item", .path "T" [], []⟩]⟩,
  .instantiate slot [.primitive .i32] 1, .instantiate slot [.primitive .bool] 1, .remove "Slot_i32"]

def removal : Session := (start []).run ⟨4, false⟩ removalSteps

def slotOf (arg : Primitive) (name : String) (seq : Nat) : Entity :=
  Workshop.makeInstance slot [.primitive arg] name seq

def removedEntry : Instance :=
  ⟨⟨"Slot", [.primitive .i32]⟩, slotOf .i32 "Slot_i32" 1, some (slotOf .i32 "Slot_i32" 1)⟩

def keptEntry : Instance := ⟨⟨"Slot", [.primitive .bool]⟩, slotOf .bool "Slot_bool" 2, none⟩

theorem instances_removal : removal.library.instances = [removedEntry, keptEntry] := by cbv

theorem get?_removal : removal.library.get? "Slot_i32" = none ∧
    removal.library.get? "Slot_bool" = some (slotOf .bool "Slot_bool" 2) := ⟨by cbv, by cbv⟩

theorem entries_hold_run_removal :
    TakenOut ⟨4, false⟩ [] removalSteps removedEntry ∧ ¬ TakenOut ⟨4, false⟩ [] removalSteps keptEntry ∧
    (∀ i ∈ removal.library.instances, removal.library.Holds i ↔ ¬ TakenOut ⟨4, false⟩ [] removalSteps i) := by
  have hrun := (entries_hold_run ⟨4, false⟩ [] removalSteps).1
  have hremoved : removedEntry ∈ removal.library.instances := by simp [instances_removal]
  have hkept : keptEntry ∈ removal.library.instances := by simp [instances_removal]
  refine ⟨?_, (hrun keptEntry hkept).1 ⟨_, get?_removal.2, rfl, ?_⟩, hrun⟩
  · by_contra hnot
    obtain ⟨e, hget, _⟩ := (hrun removedEntry hremoved).2 hnot
    exact absurd (get?_removal.1.symm.trans hget) (by simp)
  · show (removal.library.get? "Slot_bool").getD keptEntry.made = _
    rw [get?_removal.2]
    rfl

/-- The entry of an instance that is removed stays, and asking for the instance gives what is in the table no
more. -/
theorem not_entries_in_table :
    (¬ ∀ ceiling external ops, ∀ i ∈ ((start external).run ceiling ops).library.instances,
      ((start external).run ceiling ops).library.get? i.name =
        some (((start external).run ceiling ops).library.entityOf i)) ∧
    ¬ ∀ ceiling external ops template args depth e w,
      ((start external).run ceiling ops).workshop.instantiate ceiling template args depth = .ok (e, w) →
        w.library.get? e.name = some e := by
  have hnone := get?_removal.1
  constructor
  · intro h
    have hremoved : removedEntry ∈ removal.library.instances := by simp [instances_removal]
    have hentry := h ⟨4, false⟩ [] removalSteps removedEntry hremoved
    exact absurd (hnone.symm.trans hentry) (by simp)
  · intro h
    have hmade : removal.workshop.instantiate ⟨4, false⟩ slot [.primitive .i32] 1 =
        .ok (slotOf .i32 "Slot_i32" 1, removal.workshop) := by cbv
    have hentry := h ⟨4, false⟩ [] removalSteps _ _ _ _ _ hmade
    exact absurd (hnone.symm.trans hentry) (by simp)

end Session

end CrateHeader
