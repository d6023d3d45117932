import Mathlib
import CrateHeader.Proofs.Withdrawing

/-!
# A specialization that fails

While the walk goes on, a library only gets instances: each is a copy of a template that was there from the start, at a
key and under a name that were free, and it comes behind everything else. Nothing is dropped, left to included headers
or renamed before the walk has come to its end, and only the walk can fail. So a specialization that fails leaves
everything that was there as it was and where it was, whatever had been made before.
-/

namespace CrateHeader

namespace Library

variable {base lib : Library} {made : List Instance} {dropUnderscores : Bool} {e : Entity} {name : String}

/-- A library to which instances have been added. -/
structure Adds (dropUnderscores : Bool) (base : Library) (made : List Instance) (lib : Library) : Prop where
  entities : lib.entities = base.entities ++ made.map (·.made)
  instances : lib.instances = base.instances ++ made
  external : lib.external = base.external
  copies : ∀ i ∈ made, i.withdrawn = none ∧ ∃ t, Workshop.IsCopy base dropUnderscores i t
  free : ∀ i ∈ made, base.instance? i.key = none ∧ base.get? i.name = none
  keys : (made.map (·.key)).Nodup
  names : (made.map Instance.name).Nodup

namespace Adds

theorem refl (dropUnderscores : Bool) (base : Library) : Adds dropUnderscores base [] base where
  entities := by simp
  instances := by simp
  external := rfl
  copies := by simp
  free := by simp
  keys := List.nodup_nil
  names := List.nodup_nil

variable (h : Adds dropUnderscores base made lib)
include h

/-- What the table had, it has at the same place. -/
theorem getElem?_eq {n : Nat} (he : base.entities[n]? = some e) : lib.entities[n]? = some e := by
  rw [h.entities, List.getElem?_append_left (List.getElem?_eq_some_iff.1 he).1, he]

/-- What the table had under a name, it has under that name. -/
theorem get?_eq (he : base.get? name = some e) : lib.get? name = some e := by
  rw [get?, h.entities, List.find?_append, show base.entities.find? (fun x => x.name == name) = some e from he,
    Option.some_or]

theorem get?_eq_none (hfree : lib.get? name = none) : base.get? name = none := by
  cases hget : base.get? name with
  | none => rfl
  | some e =>
    rw [h.get?_eq hget] at hfree
    cases hfree

/-- The entities of the entries that were there are the same. -/
theorem entityOf_eq (hbase : base.IsCoherent) {i : Instance} (hi : i ∈ base.instances) :
    lib.entityOf i = base.entityOf i := by
  cases hwithdrawn : i.withdrawn with
  | some e => simp [entityOf, hwithdrawn]
  | none =>
    obtain ⟨e, hget, _, _⟩ := (hbase.holds_iff hi).2 hwithdrawn
    simp [entityOf, hwithdrawn, hget, h.get?_eq hget]

/-- A template of the table was there from the start. -/
theorem mem_base_of_isGeneric (he : e ∈ lib.entities) (hgeneric : e.isGeneric = true) : e ∈ base.entities := by
  rw [h.entities] at he
  rcases List.mem_append.1 he with he | he
  · exact he
  · obtain ⟨i, hi, rfl⟩ := List.mem_map.1 he
    obtain ⟨_, t, hcopy⟩ := h.copies i hi
    rw [hcopy.made] at hgeneric
    cases hgeneric

end Adds

end Library

namespace Workshop

variable {base : Library} {made : List Instance} {dropUnderscores : Bool} {ceiling : Ceiling}
  {included excluded : List String} {w w' : Workshop} {template owner e : Entity} {args : List Ty} {m : Ty.Mention}

/-- One more instance is listed at a key and under a name that are free. -/
theorem adds_list {name : String} (hw : Library.Adds dropUnderscores base made w.library)
    (ht : template ∈ base.entities) (hgeneric : template.isGeneric = true)
    (hnew : w.library.instance? ⟨template.name, args⟩ = none) (hcount : args.length = template.generics.length)
    (hname : name = Ty.mangledName template.name args dropUnderscores) (hfree : w.library.get? name = none)
    (he : e = makeInstance template args name w.nextSeq) :
    Library.Adds dropUnderscores base (made ++ [⟨⟨template.name, args⟩, e, none⟩])
      (w.list e ⟨template.name, args⟩).library := by
  have hentityname : e.name = name := by rw [he]; rfl
  have hkeys := Library.instance?_eq_none_iff.1 hnew
  rw [hw.instances, List.forall_mem_append] at hkeys
  have hnames : ∀ i ∈ made, i.name ≠ name := by
    intro i hi hiname
    refine Library.get?_eq_none_iff.1 hfree (hiname ▸ List.mem_map_of_mem ?_)
    rw [hw.entities]
    exact List.mem_append_right _ (List.mem_map_of_mem hi)
  refine ⟨?_, ?_, hw.external, ?_, ?_, ?_, ?_⟩
  · simp only [list, hw.entities, List.append_assoc, List.map_append, List.map_singleton]
  · simp only [list, hw.instances, List.append_assoc]
  · exact List.forall_mem_append.2 ⟨hw.copies, List.forall_mem_singleton.2
      ⟨rfl, template, ht, hgeneric, rfl, hcount, by rw [he, hname]; rfl⟩⟩
  · have hkeyfree : base.instance? ⟨template.name, args⟩ = none := Library.instance?_eq_none_iff.2 hkeys.1
    have hnamefree : w.library.get? e.name = none := by rwa [hentityname]
    exact List.forall_mem_append.2 ⟨hw.free, List.forall_mem_singleton.2
      ⟨hkeyfree, hw.get?_eq_none hnamefree⟩⟩
  · exact nodup_map_concat hw.keys hkeys.2
  · exact nodup_map_concat hw.names fun i hi hiname => hnames i hi (hiname.trans hentityname)

/-- Asking for an instance adds at most that one. -/
theorem adds_instantiate {depth : Int} (hw : Library.Adds ceiling.dropUnderscores base made w.library)
    (ht : template ∈ w.library.entities) (hgeneric : template.isGeneric = true)
    (h : w.instantiate ceiling template args depth = .ok (e, w')) :
    ∃ made, Library.Adds ceiling.dropUnderscores base made w'.library := by
  rcases instantiate_ok h with ⟨_, _, _, rfl⟩ | ⟨hnew, hcount, _, _, hfree, he, rfl⟩
  · exact ⟨made, hw⟩
  · exact ⟨_, adds_list hw (hw.mem_base_of_isGeneric ht hgeneric) hgeneric hnew hcount rfl hfree he⟩

theorem adds_follow {depth : Nat} {found : Option Entity}
    (hw : ∃ made, Library.Adds ceiling.dropUnderscores base made w.library)
    (h : w.follow ceiling excluded owner m depth = .ok (found, w')) :
    ∃ made, Library.Adds ceiling.dropUnderscores base made w'.library := by
  obtain ⟨made, hw⟩ := hw
  rcases follow_workshop h with rfl | ⟨t, _, _, _, ht, hgeneric, hmade⟩
  · exact ⟨made, hw⟩
  · exact adds_instantiate hw ht hgeneric hmade

/-- A specialization that fails adds instances to the library and does nothing else to it: what the table had is
where it was and as it was, under its name, and so is what the instances that were there have become. -/
theorem specialize_harmless {error : SpecializationError}
    (h : w.specialize ceiling included excluded = (w', .error error)) :
    (∃ made, Library.Adds ceiling.dropUnderscores w.library made w'.library) ∧
    (∀ (n : Nat) e, w.library.entities[n]? = some e → w'.library.entities[n]? = some e) ∧
    (∀ name e, w.library.get? name = some e → w'.library.get? name = some e) ∧
    (w.library.IsCoherent → ∀ i ∈ w.library.instances, w'.library.entityOf i = w.library.entityOf i) := by
  have hrun : ∃ made, Library.Adds ceiling.dropUnderscores w.library made
      (Walk.workshopOf (Walk.run ceiling excluded (w.start included excluded))).library :=
    Walk.workshopOf_run (P := fun shop => ∃ made, Library.Adds ceiling.dropUnderscores w.library made shop.library)
      (fun _ _ _ _ _ _ => adds_follow) ⟨[], .refl _ _⟩
  have hadds : ∃ made, Library.Adds ceiling.dropUnderscores w.library made w'.library := by
    cases hwalk : Walk.run ceiling excluded (w.start included excluded) with
    | ok walk =>
      have hok := (specialize_of_walk hwalk).1
      rw [h] at hok
      cases hok
    | error failure =>
      rw [hwalk] at hrun
      rw [specialize_of_failure hwalk] at h
      cases h
      exact hrun
  obtain ⟨made, hmade⟩ := hadds
  exact ⟨⟨made, hmade⟩, fun n e => hmade.getElem?_eq, fun name e => hmade.get?_eq,
    fun hcoherent i hi => hmade.entityOf_eq hcoherent hi⟩

def benchSlot : Entity := { Entity.bare "Slot" 0 (.struct [.bare "item" (.path "T" [])]) with generics := ["T"] }

def benchUsed : Instance :=
  ⟨⟨"Slot", [.primitive .bool]⟩, makeInstance benchSlot [.primitive .bool] "Slot_bool" 1, none⟩

/-- A struct that uses a template with arguments, at first with some that have an instance, and then without. -/
def benchTool : Entity :=
  .bare "Tool" 1 (.struct [.bare "on" (.path "Slot" [.primitive .bool]),
    .bare "size" (.path "Slot" [.primitive .u8]), .bare "lid" (.path "Lid" []), .bare "rest" (.path "Slot" [])])

/-- Besides, nothing uses the scrap, and the lid is to be left out. -/
def bench : Workshop :=
  ⟨⟨[benchSlot, benchTool, .bare "Lid" 2 (.struct []),
    { Entity.bare "Scrap" 3 (.struct []) with exported := false }, benchUsed.made], [benchUsed], ["Bolt"]⟩, 2, []⟩

/-- The workshop in which the walk over the bench fails. -/
def benchLeft : Workshop :=
  list { bench with log := bench.log ++ bench.library.rootsLog [] ["Lid"] }
    (makeInstance benchSlot [.primitive .u8] "Slot_u8" 2) ⟨"Slot", [.primitive .u8]⟩

theorem isCoherent_bench : bench.library.IsCoherent where
  table := by
    unfold Library.IsTable
    decide
  keys := List.nodup_singleton _
  present := by decide
  given := by decide
  known := by decide

theorem specialize_bench : bench.specialize ⟨4, false⟩ [] ["Lid"] =
    (benchLeft, .error (.argumentsMissing "Slot" "Tool")) := by
  let logged : Workshop := { bench with log := bench.log ++ bench.library.rootsLog [] ["Lid"] }
  have hstart : bench.start [] ["Lid"] =
      ⟨logged, ["Tool", "Slot_bool"], [(benchTool, 0), (benchUsed.made, 0)]⟩ := by cbv
  have htool : Walk.visit ⟨4, false⟩ ["Lid"] benchTool 0 benchTool.mentions
      ⟨logged, ["Tool", "Slot_bool"], [(benchUsed.made, 0)]⟩ =
        .error ⟨.argumentsMissing "Slot" "Tool", benchLeft⟩ := rfl
  have hrun : Walk.run ⟨4, false⟩ ["Lid"] (bench.start [] ["Lid"]) =
      .error ⟨.argumentsMissing "Slot" "Tool", benchLeft⟩ := by
    rw [hstart, Walk.run_of_failure rfl htool]
  exact specialize_of_failure hrun

theorem specialize_harmless_bench :
    bench.specialize ⟨4, false⟩ [] ["Lid"] = (benchLeft, .error (.argumentsMissing "Slot" "Tool")) ∧
    benchLeft.library.names = ["Slot", "Tool", "Lid", "Scrap", "Slot_bool", "Slot_u8"] ∧
    (∃ made, Library.Adds false bench.library made benchLeft.library) ∧
    ∀ i ∈ bench.library.instances, benchLeft.library.entityOf i = bench.library.entityOf i :=
  have h := specialize_harmless specialize_bench
  ⟨specialize_bench, by decide, h.1, h.2.2.2 isCoherent_bench⟩

end Workshop

end CrateHeader
