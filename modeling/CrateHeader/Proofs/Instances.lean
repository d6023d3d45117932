import CrateHeader.Library.Specialization
import CrateHeader.Proofs.Table

/-!
# Making instances

What following a path can do is said once, by `instantiate_ok` and `follow_ok`. A workshop only grows: its
table is the one it started with and behind it the instances in the order of their making, each a copy of
a template with its parameters replaced, at a key of its own.
-/

namespace CrateHeader.Workshop

variable {base : Library} {ceiling : Ceiling} {excluded : List String} {w w' : Workshop}
  {template owner e : Entity} {args : List Ty} {m : Ty.Mention} {firstSeq : Nat} {dropUnderscores : Bool}

/-! ### What a step does -/

/-- An instance that is asked for was made before, or is made within the ceiling under a name that is free. -/
theorem instantiate_ok {depth : Int} (h : w.instantiate ceiling template args depth = .ok (e, w')) :
    (∃ i, w.library.instance? ⟨template.name, args⟩ = some i ∧ e = w.library.entityOf i ∧ w' = w) ∨
      (w.library.instance? ⟨template.name, args⟩ = none ∧ args.length = template.generics.length ∧
        depth ≤ ceiling.maxDepth ∧ (∀ a ∈ args, (a.depth : Int) ≤ ceiling.maxDepth) ∧
        w.library.get? (Ty.mangledName template.name args ceiling.dropUnderscores) = none ∧
        e = makeInstance template args (Ty.mangledName template.name args ceiling.dropUnderscores)
          w.nextSeq ∧
        w' = w.list e ⟨template.name, args⟩) := by
  unfold instantiate at h
  dsimp only at h
  split at h
  · next i hi =>
    cases h
    exact Or.inl ⟨i, hi, rfl, rfl⟩
  · next hnone =>
    split at h
    · cases h
    · next hcount =>
      split at h
      · cases h
      · next hdepth =>
        split at h
        · cases h
        · next hfree =>
          cases h
          simp only [not_or, Int.not_lt, gt_iff_lt, List.any_eq_true, decide_eq_true_eq, not_exists,
            not_and] at hdepth
          exact Or.inr ⟨hnone, not_not.1 hcount, hdepth.1, hdepth.2, hfree, rfl, rfl⟩

/-- A path that is followed leads nowhere, to a concrete entity or to an instance. -/
theorem follow_ok {depth : Nat} {found : Option Entity}
    (h : w.follow ceiling excluded owner m depth = .ok (found, w')) :
    (found = none ∧ w' = w ∧ (w.library.get? m.name = none ∨ m.name ∈ excluded)) ∨
      (∃ t, w.library.get? m.name = some t ∧ m.name ∉ excluded ∧ t.isGeneric = false ∧ m.args = [] ∧
        found = some t ∧ w' = w) ∨
      (∃ t e, w.library.get? m.name = some t ∧ m.name ∉ excluded ∧ t.isGeneric = true ∧ m.args ≠ [] ∧
        found = some e ∧ w.instantiate ceiling t m.args (depth + 1) = .ok (e, w')) := by
  unfold follow at h
  split at h
  · next hnone =>
    cases h
    exact Or.inl ⟨rfl, rfl, Or.inl hnone⟩
  · next t ht =>
    by_cases hexcluded : m.name ∈ excluded
    · rw [if_pos (by simpa using hexcluded)] at h
      cases h
      exact Or.inl ⟨rfl, rfl, Or.inr hexcluded⟩
    · rw [if_neg (by simpa using hexcluded)] at h
      by_cases hgeneric : t.isGeneric = true
      · rw [if_pos hgeneric] at h
        by_cases hargs : m.args = []
        · simp [hargs] at h
        · rw [if_neg (by simpa using hargs)] at h
          cases hmade : w.instantiate ceiling t m.args (depth + 1) with
          | error err => rw [hmade] at h; cases h
          | ok made =>
            obtain ⟨e, after⟩ := made
            rw [hmade] at h
            cases h
            exact Or.inr (Or.inr ⟨t, e, ht, hexcluded, hgeneric, hargs, rfl, hmade⟩)
      · rw [if_neg hgeneric] at h
        by_cases hargs : m.args = []
        · rw [if_pos (by simpa using hargs)] at h
          cases h
          exact Or.inr (Or.inl ⟨t, ht, hexcluded, by simpa using hgeneric, hargs, rfl, rfl⟩)
        · simp [hargs] at h

/-- Following a path changes a workshop only where it asks for an instance of one of its templates. -/
theorem follow_workshop {depth : Nat} {found : Option Entity}
    (h : w.follow ceiling excluded owner m depth = .ok (found, w')) :
    w' = w ∨ ∃ t args e, ∃ deeper : Int, t ∈ w.library.entities ∧ t.isGeneric = true ∧
      w.instantiate ceiling t args deeper = .ok (e, w') := by
  rcases follow_ok h with ⟨_, rfl, _⟩ | ⟨_, _, _, _, _, _, rfl⟩ | ⟨t, e, ht, _, hgeneric, _, _, hmade⟩
  · exact Or.inl rfl
  · exact Or.inl rfl
  · exact Or.inr ⟨t, m.args, e, depth + 1, Library.mem_of_get? ht, hgeneric, hmade⟩

/-- The table keeps what it has while a path is followed. -/
theorem mem_entities_of_follow {depth : Nat} {found : Option Entity} {x : Entity}
    (h : w.follow ceiling excluded owner m depth = .ok (found, w')) (hx : x ∈ w.library.entities) :
    x ∈ w'.library.entities := by
  rcases follow_workshop h with rfl | ⟨_, _, _, _, _, _, hmade⟩
  · exact hx
  · rcases instantiate_ok hmade with ⟨_, _, _, rfl⟩ | ⟨_, _, _, _, _, _, rfl⟩
    · exact hx
    · exact List.mem_append_left _ hx

theorem isTable_list {key : InstanceKey} (h : w.library.IsTable) (hfree : w.library.get? e.name = none) :
    (w.list e key).library.IsTable := by
  have hnot : e.name ∉ w.library.names := Library.get?_eq_none_iff.1 hfree
  exact nodup_map_concat h fun x hx hname => hnot (hname ▸ List.mem_map_of_mem hx)

/-- The table stays one while a path is followed. -/
theorem isTable_of_follow {depth : Nat} {found : Option Entity} (hw : w.library.IsTable)
    (h : w.follow ceiling excluded owner m depth = .ok (found, w')) : w'.library.IsTable := by
  rcases follow_workshop h with rfl | ⟨_, _, _, _, _, _, hmade⟩
  · exact hw
  · rcases instantiate_ok hmade with ⟨_, _, _, rfl⟩ | ⟨_, _, _, _, hfree, rfl, rfl⟩
    · exact hw
    · exact isTable_list hw hfree

/-! ### What a workshop is -/

/-- An instance is a copy of a template of the library at its key. -/
structure IsCopy (base : Library) (dropUnderscores : Bool) (i : Instance) (t : Entity) : Prop where
  mem : t ∈ base.entities
  generic : t.isGeneric = true
  template : i.key.template = t.name
  count : i.key.args.length = t.generics.length
  made : i.made =
    makeInstance t i.key.args (Ty.mangledName t.name i.key.args dropUnderscores) i.made.seq

/-- A workshop that started with a library and has only made instances since. -/
structure Grown (base : Library) (firstSeq : Nat) (dropUnderscores : Bool) (w : Workshop) : Prop where
  entities : w.library.entities = base.entities ++ w.library.instances.map (·.made)
  external : w.library.external = base.external
  table : w.library.IsTable
  present : ∀ i ∈ w.library.instances, i.withdrawn = none
  copies : ∀ i ∈ w.library.instances, ∃ t, IsCopy base dropUnderscores i t
  keys : (w.library.instances.map (·.key)).Nodup
  seqs : w.library.instances.map (·.made.seq) = List.range' firstSeq w.library.instances.length
  nextSeq : w.nextSeq = firstSeq + w.library.instances.length

theorem grown_start (htable : w.library.IsTable) (hfresh : w.library.instances = []) :
    Grown w.library w.nextSeq dropUnderscores w where
  entities := by simp [hfresh]
  external := rfl
  table := htable
  present := by simp [hfresh]
  copies := by simp [hfresh]
  keys := by simp [hfresh]
  seqs := by simp [hfresh]
  nextSeq := by simp [hfresh]

namespace Grown

variable (hw : Grown base firstSeq dropUnderscores w)
include hw

theorem mem_entities : e ∈ w.library.entities ↔
    e ∈ base.entities ∨ ∃ i ∈ w.library.instances, i.made = e := by
  rw [hw.entities, List.mem_append, List.mem_map]

theorem isTable_base : base.IsTable := by
  have h := hw.table
  unfold Library.IsTable Library.names at h
  rw [hw.entities, List.map_append] at h
  exact (List.nodup_append.1 h).1

theorem not_isGeneric_of_instance {i : Instance} (hi : i ∈ w.library.instances) :
    i.made.isGeneric = false := by
  obtain ⟨t, ht⟩ := hw.copies i hi
  rw [ht.made]
  rfl

theorem not_mem_base_of_instance {i : Instance} (hi : i ∈ w.library.instances) :
    i.made ∉ base.entities := by
  intro hmem
  have h := hw.table
  unfold Library.IsTable Library.names at h
  rw [hw.entities, List.map_append] at h
  exact (List.nodup_append.1 h).2.2 _ (List.mem_map_of_mem hmem) _
    (List.mem_map_of_mem (List.mem_map_of_mem hi)) rfl

/-- A template of the table was there from the start. -/
theorem mem_base_of_isGeneric (he : e ∈ w.library.entities) (hgeneric : e.isGeneric = true) :
    e ∈ base.entities := by
  rcases hw.mem_entities.1 he with hbase | ⟨i, hi, rfl⟩
  · exact hbase
  · rw [hw.not_isGeneric_of_instance hi] at hgeneric
    cases hgeneric

theorem entityOf_eq {i : Instance} (hi : i ∈ w.library.instances) : w.library.entityOf i = i.made := by
  have hmem : i.made ∈ w.library.entities := hw.mem_entities.2 (Or.inr ⟨i, hi, rfl⟩)
  have hget : w.library.get? i.name = some i.made := Library.get?_of_mem hw.table hmem
  simp [Library.entityOf, hw.present i hi, hget]

/-- An instance is a copy of the template that its key names. -/
theorem made_eq {i : Instance} (hi : i ∈ w.library.instances) (ht : template ∈ base.entities)
    (hkey : i.key = ⟨template.name, args⟩) :
    i.made = makeInstance template args (Ty.mangledName template.name args dropUnderscores)
      i.made.seq := by
  obtain ⟨t, hcopy⟩ := hw.copies i hi
  have htemplate : t = template := by
    refine Library.eq_of_name_eq hw.isTable_base hcopy.mem ht ?_
    rw [← hcopy.template, hkey]
  have hmade := hcopy.made
  rw [htemplate, hkey] at hmade
  exact hmade

/-- What the table finds under the name of an entity of the start. -/
theorem get?_of_mem_base (he : e ∈ base.entities) : w.library.get? e.name = some e :=
  Library.get?_of_mem hw.table (hw.mem_entities.2 (Or.inl he))

theorem list {name : String} (ht : template ∈ base.entities) (hgeneric : template.isGeneric = true)
    (hnew : w.library.instance? ⟨template.name, args⟩ = none)
    (hcount : args.length = template.generics.length)
    (hname : name = Ty.mangledName template.name args dropUnderscores)
    (hfree : w.library.get? name = none) :
    Grown base firstSeq dropUnderscores
      (w.list (makeInstance template args name w.nextSeq) ⟨template.name, args⟩) where
  entities := by simp [Workshop.list, hw.entities]
  external := hw.external
  table := isTable_list hw.table hfree
  present := by
    intro i hi
    rcases List.mem_append.1 hi with hi | hi
    · exact hw.present i hi
    · rw [List.mem_singleton.1 hi]
  copies := by
    intro i hi
    rcases List.mem_append.1 hi with hi | hi
    · exact hw.copies i hi
    · rw [List.mem_singleton.1 hi]
      exact ⟨template, ht, hgeneric, rfl, hcount, by rw [hname]; rfl⟩
  keys := nodup_map_concat hw.keys (Library.instance?_eq_none_iff.1 hnew)
  seqs := by
    simp only [Workshop.list, List.map_append, List.map_singleton, List.length_append,
      List.length_singleton, hw.seqs, List.range'_concat, Nat.one_mul]
    rw [show (makeInstance template args name w.nextSeq).seq = w.nextSeq from rfl, hw.nextSeq]
  nextSeq := by
    simp only [Workshop.list, List.length_append, List.length_singleton, hw.nextSeq]
    omega

/-- Asking for an instance leaves a workshop that has it. -/
theorem instantiate {depth : Int} (ht : template ∈ base.entities) (hgeneric : template.isGeneric = true)
    (hdrop : ceiling.dropUnderscores = dropUnderscores)
    (h : w.instantiate ceiling template args depth = .ok (e, w')) :
    Grown base firstSeq dropUnderscores w' ∧
      ∃ i ∈ w'.library.instances, i.key = ⟨template.name, args⟩ ∧ i.made = e ∧
        (w' = w ∨ w'.library.instances = w.library.instances ++ [i]) := by
  rcases instantiate_ok h with ⟨i, hi, rfl, rfl⟩ | ⟨hnew, hcount, _, _, hfree, rfl, rfl⟩
  · have hmem := List.mem_of_find?_eq_some hi
    have hkey : i.key = ⟨template.name, args⟩ := by simpa using List.find?_some hi
    exact ⟨hw, i, hmem, hkey, (hw.entityOf_eq hmem).symm, Or.inl rfl⟩
  · refine ⟨hw.list ht hgeneric hnew hcount (by rw [hdrop]) hfree, ⟨⟨template.name, args⟩, _, none⟩, ?_,
      rfl, rfl, Or.inr rfl⟩
    exact List.mem_append_right _ (List.mem_singleton.2 rfl)

end Grown

end CrateHeader.Workshop
