import CrateHeader.Library
import Mathlib.Data.List.Nodup

/-!
# Tables

An entity is found by its name, so a library is a table only when no two of its entities share one. Every
operation of a library keeps that; an entity is added only where its name is free.
-/

namespace CrateHeader

/-- An exported entity of which only the name, the place and the body are given. -/
def Entity.bare (name : String) (index : Nat) (body : Body) : Entity where
  name := name
  exportName := name
  generics := []
  docs := []
  cfg := none
  annotations := []
  crate := "crate"
  index := index
  exported := true
  instanceOf := none
  seq := 0
  synthetic := false
  body := body

theorem Entity.body_of_opaque {e : Entity} (h : e.kind = .opaqueType) : e.body = .opaqueType := by
  unfold Entity.kind at h
  cases hbody : e.body <;> simp [hbody, Body.kind] at h
  rfl

/-- A field of which only the name and the type are given. -/
def Field.bare (name : String) (ty : Ty) : Field := ⟨name, name, ty, [], none⟩

/-- One more member of a list differs from the others in something in which they differ from each other. -/
theorem nodup_map_concat {α β : Type} {f : α → β} {l : List α} {a : α} (h : (l.map f).Nodup)
    (hnew : ∀ x ∈ l, f x ≠ f a) : ((l ++ [a]).map f).Nodup := by
  rw [List.map_append, List.map_singleton]
  refine List.Nodup.append h (List.nodup_singleton _) ?_
  rw [List.disjoint_singleton, List.mem_map]
  rintro ⟨x, hx, hsame⟩
  exact hnew x hx hsame

/-- A member of a list with one more at its end is that one, or it is a member of the list. -/
theorem concat_eq_append_cons {α : Type} {l earlier later : List α} {a x : α}
    (h : l ++ [a] = earlier ++ x :: later) :
    (l = earlier ∧ a = x) ∨ ∃ between, l = earlier ++ x :: between := by
  rcases List.eq_nil_or_concat later with rfl | ⟨between, last, rfl⟩
  · obtain ⟨hl, ha⟩ := List.append_inj' h rfl
    exact .inl ⟨hl, List.singleton_inj.1 ha⟩
  · rw [List.concat_eq_append, ← List.cons_append, ← List.append_assoc] at h
    exact .inr ⟨between, (List.append_inj' h rfl).1⟩

namespace Library

variable {lib : Library} {e e' : Entity} {name : String}

/-- There is one entity to a name. -/
def IsTable (lib : Library) : Prop := lib.names.Nodup

/-- No type of a library is a template, which is what specialization leaves. -/
def IsConcrete (lib : Library) : Prop :=
  ∀ e ∈ lib.entities, e.isType = true → e.isGeneric = false

theorem get?_of_mem (h : lib.IsTable) (he : e ∈ lib.entities) : lib.get? e.name = some e := by
  obtain ⟨front, rest, hsplit⟩ := List.append_of_mem he
  have hfront : front.find? (fun x => x.name == e.name) = none := by
    refine List.find?_eq_none.2 fun x hx => ?_
    unfold IsTable names at h
    rw [hsplit, List.map_append, List.nodup_append] at h
    simpa using h.2.2 x.name (List.mem_map_of_mem hx) e.name (by simp)
  simp [get?, hsplit, hfront]

theorem get?_eq_some_iff (h : lib.IsTable) :
    lib.get? name = some e ↔ e ∈ lib.entities ∧ e.name = name := by
  constructor
  · exact fun hg => ⟨mem_of_get? hg, name_of_get? hg⟩
  · rintro ⟨he, rfl⟩
    exact get?_of_mem h he

theorem eq_of_name_eq (h : lib.IsTable) (he : e ∈ lib.entities) (he' : e' ∈ lib.entities)
    (hname : e.name = e'.name) : e = e' := by
  have h₁ := get?_of_mem h he
  rw [hname, get?_of_mem h he'] at h₁
  exact (Option.some.inj h₁).symm

theorem get?_eq_none_iff : lib.get? name = none ↔ name ∉ lib.names := by
  simp [get?, names]

theorem contains_iff : lib.contains name = true ↔ name ∈ lib.names := by
  rw [contains, Option.isSome_iff_ne_none, ne_eq, get?_eq_none_iff, not_not]

theorem instance?_eq_none_iff {key : InstanceKey} :
    lib.instance? key = none ↔ ∀ i ∈ lib.instances, i.key ≠ key := by
  simp [instance?]

theorem nodup_entities (h : lib.IsTable) : lib.entities.Nodup := List.Nodup.of_map _ h

/-! ### What keeps a table a table -/

theorem isTable_empty (external : List String) : (empty external).IsTable := List.nodup_nil

theorem names_push : (lib.push e).names = lib.names ++ [e.name] := by
  simp [push, names]

theorem isTable_push (h : lib.IsTable) (hfree : lib.contains e.name = false) :
    (lib.push e).IsTable := by
  have hnot : e.name ∉ lib.names := by
    rw [← contains_iff, hfree]
    decide
  exact nodup_map_concat h fun x hx hname => hnot (hname ▸ List.mem_map_of_mem hx)

theorem names_erase : (lib.erase e).names = lib.names.filter (· != e.name) := by
  simp [erase, names, List.filter_map, Function.comp_def]

theorem isTable_erase (h : lib.IsTable) : (lib.erase e).IsTable := by
  unfold IsTable
  rw [names_erase]
  exact h.filter _

theorem names_replace (hname : e'.name = e.name) : (lib.replace e e').names = lib.names := by
  simp only [replace, names, List.map_map]
  refine List.map_congr_left fun x _ => ?_
  by_cases hx : x.name = e.name
  · simp [hx, hname]
  · simp [hx]

theorem names_mapEntities {f : Entity → Entity} (hf : ∀ e, (f e).name = e.name) :
    (lib.mapEntities f).names = lib.names := by
  simp [mapEntities, names, Function.comp_def, hf]

end Library

end CrateHeader
