import CrateHeader.Proofs.Specializing

/-!
# Renaming to instances

What specialization makes of the references of an entity. A reference is looked at as the walk saw it: as it
was declared, or with the arguments of an instance in the place of the parameters. In it every outer path
that leads to a template has become the name of the instance it selects, and nothing else has changed but
paths inside the arguments of other outer paths.
-/

namespace CrateHeader

namespace Ty

variable {isTemplate : String → Prop} {named : String → List Ty → String → Prop}
  {rename : String → List Ty → Option String} {name : String}

/-- Paths that have an instance may have become its name; all else stands as it was. -/
inductive MayRename (named : String → List Ty → String → Prop) : Ty → Ty → Prop where
  | primitive (kind : Primitive) : MayRename named (.primitive kind) (.primitive kind)
  | named {name : String} {args : List Ty} {instanceName : String} (h : named name args instanceName) :
      MayRename named (.path name args) (.path instanceName [])
  | path {name : String} {args args' : List Ty} (hargs : List.Forall₂ (MayRename named) args args') :
      MayRename named (.path name args) (.path name args')
  | pointer {target target' : Ty} {isMut nullable : Bool} (htarget : MayRename named target target') :
      MayRename named (.pointer target isMut nullable) (.pointer target' isMut nullable)
  | array {element element' : Ty} {length : String} (helement : MayRename named element element') :
      MayRename named (.array element length) (.array element' length)
  | function {params params' : List (Option String × Ty)} {ret ret' : Ty} {never : Bool}
      (hnames : params.map Prod.fst = params'.map Prod.fst)
      (hparams : List.Forall₂ (MayRename named) (params.map Prod.snd) (params'.map Prod.snd))
      (hret : MayRename named ret ret') :
      MayRename named (.function params ret never) (.function params' ret' never)

/-- Every outer path to a template has become the name of an instance; inside the arguments of other outer
paths, paths may have been renamed; all else stands as it was. -/
inductive Renames (isTemplate : String → Prop) (named : String → List Ty → String → Prop) :
    Ty → Ty → Prop where
  | primitive (kind : Primitive) : Renames isTemplate named (.primitive kind) (.primitive kind)
  | template {name : String} {args : List Ty} {instanceName : String} (htemplate : isTemplate name)
      (h : named name args instanceName) :
      Renames isTemplate named (.path name args) (.path instanceName [])
  | other {name : String} {args args' : List Ty} (hother : ¬ isTemplate name)
      (hargs : List.Forall₂ (MayRename named) args args') :
      Renames isTemplate named (.path name args) (.path name args')
  | pointer {target target' : Ty} {isMut nullable : Bool}
      (htarget : Renames isTemplate named target target') :
      Renames isTemplate named (.pointer target isMut nullable) (.pointer target' isMut nullable)
  | array {element element' : Ty} {length : String}
      (helement : Renames isTemplate named element element') :
      Renames isTemplate named (.array element length) (.array element' length)
  | function {params params' : List (Option String × Ty)} {ret ret' : Ty} {never : Bool}
      (hnames : params.map Prod.fst = params'.map Prod.fst)
      (hparams : List.Forall₂ (Renames isTemplate named) (params.map Prod.snd) (params'.map Prod.snd))
      (hret : Renames isTemplate named ret ret') :
      Renames isTemplate named (.function params ret never) (.function params' ret' never)

/-! ### What replacing paths does -/

theorem replacePaths_of_some {first : Ty} {rest : List Ty} {n : String}
    (h : rename name (first :: rest) = some n) :
    (path name (first :: rest)).replacePaths rename = path n [] := by
  simp [replacePaths, h]

theorem replacePaths_of_none {first : Ty} {rest : List Ty} (h : rename name (first :: rest) = none) :
    (path name (first :: rest)).replacePaths rename =
      path name (replacePathsAll rename (first :: rest)) := by
  simp [replacePaths, h]

theorem replacePathsParams_eq_map (rename : String → List Ty → Option String)
    (params : List (Option String × Ty)) :
    replacePathsParams rename params = params.map fun p => (p.1, p.2.replacePaths rename) := by
  induction params with
  | nil => rfl
  | cons p rest ih => rw [replacePathsParams, ih, List.map_cons]

theorem map_fst_replacePathsParams (rename : String → List Ty → Option String)
    (params : List (Option String × Ty)) :
    params.map Prod.fst = (replacePathsParams rename params).map Prod.fst := by
  rw [replacePathsParams_eq_map, List.map_map]
  rfl

mutual
theorem mayRename_replacePaths (hnamed : ∀ name args n, rename name args = some n → named name args n) :
    (ty : Ty) → MayRename named ty (ty.replacePaths rename)
  | .primitive kind => .primitive kind
  | .path name [] => .path .nil
  | .path name (first :: rest) => by
    cases h : rename name (first :: rest) with
    | some n =>
      rw [replacePaths_of_some h]
      exact .named (hnamed _ _ _ h)
    | none =>
      rw [replacePaths_of_none h]
      exact .path (mayRename_replacePathsAll hnamed (first :: rest))
  | .pointer target _ _ => .pointer (mayRename_replacePaths hnamed target)
  | .array element _ => .array (mayRename_replacePaths hnamed element)
  | .function params ret _ =>
    .function (map_fst_replacePathsParams rename params) (mayRename_replacePathsParams hnamed params)
      (mayRename_replacePaths hnamed ret)

theorem mayRename_replacePathsAll (hnamed : ∀ name args n, rename name args = some n → named name args n) :
    (tys : List Ty) → List.Forall₂ (MayRename named) tys (replacePathsAll rename tys)
  | [] => .nil
  | ty :: rest => .cons (mayRename_replacePaths hnamed ty) (mayRename_replacePathsAll hnamed rest)

theorem mayRename_replacePathsParams
    (hnamed : ∀ name args n, rename name args = some n → named name args n) :
    (params : List (Option String × Ty)) →
      List.Forall₂ (MayRename named) (params.map Prod.snd) ((replacePathsParams rename params).map Prod.snd)
  | [] => .nil
  | (_, ty) :: rest => .cons (mayRename_replacePaths hnamed ty) (mayRename_replacePathsParams hnamed rest)
end

mutual
/-- Replacing paths renames every outer path to a template, if each of them selects an instance and nothing
but templates has instances. -/
theorem renames_replacePaths (hnamed : ∀ name args n, rename name args = some n → named name args n)
    (hother : ∀ name args, ¬ isTemplate name → rename name args = none) :
    (ty : Ty) → (behind : Bool) →
      (∀ m ∈ ty.mentions behind, isTemplate m.name → m.args ≠ [] ∧ ∃ n, rename m.name m.args = some n) →
      Renames isTemplate named ty (ty.replacePaths rename)
  | .primitive kind, _, _ => .primitive kind
  | .path name [], behind, h => by
    refine .other (fun htemplate => ?_) .nil
    exact (h ⟨name, [], behind⟩ (by simp [mentions]) htemplate).1 rfl
  | .path name (first :: rest), behind, h => by
    by_cases htemplate : isTemplate name
    · obtain ⟨_, n, hn⟩ := h ⟨name, first :: rest, behind⟩ (by simp [mentions]) htemplate
      rw [replacePaths_of_some hn]
      exact .template htemplate (hnamed _ _ _ hn)
    · rw [replacePaths_of_none (hother name _ htemplate)]
      exact .other htemplate (mayRename_replacePathsAll hnamed (first :: rest))
  | .pointer target _ _, _, h => .pointer (renames_replacePaths hnamed hother target true h)
  | .array element _, behind, h => .array (renames_replacePaths hnamed hother element behind h)
  | .function params ret _, _, h =>
    .function (map_fst_replacePathsParams rename params)
      (renames_replacePathsParams hnamed hother params fun m hm => h m (List.mem_append_left _ hm))
      (renames_replacePaths hnamed hother ret true fun m hm => h m (List.mem_append_right _ hm))

theorem renames_replacePathsParams (hnamed : ∀ name args n, rename name args = some n → named name args n)
    (hother : ∀ name args, ¬ isTemplate name → rename name args = none) :
    (params : List (Option String × Ty)) →
      (∀ m ∈ mentionsParams params, isTemplate m.name → m.args ≠ [] ∧ ∃ n, rename m.name m.args = some n) →
      List.Forall₂ (Renames isTemplate named) (params.map Prod.snd)
        ((replacePathsParams rename params).map Prod.snd)
  | [], _ => .nil
  | (_, ty) :: rest, h =>
    .cons (renames_replacePaths hnamed hother ty true fun m hm => h m (List.mem_append_left _ hm))
      (renames_replacePathsParams hnamed hother rest fun m hm => h m (List.mem_append_right _ hm))
end

end Ty

namespace Library

variable {lib lib' : Library} {excluded : List String} {name n : String} {args : List Ty} {i : Instance}

/-- A declared template that is not left out. -/
def IsTemplate (lib : Library) (excluded : List String) (name : String) : Prop :=
  name ∉ excluded ∧ ∃ t ∈ lib.entities, t.name = name ∧ t.isGeneric = true

/-- A name is that of the instance made of a template at some arguments. -/
def Names (lib : Library) (template : String) (args : List Ty) (name : String) : Prop :=
  ∃ i ∈ lib.instances, i.made.instanceOf = some ⟨template, args⟩ ∧ i.name = name

/-- Instances that were recorded alike have keys and names alike. -/
theorem exists_instance_of_recorded_eq (h : lib.recorded = lib'.recorded) (hi : i ∈ lib.instances) :
    ∃ j ∈ lib'.instances, j.key = i.key ∧ j.made = i.made := by
  have hmem : (i.key, i.made) ∈ lib.recorded := List.mem_map_of_mem hi
  rw [h] at hmem
  obtain ⟨j, hj, heq⟩ := List.mem_map.1 hmem
  exact ⟨j, hj, congrArg Prod.fst heq, congrArg Prod.snd heq⟩

theorem map_key_recorded (lib : Library) : lib.recorded.map Prod.fst = lib.instances.map (·.key) := by
  simp [recorded, Function.comp_def]

theorem map_name_recorded (lib : Library) :
    lib.recorded.map (fun p => p.2.name) = lib.instances.map Instance.name := by
  simp only [recorded, List.map_map]
  rfl

theorem key_of_instanceName? (h : lib.instanceName? name args = some n) :
    ∃ i ∈ lib.instances, i.key = ⟨name, args⟩ ∧ i.name = n := by
  obtain ⟨i, hi, hname⟩ := Option.map_eq_some_iff.1 h
  exact ⟨i, List.mem_of_find?_eq_some hi, by simpa using List.find?_some hi, hname⟩

theorem exists_instanceName? (hi : i ∈ lib.instances) (hkey : i.key = ⟨name, args⟩) :
    ∃ n, lib.instanceName? name args = some n := by
  have hsome : (lib.instance? ⟨name, args⟩).isSome = true :=
    List.find?_isSome.2 ⟨i, hi, by simpa using hkey⟩
  obtain ⟨j, hj⟩ := Option.isSome_iff_exists.1 hsome
  exact ⟨j.name, by rw [instanceName?, hj]; rfl⟩

end Library

namespace Workshop

namespace Grown

variable {base : Library} {w : Workshop} {firstSeq : Nat} {dropUnderscores : Bool} {i : Instance}
  (hw : Grown base firstSeq dropUnderscores w)
include hw

theorem instanceOf_made (hi : i ∈ w.library.instances) : i.made.instanceOf = some i.key := by
  obtain ⟨t, ht⟩ := hw.copies i hi
  rw [ht.made]
  show some (InstanceKey.mk t.name i.key.args) = some i.key
  rw [← ht.template]

/-- A template has parameters, so its instances have arguments. -/
theorem args_ne_nil (hi : i ∈ w.library.instances) : i.key.args ≠ [] := by
  obtain ⟨t, ht⟩ := hw.copies i hi
  intro hnil
  have hcount := ht.count
  have hgeneric := ht.generic
  rw [hnil] at hcount
  simp [Entity.isGeneric, List.length_eq_zero_iff.1 hcount.symm] at hgeneric

/-- Instances stand in one table, so no two of them share a name. -/
theorem nodup_names : (w.library.instances.map Instance.name).Nodup := by
  have htable := hw.table
  unfold Library.IsTable Library.names at htable
  rw [hw.entities, List.map_append, List.map_map] at htable
  exact (List.nodup_append.1 htable).2.1

end Grown

end Workshop

namespace Walk

variable {base : Library} {included excluded : List String} {w : Walk} {owner e : Entity}
  {firstSeq : Nat} {dropUnderscores : Bool} {i : Instance} {m : Ty.Mention}

namespace Inv

variable (hw : Inv base firstSeq dropUnderscores included excluded owner [] w)
include hw

/-- Only templates that are not left out have instances. -/
theorem isTemplate_of_instance (hi : i ∈ w.workshop.library.instances) :
    base.IsTemplate excluded i.key.template := by
  obtain ⟨t, args, hs, hmade⟩ := hw.copied i hi
  have hkey := hw.grown.instanceOf_made hi
  rw [hmade] at hkey
  have hkey : i.key = ⟨t.name, args⟩ := (Option.some.inj hkey).symm
  rw [hkey]
  cases hs with
  | generic _ _ hkept ht hgeneric =>
    refine ⟨?_, t, Library.mem_of_get? ht, rfl, hgeneric⟩
    rwa [Library.name_of_get? ht]

/-- With nothing left to visit, a path to a template selects an instance. -/
theorem selects (hq : w.queue = []) (he : e ∈ w.workshop.library.entities) (hreached : e.name ∈ w.reached)
    (hm : m ∈ e.mentions) (htemplate : base.IsTemplate excluded m.name) :
    m.args ≠ [] ∧ ∃ n, w.workshop.library.instanceName? m.name m.args = some n := by
  obtain ⟨hkept, t, ht, hname, hgeneric⟩ := htemplate
  have hget := Library.get?_of_mem hw.grown.isTable_base ht
  rw [hname] at hget
  obtain ⟨i, hi, hkey⟩ := (hw.followed_of_reached hq he hreached hm hkept t hget).2 hgeneric
  rw [hname] at hkey
  have hargs := hw.grown.args_ne_nil hi
  rw [hkey] at hargs
  exact ⟨hargs, Library.exists_instanceName? hi hkey⟩

/-- With nothing left to visit, renaming a reference of what is reached renames every path to a template. -/
theorem renames {named : String → List Ty → String → Prop} {ty : Ty} (hq : w.queue = [])
    (hnamed : ∀ name args n, w.workshop.library.instanceName? name args = some n → named name args n)
    (he : e ∈ w.workshop.library.entities) (hreached : e.name ∈ w.reached) (hty : ty ∈ e.body.types) :
    Ty.Renames (base.IsTemplate excluded) named ty
      (ty.replacePaths w.workshop.library.instanceName?) := by
  refine Ty.renames_replacePaths hnamed (fun name args hother => ?_) ty false fun m hm htemplate => ?_
  · cases hname : w.workshop.library.instanceName? name args with
    | none => rfl
    | some n =>
      obtain ⟨i, hi, hkey, _⟩ := Library.key_of_instanceName? hname
      have htemplate := hw.isTemplate_of_instance hi
      rw [hkey] at htemplate
      exact absurd htemplate hother
  · exact hw.selects hq he hreached (List.mem_flatMap.2 ⟨ty, hty, hm⟩) htemplate

end Inv

end Walk

namespace Workshop

variable {ceiling : Ceiling} {included excluded : List String} {w w' : Workshop}

/-- Every reference of what survives is the one that the walk saw with the paths to templates renamed to
the instances they select. The walk saw references as they were declared, those of an instance with the arguments for
the parameters of the template. An instance is found by its key and by its name, and is in the table under its
name unless that is left out. -/
theorem specialize_faithful (htable : w.library.IsTable) (hfresh : w.library.instances = [])
    (h : w.specialize ceiling included excluded = (w', .ok ())) :
    (∀ e ∈ w'.library.entities, ∃ s seq f, OnSurface w.library included excluded s ∧
      s.HasReferences (s.entity ceiling.dropUnderscores seq).body.types ∧
      e = (s.entity ceiling.dropUnderscores seq).mapTypes f ∧
      ∀ ty ∈ (s.entity ceiling.dropUnderscores seq).body.types,
        Ty.Renames (w.library.IsTemplate excluded) w'.library.Names ty (f ty)) ∧
    (∀ i ∈ w'.library.instances, i.made.instanceOf = some i.key ∧
      (i.name ∉ excluded → ∃ e ∈ w'.library.entities, e.name = i.name ∧ e.instanceOf = some i.key)) ∧
    ∀ i ∈ w'.library.instances, ∀ j ∈ w'.library.instances,
      (i.key = j.key → i = j) ∧ (i.name = j.name → i = j) := by
  obtain ⟨walk, owner, hinv, hq, hlib⟩ := specialize_ok htable hfresh h
  have hrecorded : w'.library.recorded = walk.workshop.library.recorded := by
    rw [hlib]
    exact Library.recorded_keepReached
  have hnamed : ∀ name args n, walk.workshop.library.instanceName? name args = some n →
      w'.library.Names name args n := by
    intro name args n hname
    obtain ⟨j, hj, hkey, rfl⟩ := Library.key_of_instanceName? hname
    obtain ⟨i, hi, _, hmade⟩ := Library.exists_instance_of_recorded_eq hrecorded.symm hj
    refine ⟨i, hi, ?_, congrArg Entity.name hmade⟩
    rw [hmade, hinv.grown.instanceOf_made hj, hkey]
  refine ⟨fun e he => ?_, fun i hi => ?_, fun i hi j hj => ⟨?_, ?_⟩⟩
  · rw [hlib, Library.entities_keepReached] at he
    obtain ⟨x, hx, rfl⟩ := List.mem_map.1 he
    obtain ⟨hmem, hreached, _⟩ := Library.mem_survivors.1 hx
    obtain ⟨s, seq, hs, rfl⟩ := hinv.sound hmem hreached
    exact ⟨s, seq, _, hs, s.hasReferences_entity _ _, rfl, fun ty hty => hinv.renames hq hnamed hmem hreached hty⟩
  · obtain ⟨j, hj, hkey, hmade⟩ := Library.exists_instance_of_recorded_eq hrecorded hi
    have hinstance : i.made.instanceOf = some i.key := by
      rw [← hmade, hinv.grown.instanceOf_made hj, hkey]
    refine ⟨hinstance, fun hkept => ?_⟩
    have hmem : i.made ∈ walk.workshop.library.entities :=
      hinv.grown.mem_entities.2 (Or.inr ⟨j, hj, hmade⟩)
    have hreached : i.name ∈ walk.reached := by
      have h := hinv.made j hj
      rwa [Instance.name, hmade] at h
    rw [hlib, Library.entities_keepReached]
    exact ⟨_, List.mem_map_of_mem (Library.mem_survivors.2 ⟨hmem, hreached, hkept⟩), rfl, hinstance⟩
  · have hkeys : (w'.library.instances.map (·.key)).Nodup := by
      rw [← Library.map_key_recorded, hrecorded, Library.map_key_recorded]
      exact hinv.grown.keys
    exact List.inj_on_of_nodup_map hkeys hi hj
  · have hnames : (w'.library.instances.map Instance.name).Nodup := by
      rw [← Library.map_name_recorded, hrecorded, Library.map_name_recorded]
      exact hinv.grown.nodup_names
    exact List.inj_on_of_nodup_map hnames hi hj

/-- A template that mentions itself. -/
def cabinetPair : Entity :=
  { Entity.bare "Pair" 0 (.struct [.bare "first" (.path "T" []),
      .bare "next" (.pointer (.path "Pair" [.path "T" []]) true true)]) with generics := ["T"] }

/-- A struct with a template at nested arguments in an array and in a callback, and with a path to a name
that an included header provides. -/
def cabinetShelf : Entity := .bare "Shelf" 1 (.struct [
  .bare "pairs" (.array (.path "Pair" [.path "Pair" [.primitive .bool]]) "2"),
  .bare "call" (.function [(some "pair", .path "Pair" [.path "Pair" [.primitive .bool]])] .void false),
  .bare "lock" (.path "Lock" [.path "Pair" [.primitive .bool], .path "Lost" [.primitive .bool]])])

def cabinet : Workshop := ⟨⟨[cabinetPair, cabinetShelf], [], ["Lock"]⟩, 1, []⟩

theorem specialize_cabinet : (cabinet.specialize ⟨4, false⟩ [] []).2 = .ok () ∧
    (cabinet.specialize ⟨4, false⟩ [] []).1.library.entities.map (fun e => (e.name, e.body.types)) =
      [("Shelf", [.array (.path "Pair_Pair_bool__" []) "2",
          .function [(some "pair", .path "Pair_Pair_bool__" [])] .void false,
          .path "Lock" [.path "Pair_bool" [], .path "Lost" [.primitive .bool]]]),
        ("Pair_Pair_bool__", [.path "Pair_bool" [], .pointer (.path "Pair_Pair_bool__" []) true true]),
        ("Pair_bool", [.primitive .bool, .pointer (.path "Pair_bool" []) true true])] := by
  let outer := makeInstance cabinetPair [.path "Pair" [.primitive .bool]] "Pair_Pair_bool__" 1
  let inner := makeInstance cabinetPair [.primitive .bool] "Pair_bool" 2
  let first := cabinet.list outer ⟨"Pair", [.path "Pair" [.primitive .bool]]⟩
  let second := first.list inner ⟨"Pair", [.primitive .bool]⟩
  have hshelf : Walk.visit ⟨4, false⟩ [] cabinetShelf 0 cabinetShelf.mentions ⟨cabinet, ["Shelf"], []⟩ =
      .ok ⟨first, ["Pair_Pair_bool__", "Shelf"], [(outer, 1)]⟩ := by cbv
  have houter : Walk.visit ⟨4, false⟩ [] outer 1 outer.mentions
      ⟨first, ["Pair_Pair_bool__", "Shelf"], []⟩ =
      .ok ⟨second, ["Pair_bool", "Pair_Pair_bool__", "Shelf"], [(inner, 2)]⟩ := by cbv
  have hinner : Walk.visit ⟨4, false⟩ [] inner 2 inner.mentions
      ⟨second, ["Pair_bool", "Pair_Pair_bool__", "Shelf"], []⟩ =
      .ok ⟨second, ["Pair_bool", "Pair_Pair_bool__", "Shelf"], []⟩ := by cbv
  have hwalk : Walk.run ⟨4, false⟩ [] ⟨cabinet, ["Shelf"], [(cabinetShelf, 0)]⟩ =
      .ok ⟨second, ["Pair_bool", "Pair_Pair_bool__", "Shelf"], []⟩ := by
    rw [Walk.run_of_visit rfl hshelf, Walk.run_of_visit rfl houter, Walk.run_of_visit rfl hinner,
      Walk.run_of_nil rfl]
  have hstart : (⟨{ cabinet with log := cabinet.log ++ cabinet.library.rootsLog [] [] },
      (cabinet.library.roots [] []).map (·.name), (cabinet.library.roots [] []).map fun e => (e, 0)⟩ : Walk) =
      ⟨cabinet, ["Shelf"], [(cabinetShelf, 0)]⟩ := by cbv
  unfold specialize
  dsimp only
  rw [hstart, hwalk]
  refine ⟨rfl, ?_⟩
  cbv

theorem specialize_faithful_cabinet : cabinet.library.IsTable ∧ cabinet.library.instances = [] ∧
    ∃ w', cabinet.specialize ⟨4, false⟩ [] [] = (w', .ok ()) ∧
      w'.library.entities.map (fun e => (e.name, e.body.types)) =
        [("Shelf", [.array (.path "Pair_Pair_bool__" []) "2",
            .function [(some "pair", .path "Pair_Pair_bool__" [])] .void false,
            .path "Lock" [.path "Pair_bool" [], .path "Lost" [.primitive .bool]]]),
          ("Pair_Pair_bool__", [.path "Pair_bool" [], .pointer (.path "Pair_Pair_bool__" []) true true]),
          ("Pair_bool", [.primitive .bool, .pointer (.path "Pair_bool" []) true true])] ∧
      ∀ e ∈ w'.library.entities, ∃ s seq f, OnSurface cabinet.library [] [] s ∧
        s.HasReferences (s.entity false seq).body.types ∧
        e = (s.entity false seq).mapTypes f ∧
        ∀ ty ∈ (s.entity false seq).body.types,
          Ty.Renames (cabinet.library.IsTemplate []) w'.library.Names ty (f ty) := by
  have htable : cabinet.library.IsTable := by
    unfold Library.IsTable
    decide
  have hrun : cabinet.specialize ⟨4, false⟩ [] [] = ((cabinet.specialize ⟨4, false⟩ [] []).1, .ok ()) :=
    Prod.ext rfl specialize_cabinet.1
  exact ⟨htable, rfl, _, hrun, specialize_cabinet.2, (specialize_faithful htable rfl hrun).1⟩

end Workshop

end CrateHeader
