import CrateHeader.Proofs.Mentioning

/-!
# Stubs for what was pruned

A declaration is enough where a type is used behind a pointer, and of a path that is an argument nothing is known
until its template is instantiated. So a removed type that something left mentions in such a place gets a stub, an
opaque type that keeps its identity, and a removed type that is mentioned nowhere else than by value gets none.
-/

namespace CrateHeader

/-! ### Mentions that need a stub -/

namespace Ty

mutual
/-- The mentions of a type are its outer paths, each followed by all paths in its arguments. -/
theorem stubMentions_eq (inArguments behind : Bool) : (t : Ty) → t.stubMentions inArguments behind =
    (t.mentions behind).flatMap fun m => ⟨m.name, m.behindPointer, inArguments⟩ :: stubMentionsAll m.args
  | primitive _ => rfl
  | path name args => by
    rw [stubMentions, mentions, List.flatMap_singleton]
  | pointer target _ _ => stubMentions_eq inArguments true target
  | array element _ => stubMentions_eq inArguments behind element
  | function params ret _ => by
    rw [stubMentions, mentions, List.flatMap_append, stubMentionsParams_eq inArguments params,
      stubMentions_eq inArguments true ret]

theorem stubMentionsParams_eq (inArguments : Bool) : (ps : List (Option String × Ty)) →
    stubMentionsParams inArguments ps =
      (mentionsParams ps).flatMap fun m => ⟨m.name, m.behindPointer, inArguments⟩ :: stubMentionsAll m.args
  | [] => rfl
  | (_, t) :: rest => by
    rw [stubMentionsParams, mentionsParams, List.flatMap_append, stubMentions_eq inArguments true t,
      stubMentionsParams_eq inArguments rest]
end

mutual
/-- Inside arguments, all mentions are. -/
theorem inArguments_of_stubMentions (behind : Bool) : (t : Ty) →
    ∀ m ∈ t.stubMentions true behind, m.inArguments = true
  | primitive _ => List.forall_mem_nil _
  | path _ args => List.forall_mem_cons.2 ⟨rfl, inArguments_of_stubMentionsAll args⟩
  | pointer target _ _ => inArguments_of_stubMentions true target
  | array element _ => inArguments_of_stubMentions behind element
  | function params ret _ => List.forall_mem_append.2
      ⟨inArguments_of_stubMentionsParams params, inArguments_of_stubMentions true ret⟩

theorem inArguments_of_stubMentionsAll : (ts : List Ty) → ∀ m ∈ stubMentionsAll ts, m.inArguments = true
  | [] => List.forall_mem_nil _
  | t :: rest => List.forall_mem_append.2
      ⟨inArguments_of_stubMentions false t, inArguments_of_stubMentionsAll rest⟩

theorem inArguments_of_stubMentionsParams : (ps : List (Option String × Ty)) →
    ∀ m ∈ stubMentionsParams true ps, m.inArguments = true
  | [] => List.forall_mem_nil _
  | (_, t) :: rest => List.forall_mem_append.2
      ⟨inArguments_of_stubMentions true t, inArguments_of_stubMentionsParams rest⟩
end

end Ty

namespace Entity

variable {e : Entity} {name : String}

/-- Does an entity mention a name where a declaration of it will do, or may do: as an outer path behind a pointer, or
anywhere in the arguments of an outer path? -/
def NeedsStub (e : Entity) (name : String) : Prop :=
  ∃ m ∈ e.mentions, (m.name = name ∧ m.behindPointer = true) ∨ name ∈ Ty.pathNamesAll m.args

/-- Is an entity an opaque type that stands in for another one? -/
structure IsStubOf (s r : Entity) : Prop where
  name : s.name = r.name
  generics : s.generics = r.generics
  annotations : s.annotations = r.annotations
  index : s.index = r.index
  body : s.body = .opaqueType
  synthetic : s.synthetic = true
  exported : s.exported = false
  cfg : s.cfg = none
  docs : s.docs = []

theorem isStubOf_stub (r : Entity) : r.stub.IsStubOf r := ⟨rfl, rfl, rfl, rfl, rfl, rfl, rfl, rfl, rfl⟩

theorem stubMentions_types (e : Entity) : e.body.types.flatMap (Ty.stubMentions false false) =
    e.mentions.flatMap fun m => ⟨m.name, m.behindPointer, false⟩ :: Ty.stubMentionsAll m.args := by
  rw [mentions, List.flatMap_assoc]
  exact List.flatMap_congr fun t _ => Ty.stubMentions_eq false false t

theorem needsStub_iff : e.NeedsStub name ↔
    ∃ m ∈ e.body.types.flatMap (Ty.stubMentions false false),
      m.name = name ∧ (m.behindPointer || m.inArguments) = true := by
  rw [stubMentions_types]
  constructor
  · rintro ⟨m, hm, ⟨rfl, hbehind⟩ | hname⟩
    · exact ⟨_, List.mem_flatMap.2 ⟨m, hm, List.mem_cons_self⟩, rfl, by rw [hbehind]; rfl⟩
    · rw [← Ty.names_stubMentionsAll] at hname
      obtain ⟨s, hs, rfl⟩ := List.mem_map.1 hname
      have hin := Ty.inArguments_of_stubMentionsAll m.args s hs
      exact ⟨s, List.mem_flatMap.2 ⟨m, hm, List.mem_cons_of_mem _ hs⟩, rfl, by rw [hin, Bool.or_true]⟩
  · rintro ⟨s, hs, rfl, hneeds⟩
    obtain ⟨m, hm, hs⟩ := List.mem_flatMap.1 hs
    rcases List.mem_cons.1 hs with rfl | hs
    · exact ⟨m, hm, .inl ⟨rfl, by simpa using hneeds⟩⟩
    · refine ⟨m, hm, .inr ?_⟩
      rw [← Ty.names_stubMentionsAll]
      exact List.mem_map_of_mem hs

end Entity

/-! ### Stubs in a library -/

namespace Library

variable {lib : Library} {env : Environment} {marks : List String} {removed : List Entity} {e r : Entity}

/-- What pruning leaves of the enabled entities, in their order: their enabled members, and of those that are marked
opaque nothing. -/
def spared (env : Environment) (marks : List String) (lib : Library) : List Entity :=
  (lib.entities.filter (Entity.isEnabled env)).map fun e =>
    if isMarkedOpaque marks e && e.isType then (e.prune env).asOpaque else e.prune env

/-- What is spared has the name of an enabled entity. -/
theorem exists_of_mem_spared (he : e ∈ lib.spared env marks) :
    ∃ x ∈ lib.entities, x.isEnabled env = true ∧ x.name = e.name := by
  obtain ⟨x, hx, rfl⟩ := List.mem_map.1 he
  obtain ⟨hmem, henabled⟩ := List.mem_filter.1 hx
  refine ⟨x, hmem, henabled, ?_⟩
  split
  · rfl
  · rfl

/-- Of some entities of different names, the one of a name. -/
theorem find?_name_iff {name : String} (hremoved : (removed.map (·.name)).Nodup) :
    removed.find? (fun r => r.name == name) = some r ↔ r ∈ removed ∧ r.name = name :=
  have htable : IsTable ⟨removed, [], []⟩ := hremoved
  get?_eq_some_iff htable

/-- Something is mentioned as in need of a stub if it was removed and something left needs one. -/
theorem exists_stubMention_iff (hremoved : (removed.map (·.name)).Nodup) :
    (∃ p ∈ lib.stubMentions removed, p.2.2 = r) ↔ r ∈ removed ∧ ∃ e ∈ lib.entities, e.NeedsStub r.name := by
  constructor
  · rintro ⟨p, hp, rfl⟩
    obtain ⟨e, he, hp⟩ := List.mem_flatMap.1 hp
    obtain ⟨m, hm, hp⟩ := List.mem_filterMap.1 hp
    split at hp
    · next r hfind =>
      split at hp
      · next hneeds =>
        cases hp
        obtain ⟨hr, hname⟩ := (find?_name_iff hremoved).1 hfind
        exact ⟨hr, e, he, Entity.needsStub_iff.2 ⟨m, hm, hname.symm, hneeds⟩⟩
      · cases hp
    · cases hp
  · rintro ⟨hr, e, he, hneeds⟩
    obtain ⟨m, hm, hname, hneeds⟩ := Entity.needsStub_iff.1 hneeds
    have hfind := (find?_name_iff hremoved).2 ⟨hr, hname.symm⟩
    refine ⟨(e, m, r), List.mem_flatMap.2 ⟨e, he, List.mem_filterMap.2 ⟨m, hm, ?_⟩⟩, rfl⟩
    simp only [hfind, if_pos hneeds]

theorem isTable_prune (env : Environment) (marks : List String) (h : lib.IsTable) :
    (lib.prune env marks).library.IsTable := by
  unfold prune
  dsimp only
  refine List.foldlRecOn _ _ ?_ fun _ hlib _ _ => isTable_addStub hlib
  unfold markOpaque
  exact List.foldlRecOn _ _ (isTable_pruneEntities env h) fun _ hlib _ _ => isTable_replace rfl hlib

/-- Pruning adds a stub for each removed entity that needs one, behind what is spared, and nothing else. -/
theorem exists_stubs (h : lib.IsTable) (env : Environment) (marks : List String) :
    ∃ stubs, (lib.prune env marks).library.entities = lib.spared env marks ++ stubs ∧
      (∀ s ∈ stubs, ∃ r ∈ lib.entities, r.isEnabled env = false ∧ s = r.stub ∧
        ∃ e ∈ lib.spared env marks, e.NeedsStub r.name) ∧
      ∀ e ∈ lib.spared env marks, ∀ r ∈ lib.entities, r.isEnabled env = false → e.NeedsStub r.name →
        r.name ∈ (lib.prune env marks).library.names := by
  let removed := lib.entities.filter fun e => !e.isEnabled env
  have hmem : ∀ r, r ∈ removed ↔ r ∈ lib.entities ∧ r.isEnabled env = false := by
    intro r
    rw [List.mem_filter, Bool.not_eq_true']
  have hremoved : (removed.map (·.name)).Nodup := h.sublist (List.filter_sublist.map _)
  have hspared : ((lib.pruneEntities env).markOpaque marks).entities = lib.spared env marks :=
    entities_marked env marks h
  obtain ⟨stubs, hstubs, hmade, hnames⟩ := entities_foldl_addStub
    (((lib.pruneEntities env).markOpaque marks).stubMentions removed) ((lib.pruneEntities env).markOpaque marks)
  rw [← hstubs] at hnames
  rw [hspared] at hstubs
  refine ⟨stubs, hstubs, fun s hs => ?_, fun e he r hr hdisabled hneeds => ?_⟩
  · obtain ⟨p, hp, rfl⟩ := hmade s hs
    obtain ⟨hr, hneeds⟩ := (exists_stubMention_iff hremoved).1 ⟨p, hp, rfl⟩
    rw [hspared] at hneeds
    exact ⟨p.2.2, ((hmem _).1 hr).1, ((hmem _).1 hr).2, rfl, hneeds⟩
  · rw [← hspared] at he
    obtain ⟨p, hp, rfl⟩ := (exists_stubMention_iff hremoved).2 ⟨(hmem r).2 ⟨hr, hdisabled⟩, e, he, hneeds⟩
    exact hnames p hp

/-- After pruning, what was removed and is mentioned behind a pointer or in arguments is found as a stub. Pruning adds
nothing but such stubs, each where it is needed and once, behind all that is left. -/
theorem prune_stubs (h : lib.IsTable) (env : Environment) (marks : List String) :
    ∃ stubs, (lib.prune env marks).library.entities = lib.spared env marks ++ stubs ∧
      (lib.prune env marks).library.IsTable ∧
      (∀ e ∈ lib.spared env marks, ∀ r ∈ lib.entities, r.isEnabled env = false → e.NeedsStub r.name →
        ∃ s, (lib.prune env marks).library.get? r.name = some s ∧ s.IsStubOf r) ∧
      ∀ s ∈ stubs, ∃ r ∈ lib.entities, r.isEnabled env = false ∧ s.IsStubOf r ∧
        ∃ e ∈ lib.spared env marks, e.NeedsStub r.name := by
  obtain ⟨stubs, hstubs, hmade, hfound⟩ := exists_stubs h env marks
  have htable := isTable_prune env marks h
  refine ⟨stubs, hstubs, htable, fun e he r hr hdisabled hneeds => ?_, fun s hs => ?_⟩
  · obtain ⟨s, hs, hname⟩ := List.mem_map.1 (hfound e he r hr hdisabled hneeds)
    refine ⟨s, hname ▸ get?_of_mem htable hs, ?_⟩
    rw [hstubs] at hs
    rcases List.mem_append.1 hs with hs | hs
    · -- An enabled entity cannot have the name of a removed one.
      obtain ⟨x, hx, henabled, hxname⟩ := exists_of_mem_spared hs
      rw [eq_of_name_eq h hx hr (hxname.trans hname), hdisabled] at henabled
      cases henabled
    · obtain ⟨x, hx, _, rfl, _⟩ := hmade s hs
      rw [eq_of_name_eq h hx hr hname]
      exact r.isStubOf_stub
  · obtain ⟨r, hr, hdisabled, rfl, hneeds⟩ := hmade s hs
    exact ⟨r, hr, hdisabled, r.isStubOf_stub, hneeds⟩

/-- A struct that is all that the environment leaves. It points to a removed type, takes another one in a callback
and has one inside arguments of arguments, but the load it has by value only. -/
def yardSite : Entity :=
  .bare "Site" 3 (.struct [.bare "crane" (.pointer (.path "Crane" []) true true),
    .bare "spare" (.path "Box" [.array (.path "Box" [.path "Hook" []]) "4"]), .bare "load" (.path "Load" []),
    .bare "signal" (.function [(none, .path "Flag" [])] .void false)])

def yard : Library :=
  let removed (name : String) (index : Nat) : Entity :=
    { Entity.bare name index (.struct []) with docs := ["Heavy."], cfg := some (.flag "windows") }
  ⟨[removed "Load" 0, { removed "Crane" 1 with generics := ["T"] }, removed "Hook" 2, yardSite, removed "Flag" 4],
    [], []⟩

theorem isTable_yard : yard.IsTable := by
  unfold IsTable
  decide

theorem prune_stubs_yard : yard.IsTable ∧
    (yard.prune ⟨[("windows", false)], []⟩ []).library.names = ["Site", "Crane", "Hook", "Flag"] ∧
    ∃ stubs, (yard.prune ⟨[("windows", false)], []⟩ []).library.entities = [yardSite] ++ stubs ∧
      ∀ s ∈ stubs, ∃ r ∈ yard.entities, r.isEnabled ⟨[("windows", false)], []⟩ = false ∧ s.IsStubOf r := by
  obtain ⟨stubs, hentities, _, _, hstubs⟩ := prune_stubs isTable_yard ⟨[("windows", false)], []⟩ []
  refine ⟨isTable_yard, by cbv, stubs, hentities, fun s hs => ?_⟩
  obtain ⟨r, hr, hdisabled, hstub, _⟩ := hstubs s hs
  exact ⟨r, hr, hdisabled, hstub⟩

end Library

end CrateHeader
