import CrateHeader.Proofs.Preserving

/-!
# Member names through the stages

The members of a body are known by the names that they have in the source, and only members that share a
scope have to differ by them. Building takes these names over, pruning leaves some of them out, an instance
has those of its template, and giving names to C leaves them as they are. So what can be told apart in the
declarations can be told apart in what is written.
-/

namespace CrateHeader

/-- The names of members, those together that share a scope: the fields of a struct or union, the variants of
an enum, the fields of each variant, the arguments of a function that have a name. -/
def DeclBody.memberNames : DeclBody → List (List String)
  | struct fields => [fields.map (·.name)]
  | union fields => [fields.map (·.name)]
  | enum variants => variants.map (·.name) :: variants.map fun v => v.fields.map (·.name)
  | function params _ _ => [params.filterMap (·.name)]
  | _ => []

def Declaration.HasDistinctMembers (d : Declaration) : Prop := ∀ names ∈ d.body.memberNames, names.Nodup

namespace Body

def memberNames : Body → List (List String)
  | struct fields => [fields.map (·.name)]
  | union fields => [fields.map (·.name)]
  | enum variants => variants.map (·.name) :: variants.map fun v => v.fields.map (·.name)
  | function args _ _ => [args.filterMap (·.name)]
  | _ => []

def arguments : Body → List Argument
  | function args _ _ => args
  | _ => []

/-- Members that share a scope differ by their names, and an argument without a name has none for C. -/
structure IsWellNamed (b : Body) : Prop where
  distinct : ∀ names ∈ b.memberNames, names.Nodup
  unnamed : ∀ a ∈ b.arguments, a.name = none → a.exportName = none

theorem isWellNamed_opaqueType : opaqueType.IsWellNamed := ⟨fun _ h => (nomatch h), fun _ h => (nomatch h)⟩

end Body

/-! ### Building -/

namespace Declaration

variable {generics : List String} {owner ident : String} {index : Nat} {e : Entity} {d : Declaration}

theorem names_convertFields {ds : List FieldDecl} {fs : List Field}
    (h : (convertFields generics owner ds).result = .ok fs) : fs.map (·.name) = ds.map (·.name) := by
  induction ds generalizing fs with
  | nil => cases h; rfl
  | cons d rest ih =>
    unfold convertFields at h
    obtain ⟨said, _, h⟩ := Logged.bind_ok h
    obtain ⟨others, hothers, h⟩ := Logged.bind_ok h
    cases h
    rw [List.map_cons, List.map_cons, ih hothers]

theorem names_convertVariants {ds : List VariantDecl} {vs : List Variant}
    (h : (convertVariants generics ident ds).result = .ok vs) :
    vs.map (·.name) = ds.map (·.name) ∧
      (vs.map fun v => v.fields.map (·.name)) = ds.map fun v => v.fields.map (·.name) := by
  induction ds generalizing vs with
  | nil => cases h; exact ⟨rfl, rfl⟩
  | cons d rest ih =>
    unfold convertVariants at h
    obtain ⟨said, _, h⟩ := Logged.bind_ok h
    obtain ⟨fields, hfields, h⟩ := Logged.bind_ok h
    obtain ⟨others, hothers, h⟩ := Logged.bind_ok h
    cases h
    obtain ⟨hnames, hinner⟩ := ih hothers
    simp only [List.map_cons, hnames, hinner, names_convertFields hfields, and_self]

theorem names_convertParams {ds : List ParamDecl} {args : List Argument}
    (h : (convertParams generics ident ds).result = .ok args) :
    args.map (·.name) = ds.map (·.name) ∧ ∀ a ∈ args, a.exportName = a.name := by
  induction ds generalizing args with
  | nil => cases h; exact ⟨rfl, by simp⟩
  | cons d rest ih =>
    unfold convertParams at h
    obtain ⟨said, _, h⟩ := Logged.bind_ok h
    dsimp only at h
    split at h
    · cases h
    · obtain ⟨others, hothers, h⟩ := Logged.bind_ok h
      cases h
      obtain ⟨hnames, hexport⟩ := ih hothers
      refine ⟨by rw [List.map_cons, List.map_cons, hnames], ?_⟩
      rintro a (_ | ⟨_, ha⟩)
      · rfl
      · exact hexport a ha

theorem name_giveLength (annotations : Annotations) (ident : String) (arg : Argument) :
    (giveLength annotations ident arg).1.name = arg.name ∧
      (giveLength annotations ident arg).1.exportName = arg.exportName := by
  unfold giveLength
  split
  · exact ⟨rfl, rfl⟩
  · split
    · exact ⟨rfl, rfl⟩
    · split <;> exact ⟨rfl, rfl⟩

/-- The mark of a variadic function has no name, and a length changes none. -/
theorem names_sized (annotations : Annotations) (args : List Argument) (variadic : Bool) :
    ((args.map (giveLength annotations ident)).map Prod.fst ++
      if variadic then [variadicMark] else []).filterMap (·.name) = args.filterMap (·.name) := by
  have hmark : (if variadic then [variadicMark] else []).filterMap (·.name) = [] := by
    cases variadic <;> rfl
  rw [List.filterMap_append, hmark, List.append_nil, List.map_map, List.filterMap_map]
  exact List.filterMap_congr fun arg _ => (name_giveLength annotations ident arg).1

/-- A body has the member names of its declaration. -/
theorem names_convertBody {annotations : Annotations} {decl : DeclBody} {body : Body}
    (h : (convertBody generics ident annotations decl).result = .ok body) :
    body.memberNames = decl.memberNames ∧ ∀ a ∈ body.arguments, a.exportName = a.name := by
  cases decl with
  | struct fields =>
    obtain ⟨fs, hfs, h⟩ := Logged.bind_ok h
    cases h
    rw [Body.memberNames, DeclBody.memberNames, names_convertFields hfs]
    exact ⟨rfl, by simp [Body.arguments]⟩
  | union fields =>
    obtain ⟨fs, hfs, h⟩ := Logged.bind_ok h
    cases h
    rw [Body.memberNames, DeclBody.memberNames, names_convertFields hfs]
    exact ⟨rfl, by simp [Body.arguments]⟩
  | enum variants =>
    obtain ⟨vs, hvs, h⟩ := Logged.bind_ok h
    cases h
    obtain ⟨hnames, hinner⟩ := names_convertVariants hvs
    rw [Body.memberNames, DeclBody.memberNames, hnames, hinner]
    exact ⟨rfl, by simp [Body.arguments]⟩
  | opaqueType =>
    cases h
    exact ⟨rfl, by simp [Body.arguments]⟩
  | typeAlias target =>
    obtain ⟨ty, _, h⟩ := Logged.bind_ok h
    cases h
    exact ⟨rfl, by simp [Body.arguments]⟩
  | constant type value =>
    obtain ⟨ty, _, h⟩ := Logged.bind_ok h
    cases h
    exact ⟨rfl, by simp [Body.arguments]⟩
  | static type isMut =>
    obtain ⟨ty, _, h⟩ := Logged.bind_ok h
    cases h
    exact ⟨rfl, by simp [Body.arguments]⟩
  | function params returns variadic =>
    unfold convertBody at h
    obtain ⟨args, hargs, h⟩ := Logged.bind_ok h
    dsimp only at h
    obtain ⟨_, _, h⟩ := Logged.bind_ok h
    cases h
    obtain ⟨hnames, hexport⟩ := names_convertParams hargs
    have hnamed : args.filterMap (·.name) = params.filterMap (·.name) := by
      have h := congrArg (List.filterMap id) hnames
      rwa [List.filterMap_map, List.filterMap_map] at h
    rw [Body.memberNames, DeclBody.memberNames, names_sized, hnamed]
    refine ⟨rfl, fun a ha => ?_⟩
    rcases List.mem_append.1 ha with ha | ha
    · rw [List.map_map, List.mem_map] at ha
      obtain ⟨arg, harg, rfl⟩ := ha
      obtain ⟨hname, hgiven⟩ := name_giveLength annotations ident arg
      exact hgiven.trans ((hexport arg harg).trans hname.symm)
    · cases variadic with
      | false => cases ha
      | true =>
        obtain rfl := List.mem_singleton.1 ha
        rfl

theorem isWellNamed_convert (h : (d.convert index).result = .ok e) (hd : d.HasDistinctMembers) :
    e.body.IsWellNamed := by
  obtain ⟨said, inherited, body, _, _, hbody, rfl⟩ := convert_ok h
  obtain ⟨hnames, hexport⟩ := names_convertBody hbody
  refine ⟨?_, fun a ha hnone => (hexport a ha).trans hnone⟩
  rw [hnames]
  exact hd

end Declaration

namespace Body

variable {env : Environment}

/-! ### What is done to a body -/

theorem IsWellNamed.mapTypes {b : Body} (h : b.IsWellNamed) (f : Ty → Ty) : (b.mapTypes f).IsWellNamed := by
  have hnames : (b.mapTypes f).memberNames = b.memberNames := by
    cases b <;> simp [Body.mapTypes, memberNames, Function.comp_def, List.filterMap_map]
  refine ⟨hnames ▸ h.distinct, ?_⟩
  cases b with
  | function args ret never =>
    intro a ha hnone
    obtain ⟨x, hx, rfl⟩ := List.mem_map.1 ha
    exact h.unnamed x hx hnone
  | _ => exact h.unnamed

theorem names_pruneFields (fields : List Field) :
    ((pruneFields env fields).map (·.name)).Sublist (fields.map (·.name)) := List.filter_sublist.map _

/-- Of members that differ some are left. -/
theorem IsWellNamed.prune {b : Body} (h : b.IsWellNamed) : (b.prune env).IsWellNamed := by
  obtain ⟨hdistinct, hunnamed⟩ := h
  cases b with
  | struct fields =>
    refine ⟨fun names hnames => ?_, hunnamed⟩
    obtain rfl := List.mem_singleton.1 hnames
    exact (hdistinct _ (List.mem_singleton.2 rfl)).sublist (names_pruneFields fields)
  | union fields =>
    refine ⟨fun names hnames => ?_, hunnamed⟩
    obtain rfl := List.mem_singleton.1 hnames
    exact (hdistinct _ (List.mem_singleton.2 rfl)).sublist (names_pruneFields fields)
  | enum variants =>
    have hkept : (variants.filter fun v => Cfg.allows env v.cfg).Sublist variants := List.filter_sublist
    refine ⟨fun names hnames => ?_, hunnamed⟩
    rcases List.mem_cons.1 hnames with rfl | hinner
    · rw [List.map_map]
      exact (hdistinct _ List.mem_cons_self).sublist (hkept.map _)
    · rw [List.map_map, List.mem_map] at hinner
      obtain ⟨v, hv, rfl⟩ := hinner
      have hnodup := hdistinct _ (List.mem_cons_of_mem _ (List.mem_map_of_mem (hkept.subset hv)))
      exact hnodup.sublist (names_pruneFields v.fields)
  | function args ret never =>
    refine ⟨fun names hnames => ?_, fun a ha => hunnamed a (List.mem_filter.1 ha).1⟩
    obtain rfl := List.mem_singleton.1 hnames
    exact (hdistinct _ (List.mem_singleton.2 rfl)).sublist (List.filter_sublist.filterMap _)
  | opaqueType => exact ⟨hdistinct, hunnamed⟩
  | typeAlias target => exact ⟨hdistinct, hunnamed⟩
  | constant ty value => exact ⟨hdistinct, hunnamed⟩
  | static ty isMut => exact ⟨hdistinct, hunnamed⟩

end Body

theorem Argument.name_named (rule : RenameRule) (a : Argument) : (a.named rule).name = a.name := by
  unfold Argument.named
  split <;> rfl

/-- Names for C leave the names of the source as they are. -/
theorem Entity.memberNames_assignNames (settings : Settings) (e : Entity) :
    (e.assignNames settings).body.memberNames = e.body.memberNames := by
  unfold assignNames nameMembers
  cases hbody : e.body <;>
    simp [Body.memberNames, Field.named, Function.comp_def, List.filterMap_map, Argument.name_named]

theorem Entity.isWellNamed_assignNames {e : Entity} (settings : Settings) (h : e.body.IsWellNamed) :
    (e.assignNames settings).body.IsWellNamed := by
  refine ⟨e.memberNames_assignNames settings ▸ h.distinct, ?_⟩
  have hunnamed := h.unnamed
  unfold assignNames nameMembers
  cases hbody : e.body with
  | function args ret never =>
    rw [hbody] at hunnamed
    intro a ha hnone
    obtain ⟨x, hx, rfl⟩ := List.mem_map.1 ha
    rw [Argument.name_named] at hnone
    rw [Argument.named, hnone]
    exact hunnamed x hx hnone
  | _ => exact fun _ h => absurd h List.not_mem_nil

/-! ### From stage to stage -/

theorem Entity.isStable_isWellNamed (settings : Settings) :
    Entity.IsStable settings fun e => e.body.IsWellNamed where
  prune _ he := he.prune
  asOpaque _ := Body.isWellNamed_opaqueType
  stub _ := Body.isWellNamed_opaqueType
  surface := by
    intro lib hlib included excluded s hs dropUnderscores seq
    cases hs with
    | root hroot => exact hlib _ hroot
    | concrete _ _ _ ht => exact hlib _ (Library.mem_of_get? ht)
    | generic _ _ _ ht => exact (hlib _ (Library.mem_of_get? ht)).mapTypes _
  replacePaths _ _ he := he.mapTypes _
  assignNames e he := e.isWellNamed_assignNames settings he

def Library.IsWellNamed (lib : Library) : Prop := ∀ e ∈ lib.entities, e.body.IsWellNamed

/-- What is ordered has been given names for C. -/
theorem Pipeline.isWellNamed_prepare {settings : Settings} {ds : List Declaration} {lib : Library}
    (h : (prepare settings ds).result = .ok lib) (hds : ∀ d ∈ ds, d.HasDistinctMembers) :
    lib.IsWellNamed ∧ ∃ given : Library, lib = given.assignNames settings := by
  refine ⟨forall_prepare (Entity.isStable_isWellNamed settings) h fun d hd _ _ hconvert =>
    Declaration.isWellNamed_convert hconvert (hds d hd), ?_⟩
  obtain ⟨_, w', _, _, rfl⟩ := prepare_stages h
  exact ⟨w'.library, rfl⟩

end CrateHeader
