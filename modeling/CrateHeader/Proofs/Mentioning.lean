import CrateHeader.Proofs.MemberNames
import CrateHeader.Proofs.PathNames
import CrateHeader.Proofs.TypeTexts

/-!
# The names that a declaration writes

Lowering simplifies wrappers away and adds no path of its own, so an entity mentions only names that the type
expressions of its declaration write. Pruning looks for mentions of what it removes, to leave stubs in its place; a
disabled entity that no other one mentions leaves nothing behind, and the library might have been without it from the
start.
-/

namespace CrateHeader

/-! ### Names in types -/

namespace Ty

mutual
theorem names_stubMentions (inArguments behind : Bool) : (t : Ty) →
    (t.stubMentions inArguments behind).map (·.name) = t.pathNames
  | primitive _ => rfl
  | path name args => congrArg (name :: ·) (names_stubMentionsAll args)
  | pointer target _ _ => names_stubMentions inArguments true target
  | array element _ => names_stubMentions inArguments behind element
  | function params ret _ => by
    rw [stubMentions, List.map_append, names_stubMentionsParams inArguments params,
      names_stubMentions inArguments true ret, pathNames]

theorem names_stubMentionsAll : (ts : List Ty) → (stubMentionsAll ts).map (·.name) = pathNamesAll ts
  | [] => rfl
  | t :: rest => by
    rw [stubMentionsAll, List.map_append, names_stubMentions true false t, names_stubMentionsAll rest, pathNamesAll]

theorem names_stubMentionsParams (inArguments : Bool) : (ps : List (Option String × Ty)) →
    (stubMentionsParams inArguments ps).map (·.name) = pathNamesParams ps
  | [] => rfl
  | (_, t) :: rest => by
    rw [stubMentionsParams, List.map_append, names_stubMentions inArguments true t,
      names_stubMentionsParams inArguments rest, pathNamesParams]
end

theorem pathNames_ofOption? {t simplified : Ty} (h : ofOption? t = some simplified) :
    simplified.pathNames = t.pathNames := by
  cases t with
  | pointer target isMut nullable => cases h; rfl
  | function params ret never => cases h; rfl
  | _ => cases h

/-- Where a wrapper is simplified, its name is gone. -/
theorem pathNames_wrap (name : String) (args : List Ty) : (wrap name args).pathNames ⊆ name :: pathNamesAll args := by
  match args with
  | [] =>
    cases hprimitive : Primitive.ofName? name with
    | some k => simp [wrap, hprimitive, pathNames]
    | none => simp [wrap, hprimitive, pathNames]
  | [inner] =>
    have hinner : inner.pathNames ⊆ name :: pathNamesAll [inner] := by simp [pathNamesAll]
    rcases wrap_singleton_cases name inner with heq | heq | heq | hsome
    · rw [heq, pathNames]
      exact List.Subset.refl _
    · rwa [heq]
    · rwa [heq]
    · rwa [pathNames_ofOption? hsome]
  | first :: second :: rest => exact List.Subset.refl _

end Ty

namespace Expr

mutual
theorem pathNames_lower (generics : List String) : (e : Expr) → (e.lower generics).pathNames ⊆ e.names
  | path name args => by
    rw [lower]
    split
    · exact List.cons_subset_cons _ (List.nil_subset _)
    · exact List.Subset.trans (Ty.pathNames_wrap name _) (List.cons_subset_cons _ (pathNames_lowerAll generics args))
  | pointer target _ _ => pathNames_lower generics target
  | array element _ => pathNames_lower generics element
  | function params ret => List.append_subset.2
      ⟨List.subset_append_of_subset_left _ (pathNames_lowerParams generics params),
        List.subset_append_of_subset_right _ (pathNames_lowerResult generics ret)⟩
  | unit => List.nil_subset _
  | never => List.nil_subset _

theorem pathNames_lowerAll (generics : List String) : (es : List Expr) →
    Ty.pathNamesAll (lowerAll generics es) ⊆ namesAll es
  | [] => List.nil_subset _
  | e :: rest => List.append_subset.2
      ⟨List.subset_append_of_subset_left _ (pathNames_lower generics e),
        List.subset_append_of_subset_right _ (pathNames_lowerAll generics rest)⟩

theorem pathNames_lowerParams (generics : List String) : (ps : List (Option String × Expr)) →
    Ty.pathNamesParams (lowerParams generics ps) ⊆ namesParams ps
  | [] => List.nil_subset _
  | (_, e) :: rest => List.append_subset.2
      ⟨List.subset_append_of_subset_left _ (pathNames_lower generics e),
        List.subset_append_of_subset_right _ (pathNames_lowerParams generics rest)⟩

theorem pathNames_lowerResult (generics : List String) : (ret : Option Expr) →
    (lowerResult generics ret).pathNames ⊆ namesResult ret
  | none => List.nil_subset _
  | some e => pathNames_lower generics e
end

end Expr

/-! ### Names in declarations -/

/-- The type expressions of a declaration. -/
def DeclBody.typeExprs : DeclBody → List Expr
  | struct fields => fields.map (·.type)
  | union fields => fields.map (·.type)
  | enum variants => variants.flatMap fun v => v.fields.map (·.type)
  | opaqueType => []
  | typeAlias target => target.toList
  | function params returns _ => returns.toList ++ params.map (·.type)
  | constant type _ => type.toList
  | static type _ => type.toList

namespace Declaration

/-- The names that the type expressions of a declaration write. -/
def writtenNames (d : Declaration) : List String := d.body.typeExprs.flatMap Expr.names

variable {generics : List String} {ident owner : String}

theorem types_convertFields {ds : List FieldDecl} {fs : List Field}
    (h : (convertFields generics owner ds).result = .ok fs) :
    fs.map (·.ty) = (ds.map (·.type)).map (Expr.lower generics) := by
  induction ds generalizing fs with
  | nil => cases h; rfl
  | cons d rest ih =>
    obtain ⟨said, _, h⟩ := Logged.bind_ok h
    obtain ⟨others, hothers, h⟩ := Logged.bind_ok h
    cases h
    rw [List.map_cons, ih hothers, List.map_cons, List.map_cons]

theorem types_convertVariants {ds : List VariantDecl} {vs : List Variant}
    (h : (convertVariants generics ident ds).result = .ok vs) : (vs.flatMap fun v => v.fields.map (·.ty)) =
      (ds.flatMap fun v => v.fields.map (·.type)).map (Expr.lower generics) := by
  induction ds generalizing vs with
  | nil => cases h; rfl
  | cons d rest ih =>
    obtain ⟨said, _, h⟩ := Logged.bind_ok h
    obtain ⟨fields, hfields, h⟩ := Logged.bind_ok h
    obtain ⟨others, hothers, h⟩ := Logged.bind_ok h
    cases h
    rw [List.flatMap_cons, List.flatMap_cons, List.map_append, ih hothers, types_convertFields hfields]

theorem types_convertParams {ds : List ParamDecl} {args : List Argument}
    (h : (convertParams generics ident ds).result = .ok args) :
    args.map (·.ty) = (ds.map (·.type)).map (Expr.lower generics) := by
  induction ds generalizing args with
  | nil => cases h; rfl
  | cons d rest ih =>
    unfold convertParams at h
    obtain ⟨said, _, h⟩ := Logged.bind_ok h
    dsimp only at h
    split at h
    · cases h
    · obtain ⟨others, hothers, h⟩ := Logged.bind_ok h
      cases h
      rw [List.map_cons, ih hothers, List.map_cons, List.map_cons]

theorem ty_giveLength (annotations : Annotations) (ident : String) (arg : Argument) :
    (giveLength annotations ident arg).1.ty = arg.ty := by
  unfold giveLength
  repeat' split
  all_goals rfl

theorem requireType_ok {kind : DeclKind} {type : Option Expr} {ty : Ty}
    (h : (requireType kind ident generics type).result = .ok ty) : ∃ x ∈ type.toList, x.lower generics = ty := by
  cases type with
  | none => cases h
  | some x => cases h; exact ⟨x, List.mem_singleton_self x, rfl⟩

/-- Every type of a body is what a type expression is lowered to, or a primitive that nobody wrote. -/
theorem type_of_convertBody {annotations : Annotations} {decl : DeclBody} {body : Body}
    (h : (convertBody generics ident annotations decl).result = .ok body) {t : Ty} (ht : t ∈ body.types) :
    (∃ x ∈ decl.typeExprs, x.lower generics = t) ∨ ∃ k, t = .primitive k := by
  cases decl with
  | struct fields =>
    obtain ⟨fs, hfs, h⟩ := Logged.bind_ok h
    cases h
    rw [Body.types, types_convertFields hfs] at ht
    exact .inl (List.mem_map.1 ht)
  | union fields =>
    obtain ⟨fs, hfs, h⟩ := Logged.bind_ok h
    cases h
    rw [Body.types, types_convertFields hfs] at ht
    exact .inl (List.mem_map.1 ht)
  | enum variants =>
    obtain ⟨vs, hvs, h⟩ := Logged.bind_ok h
    cases h
    rw [Body.types, types_convertVariants hvs] at ht
    exact .inl (List.mem_map.1 ht)
  | opaqueType =>
    cases h
    cases ht
  | typeAlias target =>
    obtain ⟨ty, hty, h⟩ := Logged.bind_ok h
    cases h
    obtain rfl := List.mem_singleton.1 ht
    exact .inl (requireType_ok hty)
  | constant type value =>
    obtain ⟨ty, hty, h⟩ := Logged.bind_ok h
    cases h
    obtain rfl := List.mem_singleton.1 ht
    exact .inl (requireType_ok hty)
  | static type isMut =>
    obtain ⟨ty, hty, h⟩ := Logged.bind_ok h
    cases h
    obtain rfl := List.mem_singleton.1 ht
    exact .inl (requireType_ok hty)
  | function params returns variadic =>
    unfold convertBody at h
    obtain ⟨args, hargs, h⟩ := Logged.bind_ok h
    dsimp only at h
    obtain ⟨_, _, h⟩ := Logged.bind_ok h
    cases h
    rcases List.mem_cons.1 ht with rfl | ht
    · cases returns with
      | none => exact .inr ⟨_, rfl⟩
      | some x => exact .inl ⟨x, List.mem_cons_self, rfl⟩
    obtain ⟨arg, harg, rfl⟩ := List.mem_map.1 ht
    rcases List.mem_append.1 harg with harg | hmark
    · rw [List.map_map, List.mem_map] at harg
      obtain ⟨given, hgiven, rfl⟩ := harg
      have hty := List.mem_map_of_mem (f := fun a : Argument => a.ty) hgiven
      rw [types_convertParams hargs] at hty
      obtain ⟨x, hx, hlower⟩ := List.mem_map.1 hty
      exact .inl ⟨x, List.mem_append_right _ hx, hlower.trans (ty_giveLength annotations ident given).symm⟩
    · cases variadic with
      | false => cases hmark
      | true =>
        obtain rfl := List.mem_singleton.1 hmark
        exact .inr ⟨_, rfl⟩

end Declaration

/-! ### Names in entities -/

namespace Entity

variable {env : Environment} {e : Entity}

/-- An entity mentions only names that its declaration writes. -/
theorem pathNames_convert {d : Declaration} {index : Nat} (h : (d.convert index).result = .ok e) :
    e.pathNames ⊆ d.writtenNames := by
  obtain ⟨said, inherited, body, _, _, hbody, rfl⟩ := Declaration.convert_ok h
  intro name hname
  obtain ⟨t, ht, hname⟩ := List.mem_flatMap.1 hname
  rcases Declaration.type_of_convertBody hbody ht with ⟨x, hx, rfl⟩ | ⟨k, rfl⟩
  · exact List.mem_flatMap.2 ⟨x, hx, Expr.pathNames_lower d.generics x hname⟩
  · cases hname

theorem types_prune (body : Body) : (body.prune env).types ⊆ body.types := by
  have hfields : ∀ fs : List Field, (Body.pruneFields env fs).map (·.ty) ⊆ fs.map (·.ty) := fun fs =>
    (List.filter_sublist.map _).subset
  cases body with
  | struct fields => exact hfields fields
  | union fields => exact hfields fields
  | enum variants =>
    intro t ht
    obtain ⟨v, hv, ht⟩ := List.mem_flatMap.1 ht
    obtain ⟨given, hgiven, rfl⟩ := List.mem_map.1 hv
    exact List.mem_flatMap.2 ⟨given, (List.mem_filter.1 hgiven).1, hfields given.fields ht⟩
  | function args ret never => exact List.cons_subset_cons _ (List.filter_sublist.map _).subset
  | _ => exact List.Subset.refl _

theorem pathNames_prune : (e.prune env).pathNames ⊆ e.pathNames := by
  intro name hname
  obtain ⟨t, ht, hname⟩ := List.mem_flatMap.1 hname
  exact List.mem_flatMap.2 ⟨t, types_prune e.body ht, hname⟩

end Entity

/-! ### Pruning without an entity -/

namespace Library

variable {lib : Library} {env : Environment} {marks : List String} {name : String}

/-- The library without the entity of a name. -/
def without (name : String) (lib : Library) : Library :=
  { lib with entities := lib.entities.filter fun e => e.name != name }

theorem isFresh_without (h : lib.IsFresh) : (lib.without name).IsFresh :=
  ⟨h.table.sublist (List.filter_sublist.map _), h.unused⟩

theorem get?_without {other : String} (hne : other ≠ name) : (lib.without name).get? other = lib.get? other := by
  unfold get? without
  rw [List.find?_filter]
  congr 1
  funext e
  by_cases he : e.name = other
  · simp [he, hne]
  · simp [he]

/-- Where nothing has been instantiated, a library that is pruned has only its entities. -/
theorem pruneEntities_eq (env : Environment) (h : lib.IsFresh) : lib.pruneEntities env =
    ⟨(lib.entities.filter (Entity.isEnabled env)).map (Entity.prune env), [], lib.external⟩ := by
  have hunused : (lib.pruneEntities env).instances = [] ∧ (lib.pruneEntities env).external = lib.external := by
    unfold pruneEntities mapEntities
    dsimp only
    generalize lib.entities.filter (fun e => !e.isEnabled env) = es
    refine List.foldlRecOn (motive := fun x : Library => x.instances = [] ∧ x.external = lib.external) es erase
      ⟨h.unused, rfl⟩ fun x hx e _ => ⟨?_, hx.2⟩
    simp [erase, withdraw, hx.1]
  rw [← entities_pruneEntities env h.table, ← hunused.1, ← hunused.2]

/-- A disabled entity leaves nothing behind if no other one mentions it. -/
theorem prune_without (h : lib.IsFresh) (hdisabled : ∀ e ∈ lib.entities, e.name = name → e.isEnabled env = false)
    (hmentions : ∀ e ∈ lib.entities, e.name ≠ name → name ∉ e.pathNames) :
    ((lib.without name).prune env marks).library = (lib.prune env marks).library := by
  have hkept : (lib.without name).entities.filter (Entity.isEnabled env) =
      lib.entities.filter (Entity.isEnabled env) := by
    unfold without
    rw [List.filter_filter]
    refine List.filter_congr fun e he => ?_
    by_cases hname : e.name = name
    · simp [hdisabled e he hname]
    · simp [hname]
  have hpruned : (lib.without name).pruneEntities env = lib.pruneEntities env := by
    rw [pruneEntities_eq env (isFresh_without h), hkept, pruneEntities_eq env h]
    rfl
  -- What is left of the others does not mention the name either, so its stub is never asked for.
  have hmarked : ∀ e ∈ ((lib.pruneEntities env).markOpaque marks).entities, name ∉ e.pathNames := by
    intro e he
    rw [entities_markOpaque (isTable_pruneEntities env h.table), entities_pruneEntities env h.table, List.map_map] at he
    obtain ⟨given, hgiven, rfl⟩ := List.mem_map.1 he
    obtain ⟨hmem, henabled⟩ := List.mem_filter.1 hgiven
    have hne : given.name ≠ name := by
      intro hname
      rw [hdisabled given hmem hname] at henabled
      cases henabled
    rw [Function.comp_apply]
    split
    · simp [Entity.pathNames, Entity.asOpaque, Body.types]
    · exact fun hname => hmentions given hmem hne (Entity.pathNames_prune hname)
  have hstubs : ((lib.pruneEntities env).markOpaque marks).stubMentions
      ((lib.without name).entities.filter fun e => !e.isEnabled env) =
        ((lib.pruneEntities env).markOpaque marks).stubMentions (lib.entities.filter fun e => !e.isEnabled env) := by
    unfold stubMentions
    refine List.flatMap_congr fun e he => List.filterMap_congr fun m hm => ?_
    have hne : m.name ≠ name := by
      obtain ⟨t, ht, hm⟩ := List.mem_flatMap.1 hm
      rintro rfl
      refine hmarked e he (List.mem_flatMap.2 ⟨t, ht, ?_⟩)
      rw [← Ty.names_stubMentions false false t]
      exact List.mem_map_of_mem hm
    have hfind : ((lib.without name).entities.filter fun e => !e.isEnabled env).find? (fun r => r.name == m.name) =
        (lib.entities.filter fun e => !e.isEnabled env).find? fun r => r.name == m.name := by
      unfold without
      rw [List.filter_filter, List.find?_filter, List.find?_filter]
      congr 1
      funext r
      by_cases hr : r.name = m.name
      · simp [hr, hne]
      · simp [hr]
    rw [hfind]
  unfold prune
  dsimp only
  rw [hpruned, hstubs]

end Library

end CrateHeader
