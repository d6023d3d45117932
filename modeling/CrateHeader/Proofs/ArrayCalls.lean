import CrateHeader.Proofs.Mentioning
import CrateHeader.Proofs.Renaming
import CrateHeader.Proofs.Streaming

/-!
# Arrays in calls

An array cannot be passed by value in C. Building rejects a parameter that is lowered to an array, and looks at
nothing else: not at what a function returns, nor at what function types take and return, nor behind an alias. Arrays
that get there stay there. `Pipeline.run_arrays` says what the one check gives: no parameter of a declared function
is written as an array; and where declarations keep their arrays from all other ways into a call, no call has one.
-/

namespace CrateHeader

/-- A type that is an array once aliases are followed. -/
inductive Library.IsArray (lib : Library) : Ty → Prop where
  | array (element : Ty) (length : String) : lib.IsArray (.array element length)
  | aliased {name : String} {args : List Ty} {e : Entity} {target : Ty} (he : lib.get? name = some e)
      (hbody : e.body = .typeAlias target) (h : lib.IsArray target) : lib.IsArray (.path name args)

namespace Ty

mutual
/-- What the function types in a type take and return. -/
def exchanged : Ty → List Ty
  | primitive _ => []
  | path _ args => exchangedAll args
  | pointer target _ _ => target.exchanged
  | array element _ => element.exchanged
  | function params ret _ => exchangedParams params ++ ret :: ret.exchanged

def exchangedAll : List Ty → List Ty
  | [] => []
  | t :: rest => t.exchanged ++ exchangedAll rest

def exchangedParams : List (Option String × Ty) → List Ty
  | [] => []
  | (_, t) :: rest => t :: t.exchanged ++ exchangedParams rest
end

mutual
/-- No function type in a type takes or returns an array, and no path has one as an argument. -/
def KeepsArrays : Ty → Prop
  | primitive _ => True
  | path _ args => HoldNoArray args
  | pointer target _ _ => target.KeepsArrays
  | array element _ => element.KeepsArrays
  | function params ret _ => ParamsHoldNoArray params ∧ Declaration.isArray ret = false ∧ ret.KeepsArrays

/-- None of some types is an array, and each keeps its arrays. -/
def HoldNoArray : List Ty → Prop
  | [] => True
  | t :: rest => (Declaration.isArray t = false ∧ t.KeepsArrays) ∧ HoldNoArray rest

def ParamsHoldNoArray : List (Option String × Ty) → Prop
  | [] => True
  | (_, t) :: rest => (Declaration.isArray t = false ∧ t.KeepsArrays) ∧ ParamsHoldNoArray rest
end

/-! ### Types that keep their arrays -/

theorem holdNoArray_iff {ts : List Ty} :
    HoldNoArray ts ↔ ∀ t ∈ ts, Declaration.isArray t = false ∧ t.KeepsArrays := by
  induction ts with
  | nil => simp [HoldNoArray]
  | cons t rest ih => rw [HoldNoArray, ih, List.forall_mem_cons]

mutual
theorem isArray_of_exchanged {x : Ty} : (t : Ty) → t.KeepsArrays → x ∈ t.exchanged → Declaration.isArray x = false
  | .primitive _, _, hx => nomatch hx
  | .path _ args, h, hx => isArray_of_exchangedAll args h hx
  | .pointer target _ _, h, hx => isArray_of_exchanged target h hx
  | .array element _, h, hx => isArray_of_exchanged element h hx
  | .function params ret _, ⟨hparams, harray, hret⟩, hx => by
    rcases List.mem_append.1 hx with hx | hx
    · exact isArray_of_exchangedParams params hparams hx
    · rcases List.mem_cons.1 hx with rfl | hx
      · exact harray
      · exact isArray_of_exchanged ret hret hx

theorem isArray_of_exchangedAll {x : Ty} : (ts : List Ty) → HoldNoArray ts → x ∈ exchangedAll ts →
    Declaration.isArray x = false
  | [], _, hx => nomatch hx
  | t :: rest, ⟨⟨_, ht⟩, hrest⟩, hx => by
    rcases List.mem_append.1 hx with hx | hx
    · exact isArray_of_exchanged t ht hx
    · exact isArray_of_exchangedAll rest hrest hx

theorem isArray_of_exchangedParams {x : Ty} : (ps : List (Option String × Ty)) → ParamsHoldNoArray ps →
    x ∈ exchangedParams ps → Declaration.isArray x = false
  | [], _, hx => nomatch hx
  | (_, t) :: rest, ⟨⟨harray, ht⟩, hrest⟩, hx => by
    rcases List.mem_append.1 hx with hx | hx
    · rcases List.mem_cons.1 hx with rfl | hx
      · exact harray
      · exact isArray_of_exchanged t ht hx
    · exact isArray_of_exchangedParams rest hrest hx
end

mutual
theorem holdNoArray_of_mentions {m : Mention} {behind : Bool} : (t : Ty) → t.KeepsArrays →
    m ∈ t.mentions behind → HoldNoArray m.args
  | .primitive _, _, hm => nomatch hm
  | .path _ _, h, hm => by
    rw [List.mem_singleton.1 hm]
    exact h
  | .pointer target _ _, h, hm => holdNoArray_of_mentions target h hm
  | .array element _, h, hm => holdNoArray_of_mentions element h hm
  | .function params ret _, ⟨hparams, _, hret⟩, hm => by
    rcases List.mem_append.1 hm with hm | hm
    · exact holdNoArray_of_mentionsParams params hparams hm
    · exact holdNoArray_of_mentions ret hret hm

theorem holdNoArray_of_mentionsParams {m : Mention} : (ps : List (Option String × Ty)) →
    ParamsHoldNoArray ps → m ∈ mentionsParams ps → HoldNoArray m.args
  | [], _, hm => nomatch hm
  | (_, t) :: rest, ⟨⟨_, ht⟩, hrest⟩, hm => by
    rcases List.mem_append.1 hm with hm | hm
    · exact holdNoArray_of_mentions t ht hm
    · exact holdNoArray_of_mentionsParams rest hrest hm
end

section Substituting

variable {bound : List (String × Ty)} (hbound : ∀ b ∈ bound, Declaration.isArray b.2 = false ∧ b.2.KeepsArrays)
include hbound

theorem holdsNoArray_of_lookup {name : String} {a : Ty} (h : bound.lookup name = some a) :
    Declaration.isArray a = false ∧ a.KeepsArrays := by
  obtain ⟨front, rest, hsplit, _⟩ := List.lookup_eq_some_iff.1 h
  exact hbound (name, a) (by rw [hsplit]; simp)

/-- A parameter becomes an array only where its argument is one. -/
theorem isArray_substitute {t : Ty} (h : Declaration.isArray t = false) :
    Declaration.isArray (t.substitute bound) = false := by
  cases t with
  | array element length => cases h
  | path name args =>
    cases args with
    | nil =>
      rw [substitute]
      cases hlookup : bound.lookup name with
      | none => rfl
      | some a => exact (holdsNoArray_of_lookup hbound hlookup).1
    | cons first rest => rfl
  | _ => rfl

mutual
theorem keepsArrays_substitute : (t : Ty) → t.KeepsArrays → (t.substitute bound).KeepsArrays
  | .primitive _, _ => trivial
  | .path name [], h => by
    rw [substitute]
    cases hlookup : bound.lookup name with
    | none => exact h
    | some a => exact (holdsNoArray_of_lookup hbound hlookup).2
  | .path _ (first :: rest), h => holdNoArray_substituteAll (first :: rest) h
  | .pointer target _ _, h => keepsArrays_substitute target h
  | .array element _, h => keepsArrays_substitute element h
  | .function params ret _, ⟨hparams, harray, hret⟩ =>
    ⟨paramsHoldNoArray_substituteParams params hparams, isArray_substitute hbound harray,
      keepsArrays_substitute ret hret⟩

theorem holdNoArray_substituteAll : (ts : List Ty) → HoldNoArray ts → HoldNoArray (substituteAll bound ts)
  | [], _ => trivial
  | t :: rest, ⟨⟨harray, ht⟩, hrest⟩ =>
    ⟨⟨isArray_substitute hbound harray, keepsArrays_substitute t ht⟩, holdNoArray_substituteAll rest hrest⟩

theorem paramsHoldNoArray_substituteParams : (ps : List (Option String × Ty)) → ParamsHoldNoArray ps →
    ParamsHoldNoArray (substituteParams bound ps)
  | [], _ => trivial
  | (_, t) :: rest, ⟨⟨harray, ht⟩, hrest⟩ =>
    ⟨⟨isArray_substitute hbound harray, keepsArrays_substitute t ht⟩,
      paramsHoldNoArray_substituteParams rest hrest⟩
end

end Substituting

variable {rename : String → List Ty → Option String}

theorem isArray_replacePaths (rename : String → List Ty → Option String) (t : Ty) :
    Declaration.isArray (t.replacePaths rename) = Declaration.isArray t := by
  cases t with
  | path name args =>
    cases args with
    | nil => rfl
    | cons first rest =>
      cases hname : rename name (first :: rest) with
      | none => rw [replacePaths_of_none hname]; rfl
      | some n => rw [replacePaths_of_some hname]; rfl
  | _ => rfl

mutual
theorem keepsArrays_replacePaths (rename : String → List Ty → Option String) : (t : Ty) → t.KeepsArrays →
    (t.replacePaths rename).KeepsArrays
  | .primitive _, _ => trivial
  | .path _ [], h => h
  | .path name (first :: rest), h => by
    cases hname : rename name (first :: rest) with
    | none =>
      rw [replacePaths_of_none hname]
      exact holdNoArray_replacePathsAll rename (first :: rest) h
    | some n =>
      rw [replacePaths_of_some hname]
      trivial
  | .pointer target _ _, h => keepsArrays_replacePaths rename target h
  | .array element _, h => keepsArrays_replacePaths rename element h
  | .function params ret _, ⟨hparams, harray, hret⟩ =>
    ⟨paramsHoldNoArray_replacePathsParams rename params hparams, (isArray_replacePaths rename ret).trans harray,
      keepsArrays_replacePaths rename ret hret⟩

theorem holdNoArray_replacePathsAll (rename : String → List Ty → Option String) : (ts : List Ty) →
    HoldNoArray ts → HoldNoArray (replacePathsAll rename ts)
  | [], _ => trivial
  | t :: rest, ⟨⟨harray, ht⟩, hrest⟩ =>
    ⟨⟨(isArray_replacePaths rename t).trans harray, keepsArrays_replacePaths rename t ht⟩,
      holdNoArray_replacePathsAll rename rest hrest⟩

theorem paramsHoldNoArray_replacePathsParams (rename : String → List Ty → Option String) :
    (ps : List (Option String × Ty)) → ParamsHoldNoArray ps → ParamsHoldNoArray (replacePathsParams rename ps)
  | [], _ => trivial
  | (_, t) :: rest, ⟨⟨harray, ht⟩, hrest⟩ =>
    ⟨⟨(isArray_replacePaths rename t).trans harray, keepsArrays_replacePaths rename t ht⟩,
      paramsHoldNoArray_replacePathsParams rename rest hrest⟩
end

end Ty

/-! ### Bodies that keep their arrays -/

namespace Body

/-- What a call of a function takes and returns. -/
def signature : Body → List Ty
  | function args ret _ => args.map (·.ty) ++ [ret]
  | _ => []

/-- What calls take and return, of a function or of the function types in a body. -/
def exchanged (b : Body) : List Ty := b.signature ++ b.types.flatMap Ty.exchanged

/-- What may not be an array if no call is to have one: what a function takes and returns, and what an alias
stands for. -/
def handedOn : Body → List Ty
  | typeAlias target => [target]
  | b => b.signature

structure KeepsArrays (b : Body) : Prop where
  types : ∀ t ∈ b.types, t.KeepsArrays
  handedOn : ∀ t ∈ b.handedOn, Declaration.isArray t = false

variable {b : Body}

theorem keepsArrays_opaqueType : opaqueType.KeepsArrays := ⟨fun _ h => (nomatch h), fun _ h => (nomatch h)⟩

theorem signature_subset_handedOn : b.signature ⊆ b.handedOn := by
  cases b <;> simp [signature, handedOn]

theorem handedOn_mapTypes (f : Ty → Ty) : (b.mapTypes f).handedOn = b.handedOn.map f := by
  cases b <;> simp [mapTypes, handedOn, signature]

theorem KeepsArrays.mapTypes {f : Ty → Ty} (hb : b.KeepsArrays) (hkeeps : ∀ t, t.KeepsArrays → (f t).KeepsArrays)
    (harray : ∀ t, Declaration.isArray t = false → Declaration.isArray (f t) = false) :
    (b.mapTypes f).KeepsArrays := by
  refine ⟨fun t ht => ?_, fun t ht => ?_⟩
  · rw [types_mapTypes] at ht
    obtain ⟨x, hx, rfl⟩ := List.mem_map.1 ht
    exact hkeeps x (hb.types x hx)
  · rw [handedOn_mapTypes] at ht
    obtain ⟨x, hx, rfl⟩ := List.mem_map.1 ht
    exact harray x (hb.handedOn x hx)

theorem KeepsArrays.prune {env : Environment} (hb : b.KeepsArrays) : (b.prune env).KeepsArrays := by
  refine ⟨fun t ht => hb.types t (Entity.types_prune b ht), fun t ht => hb.handedOn t ?_⟩
  cases b with
  | function args ret never =>
    exact ((List.filter_sublist.map _).append_right _).subset ht
  | _ => exact ht

theorem KeepsArrays.exchanged (hb : b.KeepsArrays) : ∀ t ∈ b.exchanged, Declaration.isArray t = false := by
  intro t ht
  rcases List.mem_append.1 ht with ht | ht
  · exact hb.handedOn t (signature_subset_handedOn ht)
  · obtain ⟨x, hx, ht⟩ := List.mem_flatMap.1 ht
    exact Ty.isArray_of_exchanged x (hb.types x hx) ht

end Body

/-! ### From declarations to what is ordered -/

/-- The type expressions that a declaration returns or stands for. -/
def DeclBody.yieldExprs : DeclBody → List Expr
  | typeAlias target => target.toList
  | function _ returns _ => returns.toList
  | _ => []

namespace Declaration

variable {generics : List String} {ident : String} {index : Nat} {e : Entity} {d : Declaration}

/-- No function type of a declaration takes or returns an array and no path has one as an argument, and neither
does the declaration return an array nor stand for one. -/
structure KeepsArrays (d : Declaration) : Prop where
  types : ∀ x ∈ d.body.typeExprs, (x.lower d.generics).KeepsArrays
  yields : ∀ x ∈ d.body.yieldExprs, isArray (x.lower d.generics) = false

/-- No parameter is an array. -/
theorem isArray_convertParams {ds : List ParamDecl} {args : List Argument}
    (h : (convertParams generics ident ds).result = .ok args) : ∀ a ∈ args, isArray a.ty = false := by
  induction ds generalizing args with
  | nil => cases h; simp
  | cons d rest ih =>
    unfold convertParams at h
    obtain ⟨said, _, h⟩ := Logged.bind_ok h
    dsimp only at h
    split at h
    · cases h
    · next harray =>
      obtain ⟨others, hothers, h⟩ := Logged.bind_ok h
      cases h
      exact List.forall_mem_cons.2 ⟨by simpa using harray, ih hothers⟩

/-- Neither lengths nor the mark of a variadic function make an argument an array. -/
theorem isArray_convertBody {annotations : Annotations} {decl : DeclBody} {body : Body}
    (h : (convertBody generics ident annotations decl).result = .ok body) :
    ∀ a ∈ body.arguments, isArray a.ty = false := by
  cases decl with
  | function params returns variadic =>
    unfold convertBody at h
    obtain ⟨args, hargs, h⟩ := Logged.bind_ok h
    dsimp only at h
    obtain ⟨_, _, h⟩ := Logged.bind_ok h
    cases h
    intro a ha
    rcases List.mem_append.1 ha with ha | hmark
    · rw [List.map_map, List.mem_map] at ha
      obtain ⟨given, hgiven, rfl⟩ := ha
      rw [Function.comp_apply, ty_giveLength]
      exact isArray_convertParams hargs given hgiven
    · cases variadic with
      | false => cases hmark
      | true =>
        obtain rfl := List.mem_singleton.1 hmark
        rfl
  | opaqueType =>
    cases h
    exact fun _ ha => nomatch ha
  | _ =>
    obtain ⟨_, _, h⟩ := Logged.bind_ok h
    cases h
    exact fun _ ha => nomatch ha

theorem isArray_yield {annotations : Annotations} {decl : DeclBody} {body : Body}
    (h : (convertBody generics ident annotations decl).result = .ok body)
    (hyields : ∀ x ∈ decl.yieldExprs, isArray (x.lower generics) = false) :
    ∀ t ∈ body.handedOn, isArray t = false := by
  have harguments := isArray_convertBody h
  cases decl with
  | function params returns variadic =>
    unfold convertBody at h
    obtain ⟨args, hargs, h⟩ := Logged.bind_ok h
    dsimp only at h
    obtain ⟨_, _, h⟩ := Logged.bind_ok h
    cases h
    intro t ht
    rcases List.mem_append.1 ht with ht | ht
    · obtain ⟨a, ha, rfl⟩ := List.mem_map.1 ht
      exact harguments a ha
    · obtain rfl := List.mem_singleton.1 ht
      cases returns with
      | none => rfl
      | some x => exact hyields x List.mem_cons_self
  | typeAlias target =>
    obtain ⟨ty, hty, h⟩ := Logged.bind_ok h
    cases h
    intro t ht
    obtain rfl := List.mem_singleton.1 ht
    obtain ⟨x, hx, rfl⟩ := requireType_ok hty
    exact hyields x hx
  | opaqueType =>
    cases h
    exact fun _ ht => nomatch ht
  | _ =>
    obtain ⟨_, _, h⟩ := Logged.bind_ok h
    cases h
    exact fun _ ht => nomatch ht

theorem keepsArrays_convert (h : (d.convert index).result = .ok e) (hd : d.KeepsArrays) :
    e.body.KeepsArrays := by
  obtain ⟨said, inherited, body, _, _, hbody, rfl⟩ := convert_ok h
  refine ⟨fun t ht => ?_, isArray_yield hbody hd.yields⟩
  rcases type_of_convertBody hbody ht with ⟨x, hx, rfl⟩ | ⟨k, rfl⟩
  · exact hd.types x hx
  · trivial

end Declaration

namespace Entity

theorem types_assignNames (settings : Settings) (e : Entity) :
    (e.assignNames settings).body.types = e.body.types ∧
      (e.assignNames settings).body.handedOn = e.body.handedOn ∧
      (e.assignNames settings).body.arguments.map (·.ty) = e.body.arguments.map (·.ty) := by
  have hty : ∀ (rule : RenameRule) (a : Argument), (a.named rule).ty = a.ty := by
    intro rule a
    unfold Argument.named
    split <;> rfl
  unfold assignNames nameMembers
  cases hbody : e.body <;>
    simp [Body.types, Body.handedOn, Body.signature, Body.arguments, Field.named, Function.comp_def, hty,
      List.flatMap_map]

/-- What stands on the surface keeps its arrays: the arguments that it gives to templates are none. -/
theorem keepsArrays_onSurface {lib : Library} (hlib : ∀ e ∈ lib.entities, e.body.KeepsArrays)
    {included excluded : List String} {s : Member} (hs : OnSurface lib included excluded s)
    (dropUnderscores : Bool) (seq : Nat) : (s.entity dropUnderscores seq).body.KeepsArrays := by
  induction hs with
  | root he => exact hlib _ he
  | concrete _ _ _ ht => exact hlib _ (Library.mem_of_get? ht)
  | @generic s m t hs hm _ ht _ ih =>
    have hargs : Ty.HoldNoArray m.args := by
      rw [← Member.mentions_entity dropUnderscores seq] at hm
      obtain ⟨t, ht, hm⟩ := List.mem_flatMap.1 hm
      exact Ty.holdNoArray_of_mentions t (ih.types t ht) hm
    have hbound : ∀ b ∈ Ty.bindings t.generics m.args, Declaration.isArray b.2 = false ∧ b.2.KeepsArrays := by
      intro b hb
      exact Ty.holdNoArray_iff.1 hargs b.2 (List.of_mem_zip (List.mem_reverse.1 hb)).2
    exact (hlib t (Library.mem_of_get? ht)).mapTypes (Ty.keepsArrays_substitute hbound)
      fun t ht => Ty.isArray_substitute hbound ht

theorem isStable_keepsArrays (settings : Settings) : IsStable settings fun e => e.body.KeepsArrays where
  prune _ he := he.prune
  asOpaque _ := Body.keepsArrays_opaqueType
  stub _ := Body.keepsArrays_opaqueType
  surface _ hlib _ _ _ hs dropUnderscores seq := keepsArrays_onSurface hlib hs dropUnderscores seq
  replacePaths rename _ he := he.mapTypes (Ty.keepsArrays_replacePaths rename)
    fun t ht => (Ty.isArray_replacePaths rename t).trans ht
  assignNames e he := by
    obtain ⟨htypes, hhanded, _⟩ := types_assignNames settings e
    exact ⟨htypes ▸ he.types, hhanded ▸ he.handedOn⟩

/-- No argument of a declared function is an array by itself. -/
def TakesNoArray (e : Entity) : Prop :=
  e.instanceOf = none → ∀ t ∈ e.body.arguments.map (·.ty), Declaration.isArray t = false

theorem isStable_takesNoArray (settings : Settings) : IsStable settings TakesNoArray where
  prune e he hdeclared := by
    intro t ht
    refine he hdeclared t ?_
    unfold prune at ht
    cases hbody : e.body with
    | function args ret never =>
      rw [hbody] at ht
      exact (List.filter_sublist.map _).subset ht
    | _ =>
      rw [hbody] at ht
      cases ht
  asOpaque _ _ _ ht := nomatch ht
  stub _ _ _ ht := nomatch ht
  surface := by
    intro lib hlib included excluded s hs dropUnderscores seq hdeclared
    cases hs with
    | root he => exact hlib _ he hdeclared
    | concrete _ _ _ ht => exact hlib _ (Library.mem_of_get? ht) hdeclared
    | generic => cases hdeclared
  replacePaths rename e he hdeclared := by
    intro t ht
    have htypes : (e.mapTypes (Ty.replacePaths rename)).body.arguments.map (·.ty) =
        (e.body.arguments.map (·.ty)).map (Ty.replacePaths rename) := by
      unfold mapTypes
      cases e.body <;> simp [Body.mapTypes, Body.arguments]
    rw [htypes] at ht
    obtain ⟨x, hx, rfl⟩ := List.mem_map.1 ht
    rw [Ty.isArray_replacePaths]
    exact he hdeclared x hx
  assignNames e he hdeclared := by
    rw [(types_assignNames settings e).2.2]
    exact he hdeclared

end Entity

/-! ### Arrays in the calls of a stream -/

namespace Library

variable {lib : Library}

/-- What is an array behind aliases is an array by itself if no alias stands for one. -/
theorem IsArray.isArray {t : Ty} (h : lib.IsArray t) (hlib : ∀ e ∈ lib.entities, e.body.KeepsArrays) :
    Declaration.isArray t = true := by
  induction h with
  | array => rfl
  | aliased he hbody _ ih =>
    have hhanded := (hlib _ (mem_of_get? he)).handedOn
    rw [hbody] at hhanded
    rw [hhanded _ List.mem_cons_self] at ih
    cases ih

/-- What is an array, but not by itself, is the name of an alias. -/
theorem IsArray.exists_alias {t : Ty} (h : lib.IsArray t) (hnot : Declaration.isArray t = false) :
    ∃ name args e target, t = .path name args ∧ lib.get? name = some e ∧ e.body = .typeAlias target ∧
      lib.IsArray target := by
  cases h with
  | array => cases hnot
  | aliased he hbody h => exact ⟨_, _, _, _, rfl, he, hbody, h⟩

end Library

/-- In what is emitted, an argument of a declared function is an array only behind an alias. And if no declaration
hands an array on in another way, then no function and no function type takes or returns what is an array once
aliases are followed. -/
theorem Pipeline.run_arrays {settings : Settings} {ds : List Declaration} {s : Stream}
    (h : (run settings ds).result = .ok s) :
    (∀ e ∈ s.entities, e.instanceOf = none → ∀ a ∈ e.body.arguments, s.library.IsArray a.ty →
      ∃ name args x target, a.ty = .path name args ∧ s.library.get? name = some x ∧ x.body = .typeAlias target ∧
        s.library.IsArray target) ∧
    ((∀ d ∈ ds, d.KeepsArrays) → ∀ e ∈ s.entities, ∀ t ∈ e.body.exchanged, ¬ s.library.IsArray t) := by
  obtain ⟨forward, order, hs⟩ := run_ok h
  have hprepare := (run_stages h).1
  refine ⟨fun e he hdeclared a ha harray => ?_, fun hds e he t ht harray => ?_⟩
  · have htakes := forall_prepare (Entity.isStable_takesNoArray settings) hprepare
      fun d _ index e hconvert _ t ht => by
        obtain ⟨_, _, body, _, _, hbody, rfl⟩ := Declaration.convert_ok hconvert
        obtain ⟨a, ha, rfl⟩ := List.mem_map.1 ht
        exact Declaration.isArray_convertBody hbody a ha
    exact harray.exists_alias (htakes e (hs.mem_entities.1 he) hdeclared _ (List.mem_map_of_mem ha))
  · have hkeeps := forall_prepare (Entity.isStable_keepsArrays settings) hprepare
      fun d hd _ _ hconvert => Declaration.keepsArrays_convert hconvert (hds d hd)
    have hnot := (hkeeps e (hs.mem_entities.1 he)).exchanged t ht
    rw [harray.isArray hkeeps] at hnot
    cases hnot

/-- A struct with an array, and a function that takes it by pointer together with a function on it. -/
def loom : List Declaration := [
  { Declaration.bare .struct "Row" "crate" with
    body := .struct [⟨"cells", .array (.path "u8" []) "4", []⟩] },
  { Declaration.bare .function "weave" "crate" with
    body := .function [⟨some "row", .pointer (.path "Row" []) true true, []⟩,
      ⟨some "each", .function [(none, .pointer (.path "Row" []) false true)] (some (.path "u8" [])), []⟩]
      none false }]

def loomStream : Stream :=
  let row : Entity := .bare "Row" 0 (.struct [.bare "cells" (.array (.primitive .u8) "4")])
  let weave : Entity := .bare "weave" 1 (.function [
    ⟨some "row", some "row", .pointer (.path "Row" []) true false, none, none⟩,
    ⟨some "each", some "each", .function [(none, .pointer (.path "Row" []) false false)] (.primitive .u8) false,
      none, none⟩] .void false)
  ⟨⟨[row, weave], [], []⟩, [⟨.defineType, row⟩, ⟨.declareFunction, weave⟩]⟩

theorem keepsArrays_loom : ∀ d ∈ loom, d.KeepsArrays := by
  intro d hd
  rcases List.mem_cons.1 hd with rfl | hd
  · refine ⟨fun x hx => ?_, fun _ hx => nomatch hx⟩
    obtain rfl := List.mem_singleton.1 hx
    trivial
  · obtain rfl := List.mem_singleton.1 hd
    refine ⟨fun x hx => ?_, fun _ hx => nomatch hx⟩
    rcases List.mem_cons.1 hx with rfl | hx
    · trivial
    · obtain rfl := List.mem_singleton.1 hx
      exact ⟨⟨⟨rfl, trivial⟩, trivial⟩, rfl, trivial⟩

theorem run_loom : (Pipeline.run .default loom).result = .ok loomStream := by
  have hprepare : (Pipeline.prepare .default loom).result = .ok loomStream.library := by cbv
  have horder : (Pipeline.order loomStream.library).result = .ok loomStream.events := by cbv
  have hemit : (Pipeline.emit loomStream.library loomStream.events).result = .ok loomStream := by cbv
  simp only [Pipeline.run_eq_prepare, Logged.bind_result, hprepare, horder, hemit, Except.bind]

theorem run_arrays_loom : (Pipeline.run .default loom).result = .ok loomStream ∧ (∀ d ∈ loom, d.KeepsArrays) ∧
    ∀ e ∈ loomStream.entities, ∀ t ∈ e.body.exchanged, ¬ loomStream.library.IsArray t :=
  ⟨run_loom, keepsArrays_loom, (Pipeline.run_arrays run_loom).2 keepsArrays_loom⟩

/-- An alias for an array and a generic one, a function that takes both and returns an array, and a struct with a
function type that takes and returns one. -/
def buffers : List Declaration := [
  { Declaration.bare .typeAlias "Buffer" "crate" with body := .typeAlias (some (.array (.path "u8" []) "4")) },
  { Declaration.bare .typeAlias "Row" "crate" with
    generics := ["T"], body := .typeAlias (some (.array (.path "T" []) "2")) },
  { Declaration.bare .function "fill" "crate" with
    body := .function [⟨some "buffer", .path "Buffer" [], []⟩, ⟨some "row", .path "Row" [.path "u8" []], []⟩]
      (some (.array (.path "u8" []) "4")) false },
  { Declaration.bare .struct "Hook" "crate" with
    body := .struct [⟨"call", .function [(none, .array (.path "u8" []) "4")] (some (.path "Buffer" [])), []⟩] }]

def buffersStream : Stream :=
  let buffer : Entity := .bare "Buffer" 0 (.typeAlias (.array (.primitive .u8) "4"))
  let row : Entity := { Entity.bare "Row_u8" 1 (.typeAlias (.array (.primitive .u8) "2")) with
    instanceOf := some ⟨"Row", [.primitive .u8]⟩, seq := 1 }
  let fill : Entity := .bare "fill" 2 (.function [
    ⟨some "buffer", some "buffer", .path "Buffer" [], none, none⟩,
    ⟨some "row", some "row", .path "Row_u8" [], none, none⟩] (.array (.primitive .u8) "4") false)
  let hook : Entity := .bare "Hook" 3 (.struct [
    .bare "call" (.function [(none, .array (.primitive .u8) "4")] (.path "Buffer" []) false)])
  ⟨⟨[buffer, fill, hook, row], [⟨⟨"Row", [.primitive .u8]⟩, row, none⟩], []⟩,
    [⟨.defineType, buffer⟩, ⟨.defineType, row⟩, ⟨.defineType, hook⟩, ⟨.declareFunction, fill⟩]⟩

theorem run_buffers : (Pipeline.run .default buffers).result = .ok buffersStream := by
  have hprepare : (Pipeline.prepare .default buffers).result = .ok buffersStream.library := by cbv
  have horder : (Pipeline.order buffersStream.library).result = .ok buffersStream.events := by cbv
  have hemit : (Pipeline.emit buffersStream.library buffersStream.events).result = .ok buffersStream := by cbv
  simp only [Pipeline.run_eq_prepare, Logged.bind_result, hprepare, horder, hemit, Except.bind]

/-- Whatever the calls of these declarations take and return is an array: by itself, behind an alias or behind an
instance of one. -/
theorem run_buffers_arrays : (Pipeline.run .default buffers).result = .ok buffersStream ∧
    (buffersStream.entities.map fun e => (e.name, e.body.exchanged)) =
      [("Buffer", []), ("Row_u8", []),
        ("Hook", [.array (.primitive .u8) "4", .path "Buffer" []]),
        ("fill", [.path "Buffer" [], .path "Row_u8" [], .array (.primitive .u8) "4"])] ∧
    ∀ e ∈ buffersStream.entities, ∀ t ∈ e.body.exchanged, buffersStream.library.IsArray t := by
  have hexchanged : (buffersStream.entities.map fun e => (e.name, e.body.exchanged)) =
      [("Buffer", []), ("Row_u8", []),
        ("Hook", [.array (.primitive .u8) "4", .path "Buffer" []]),
        ("fill", [.path "Buffer" [], .path "Row_u8" [], .array (.primitive .u8) "4"])] := by cbv
  have hplain : ∀ n, buffersStream.library.IsArray (.array (.primitive .u8) n) := fun n => .array _ n
  have hbuffer : buffersStream.library.IsArray (.path "Buffer" []) := .aliased rfl rfl (hplain "4")
  have hrow : buffersStream.library.IsArray (.path "Row_u8" []) := .aliased rfl rfl (hplain "2")
  refine ⟨run_buffers, hexchanged, fun e he t ht => ?_⟩
  have hmem : (e.name, e.body.exchanged) ∈ buffersStream.entities.map fun e => (e.name, e.body.exchanged) :=
    List.mem_map_of_mem he
  rw [hexchanged] at hmem
  generalize e.body.exchanged = ts at ht hmem
  simp only [List.mem_cons, Prod.mk.injEq, List.not_mem_nil, or_false] at hmem
  rcases hmem with ⟨_, rfl⟩ | ⟨_, rfl⟩ | ⟨_, rfl⟩ | ⟨_, rfl⟩
  · cases ht
  · cases ht
  · simp only [List.mem_cons, List.not_mem_nil, or_false] at ht
    rcases ht with rfl | rfl
    · exact hplain "4"
    · exact hbuffer
  · simp only [List.mem_cons, List.not_mem_nil, or_false] at ht
    rcases ht with rfl | rfl | rfl
    · exact hbuffer
    · exact hrow
    · exact hplain "4"

end CrateHeader
