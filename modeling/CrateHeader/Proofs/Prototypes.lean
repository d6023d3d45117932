import CrateHeader.Proofs.Ellipsis
import CrateHeader.Proofs.MemberNames
import CrateHeader.Proofs.Outlining
import CrateHeader.Proofs.Streaming
import CrateHeader.Proofs.Stubbing

/-!
# Prototypes of declared functions

Whatever the stages do to a function, its arguments stay the enabled parameters of the declaration in their order,
with the mark behind them if it is variadic. What is printed between the parentheses of the prototype depends on
that list alone: it ends in dots because of the mark, or because the last parameter looks like the mark.
-/

namespace CrateHeader

namespace Ty

mutual
theorem substitute_nil : (ty : Ty) → ty.substitute [] = ty
  | primitive _ => rfl
  | path _ [] => rfl
  | path name (first :: rest) => by rw [substitute, substituteAll_nil]; simp
  | pointer target _ _ => by rw [substitute, substitute_nil target]
  | array element _ => by rw [substitute, substitute_nil element]
  | function params ret _ => by rw [substitute, substituteParams_nil params, substitute_nil ret]

theorem substituteAll_nil : (tys : List Ty) → substituteAll [] tys = tys
  | [] => rfl
  | ty :: rest => by rw [substituteAll, substitute_nil ty, substituteAll_nil rest]

theorem substituteParams_nil : (params : List (Option String × Ty)) → substituteParams [] params = params
  | [] => rfl
  | (_, ty) :: rest => by rw [substituteParams, substitute_nil ty, substituteParams_nil rest]
end

end Ty

theorem Body.mapTypes_substitute_nil (b : Body) : b.mapTypes (Ty.substitute []) = b := by
  cases b <;> simp [mapTypes, Ty.substitute_nil]

/-! ### Where an entity comes from -/

namespace Entity

/-- The name that an entity was declared under, for an instance that of its template. -/
def source (e : Entity) : String := (e.instanceOf.map (·.template)).getD e.name

/-- What an instance has in the place of its template's parameters; what was declared has nothing. -/
def typeArgs (e : Entity) : List Ty := (e.instanceOf.map (·.args)).getD []

end Entity

/-- What becomes of a type expression in an entity. -/
def Library.settle (lib : Library) (generics : List String) (typeArgs : List Ty) (type : Expr) : Ty :=
  ((type.lower generics).substitute (Ty.bindings generics typeArgs)).replacePaths lib.instanceName?

/-- What pruning leaves with a body is what is left of an entity. -/
theorem Library.exists_prune_eq {lib : Library} {env : Environment} {marks : List String} {x : Entity}
    (htable : lib.IsTable) (hx : x ∈ (lib.prune env marks).library.entities) (hkind : x.kind ≠ .opaqueType) :
    ∃ e ∈ lib.entities, x = e.prune env := by
  obtain ⟨stubs, hentities, hstubs, _⟩ := exists_stubs htable env marks
  rw [hentities] at hx
  rcases List.mem_append.1 hx with hspared | hstub
  · obtain ⟨e, he, rfl⟩ := List.mem_map.1 hspared
    split at hkind
    · exact absurd rfl hkind
    · next hnot => exact ⟨e, (List.mem_filter.1 he).1, if_neg hnot⟩
  · obtain ⟨r, _, _, rfl, _⟩ := hstubs x hstub
    exact absurd rfl hkind

/-- What is on a surface is an entity of the library with something in the place of its parameters. -/
theorem OnSurface.exists_template {lib : Library} {included excluded : List String} {s : Member}
    (hs : OnSurface lib included excluded s) (dropUnderscores : Bool) (seq : Nat) : ∃ t ∈ lib.entities,
      (s.entity dropUnderscores seq).kind = t.kind ∧ (t.instanceOf = none →
        (s.entity dropUnderscores seq).source = t.name ∧ (s.entity dropUnderscores seq).body =
          t.body.mapTypes (Ty.substitute (Ty.bindings t.generics (s.entity dropUnderscores seq).typeArgs))) := by
  have hdeclared : ∀ t : Entity, t.instanceOf = none → t.source = t.name ∧
      t.body = t.body.mapTypes (Ty.substitute (Ty.bindings t.generics t.typeArgs)) := by
    intro t hnone
    have hargs : Ty.bindings t.generics t.typeArgs = [] := by simp [Ty.bindings, Entity.typeArgs, hnone]
    rw [hargs, Body.mapTypes_substitute_nil, Entity.source, hnone]
    exact ⟨rfl, rfl⟩
  cases hs with
  | root he => exact ⟨_, he, rfl, hdeclared _⟩
  | concrete _ _ _ ht => exact ⟨_, Library.mem_of_get? ht, rfl, hdeclared _⟩
  | generic _ _ _ ht => exact ⟨_, Library.mem_of_get? ht, Body.kind_mapTypes _ _, fun _ => ⟨rfl, rfl⟩⟩

/-- An entity with a body has the one that the enabled part of its declaration is built into, but for its types. -/
theorem Pipeline.exists_source {settings : Settings} {ds : List Declaration} {lib : Library} {e : Entity}
    (h : (prepare settings ds).result = .ok lib) (he : e ∈ lib.entities) (hkind : e.kind ≠ .opaqueType) :
    ∃ d ∈ Declaration.firsts [] ds, d.ident = e.source ∧
      ∃ (index : Nat) (x y : Entity), ((d.enabledPart settings.cfg.environment).convert index).result = .ok x ∧
        y.body = (x.body.mapTypes (Ty.substitute (Ty.bindings d.generics e.typeArgs))).mapTypes
          (Ty.replacePaths lib.instanceName?) ∧ e = y.assignNames settings := by
  obtain ⟨built, w', hbuilt, hspecialize, rfl⟩ := prepare_stages h
  have hfresh := Library.isFresh_prune settings.cfg.environment settings.surface.opaqueMarks
    (Library.isFresh_build hbuilt)
  obtain ⟨walk, owner, hinv, _, hlib⟩ := Workshop.specialize_ok hfresh.table hfresh.unused hspecialize
  have hrecorded : (w'.library.assignNames settings).recorded = walk.workshop.library.recorded := by
    change w'.library.recorded = _
    rw [hlib]
    exact Library.recorded_keepReached
  obtain ⟨y, hy, rfl⟩ := List.mem_map.1 he
  rw [hlib, Library.entities_keepReached] at hy
  obtain ⟨z, hz, rfl⟩ := List.mem_map.1 hy
  obtain ⟨hmem, hreached, _⟩ := Library.mem_survivors.1 hz
  obtain ⟨m, seq, hsurface, rfl⟩ := hinv.sound hmem hreached
  obtain ⟨t, ht, hsame, htemplate⟩ := hsurface.exists_template settings.specialization.dropUnderscores seq
  rw [Entity.kind_assignNames, Entity.kind, Entity.mapTypes, Body.kind_mapTypes] at hkind
  obtain ⟨x, hx, rfl⟩ := Library.exists_prune_eq (Library.isFresh_build hbuilt).table ht (hsame ▸ hkind)
  obtain ⟨⟨d, index⟩, hd, hconvert⟩ := Declaration.exists_convert (Library.build_declares hbuilt) hx
  obtain ⟨_, _, _, _, _, _, hx'⟩ := Declaration.convert_ok hconvert
  obtain ⟨hsource, hbody⟩ := htemplate (by rw [hx']; rfl)
  refine ⟨d, List.fst_mem_of_mem_zipIdx hd, ?_, index, _, _,
    Declaration.convert_enabledPart settings.cfg.environment hconvert, ?_, rfl⟩
  · exact (Library.ident_of_convert hconvert).1.symm.trans hsource.symm
  · rw [Library.instanceName?_eq_of_recorded_eq hrecorded, Entity.mapTypes, hbody]
    subst hx'
    rfl

/-! ### Arguments through the stages -/

/-- Are arguments of an entity what has become of some parameters? -/
structure Library.Settles (lib : Library) (generics : List String) (typeArgs : List Ty) (params : List ParamDecl)
    (args : List Argument) : Prop where
  names : args.map (·.name) = params.map (·.name)
  named : ∀ a ∈ args, a.exportName.isNone = a.name.isNone
  types : args.map (·.ty) = params.map fun p => lib.settle generics typeArgs p.type

theorem Declaration.arguments_convert {d : Declaration} {index : Nat} {x : Entity} {params : List ParamDecl}
    {returns : Option Expr} {variadic : Bool} (h : (d.convert index).result = .ok x)
    (hbody : d.body = .function params returns variadic) : ∃ args ret never,
      x.body = .function (marked variadic args) ret never ∧ args.map (·.name) = params.map (·.name) ∧
      args.map (·.ty) = params.map (fun p => p.type.lower d.generics) ∧ ∀ a ∈ args, a.exportName = a.name := by
  obtain ⟨said, inherited, body, _, _, hconvert, rfl⟩ := convert_ok h
  rw [hbody] at hconvert
  unfold convertBody at hconvert
  obtain ⟨args, hargs, hconvert⟩ := Logged.bind_ok hconvert
  dsimp only at hconvert
  obtain ⟨_, _, hconvert⟩ := Logged.bind_ok hconvert
  cases hconvert
  obtain ⟨hnames, hexport⟩ := names_convertParams hargs
  refine ⟨(args.map (giveLength said.annotations d.ident)).map Prod.fst, _, _, rfl, ?_, ?_, ?_⟩
  · simpa [Function.comp_def, name_giveLength] using hnames
  · simpa [Function.comp_def, ty_giveLength] using types_convertParams hargs
  · simpa [name_giveLength] using hexport

theorem Argument.ty_named (rule : RenameRule) (a : Argument) : (a.named rule).ty = a.ty := by
  unfold named
  split <;> rfl

/-- An argument is given a name for C if it has one. -/
theorem Argument.isNone_named (rule : RenameRule) {a : Argument} (h : a.exportName = a.name) :
    (a.named rule).exportName.isNone = a.name.isNone := by
  unfold named
  split
  · rw [h]
  · next hname => rw [hname]; rfl

theorem Declaration.map_marked {f : Argument → Argument} (hf : f variadicMark = variadicMark) (variadic : Bool)
    (args : List Argument) : (marked variadic args).map f = marked variadic (args.map f) := by
  cases variadic <;> simp [marked, hf]

theorem Entity.body_assignNames (settings : Settings) {e : Entity} {args : List Argument} {ret : Ty} {never : Bool}
    (h : e.body = .function args ret never) : ∃ rule, (e.assignNames settings).body =
      .function (args.map (Argument.named rule)) ret never := by
  refine ⟨e.memberRule settings.function.renameArgs, ?_⟩
  simp only [assignNames, nameMembers, h]
  rfl

namespace Pipeline

variable {settings : Settings} {ds : List Declaration} {lib : Library} {e : Entity} {d : Declaration}
  {params : List ParamDecl} {returns : Option Expr} {variadic : Bool}

theorem nodup_firsts (h : (prepare settings ds).result = .ok lib) :
    ((Declaration.firsts [] ds).map (·.ident)).Nodup := by
  obtain ⟨built, _, hbuilt, _, _⟩ := prepare_stages h
  rw [← Library.names_of_declares (Library.build_declares hbuilt)]
  exact (Library.isFresh_build hbuilt).table

/-- A function has the enabled parameters of its declaration, and the mark if that is variadic. -/
theorem exists_arguments (h : (prepare settings ds).result = .ok lib) (he : e ∈ lib.entities)
    (hkind : e.kind ≠ .opaqueType) (hd : d ∈ Declaration.firsts [] ds) (hsource : d.ident = e.source)
    (hbody : d.body = .function params returns variadic) : ∃ args ret never,
      e.body = .function (Declaration.marked variadic args) ret never ∧
      lib.Settles d.generics e.typeArgs (params.filter (·.isEnabled settings.cfg.environment)) args := by
  obtain ⟨d', hd', hident, index, x, y, hconvert, hy, he'⟩ := exists_source h he hkind
  obtain rfl := List.inj_on_of_nodup_map (nodup_firsts h) hd' hd (hident.trans hsource.symm)
  have hpart : (d'.enabledPart settings.cfg.environment).body =
      .function (params.filter (·.isEnabled settings.cfg.environment)) returns variadic := by
    rw [Declaration.enabledPart, hbody]
    rfl
  obtain ⟨args, ret, never, hx, hnames, htypes, hexport⟩ := Declaration.arguments_convert hconvert hpart
  rw [hx, Body.mapTypes, Body.mapTypes] at hy
  obtain ⟨rule, hnamed⟩ := Entity.body_assignNames settings hy
  rw [Declaration.map_marked rfl, Declaration.map_marked rfl, Declaration.map_marked rfl, ← he'] at hnamed
  refine ⟨_, _, _, hnamed, ?_, ?_, ?_⟩
  · simpa [Function.comp_def, Argument.name_named] using hnames
  · simp only [List.forall_mem_map]
    intro a ha
    rw [Argument.name_named]
    exact Argument.isNone_named rule (hexport a ha)
  · have hsettled := congrArg (List.map fun ty =>
      (ty.substitute (Ty.bindings d'.generics e.typeArgs)).replacePaths lib.instanceName?) htypes
    simpa [Function.comp_def, Argument.ty_named, Library.settle, Declaration.enabledPart] using hsettled

end Pipeline

/-! ### What is printed -/

/-- The prototype of a function around the texts of its parameters. -/
def Header.prototype (settings : Settings) (lib : Library) (e : Entity) (ret : Ty) (never : Bool)
    (texts : List String) : String :=
  (Declarator.under (.function (Declarator.listed texts) never) (Declarator.ofTy (nameOf lib) false ret)).render
    (some e.exportName) (Written.noReturn settings) ++ ";"

theorem Header.valueLines_function {settings : Settings} {lib : Library} {e : Entity} {args : List Argument}
    {ret : Ty} {never : Bool} (h : e.body = .function args ret never) : valueLines settings lib e =
      valueHead settings e ++
        [prototype settings lib e ret never (Declarator.printedParams (nameOf lib) args)] := by
  have hlist := Declarator.paramList_eq (args.map (Declarator.parameter (nameOf lib)))
  rw [prototype, Declarator.printedParams, ← hlist, lines_valueBlock, Block.lines, valueBlock, writtenValue, h]
  rfl

namespace Stream.IsMade

variable {s : Stream} {forward : List String} {order : List Entity} {e : Entity}

theorem kind_of_declareFunction (hs : s.IsMade forward order) (h : ⟨.declareFunction, e⟩ ∈ s.events) :
    e.kind = .function := by
  rw [hs.perm.mem_iff] at h
  have hboth : e ∈ s.library.entities ∧ e.kind = .function := by
    simpa [Library.announcements, Library.ofKind] using h
  exact hboth.2

end Stream.IsMade

open Declarator (own parameter parameterInFull printedParams getLast?_printedParams printedParams_eq_iff)

/-- The prototype of a declared function lists the parameters that are enabled, and it ends in dots if the function
is variadic, if its last parameter looks as if it were, or if dots are the name of that parameter's own type. Every
parameter is printed as one of its own type, with the dots behind them for a variadic function and nothing for any
other, exactly if no parameter of a function type inside those types is taken for the dots and neither is the last
parameter of a function that is not variadic. -/
theorem Pipeline.run_prototype {settings : Settings} {ds : List Declaration} {s : Stream} {d : Declaration}
    {params : List ParamDecl} {returns : Option Expr} {variadic : Bool} {e : Entity}
    (h : (run settings ds).result = .ok s) (hd : d ∈ Declaration.firsts [] ds)
    (hbody : d.body = .function params returns variadic) (he : ⟨.declareFunction, e⟩ ∈ s.events)
    (hsource : d.ident = e.source) :
    let names := Header.nameOf s.library
    ∃ args ret never, e.body = .function (Declaration.marked variadic args) ret never ∧
      s.library.Settles d.generics e.typeArgs (params.filter (·.isEnabled settings.cfg.environment)) args ∧
      Header.valueLines settings s.library e ∈ Header.blocksOf settings s [.declareStatic, .declareFunction] ∧
      Header.valueLines settings s.library e = Header.valueHead settings e ++
        [Header.prototype settings s.library e ret never (printedParams names (Declaration.marked variadic args))] ∧
      ((printedParams names (Declaration.marked variadic args)).getLast? = some "..." ↔
        variadic = true ∨ ∃ a ∈ args.getLast?, a.isBare names = true ∨ own (parameter names a) = "...") ∧
      (printedParams names (Declaration.marked variadic args) =
          args.map (fun a => own (parameterInFull names a)) ++ (if variadic then ["..."] else []) ↔
        (∀ a ∈ args, a.ty.taken names = 0) ∧ (variadic = true ∨ ∀ a ∈ args.getLast?, a.isBare names = false)) := by
  intro names
  obtain ⟨hprepare, _⟩ := run_stages h
  obtain ⟨forward, order, hmade⟩ := run_ok h
  have hkind : e.kind ≠ .opaqueType := by
    rw [hmade.kind_of_declareFunction he]
    nofun
  obtain ⟨args, ret, never, hargs, hsettles⟩ :=
    exists_arguments hprepare (hmade.mem_library_of_mem_events he) hkind hd hsource hbody
  exact ⟨args, ret, never, hargs, hsettles, List.mem_map.2 ⟨_, List.mem_filter.2 ⟨he, rfl⟩, rfl⟩,
    Header.valueLines_function hargs, getLast?_printedParams args variadic, printedParams_eq_iff args variadic⟩

/-! ### Telegrams -/

def telegram : ParamDecl := ⟨some "text", .pointer (.path "c_char" []) false false, []⟩

/-- A variadic function and three that are not: one with a list that has no name, one with a list that has one, and
one that takes a function with a list. -/
def telegraph : List Declaration := [
  { Declaration.bare .function "send" "crate" with body := .function [telegram] none true },
  { Declaration.bare .function "forward" "crate" with
    body := .function [telegram, ⟨none, .path "VaList" [], []⟩] none false },
  { Declaration.bare .function "repeat" "crate" with
    body := .function [telegram, ⟨some "list", .path "VaList" [], []⟩] none false },
  { Declaration.bare .function "listen" "crate" with
    body := .function [⟨some "each", .function [(none, .path "VaList" [])] none, []⟩] none false }]

def telegraphText : Argument := ⟨some "text", some "text", .pointer (.primitive .cChar) false true, none, none⟩

def telegraphSend : Entity :=
  .bare "send" 0 (.function [telegraphText, Declaration.variadicMark] .void false)

def telegraphForward : Entity :=
  .bare "forward" 1 (.function [telegraphText, Declaration.variadicMark] .void false)

def telegraphRepeat : Entity := .bare "repeat" 2 (.function
  [telegraphText, ⟨some "list", some "list", .primitive .vaList, none, none⟩] .void false)

def telegraphListen : Entity := .bare "listen" 3 (.function
  [⟨some "each", some "each", .function [(none, .primitive .vaList)] .void false, none, none⟩] .void false)

def telegraphStream : Stream where
  library := ⟨[telegraphSend, telegraphForward, telegraphRepeat, telegraphListen], [], []⟩
  events := [⟨.declareFunction, telegraphSend⟩, ⟨.declareFunction, telegraphForward⟩,
    ⟨.declareFunction, telegraphRepeat⟩, ⟨.declareFunction, telegraphListen⟩]

theorem run_telegraph : (Pipeline.run .default telegraph).result = .ok telegraphStream := by
  have hprepare : (Pipeline.prepare .default telegraph).result = .ok telegraphStream.library := by cbv
  have horder : (Pipeline.order telegraphStream.library).result = .ok telegraphStream.events := by cbv
  have hemit : (Pipeline.emit telegraphStream.library telegraphStream.events).result = .ok telegraphStream := by cbv
  simp only [Pipeline.run_eq_prepare, Logged.bind_result, hprepare, horder, hemit, Except.bind]

theorem run_prototype_send : (Pipeline.run .default telegraph).result = .ok telegraphStream ∧
    (∃ d ∈ Declaration.firsts [] telegraph, d.body = .function [telegram] none true ∧
      ⟨.declareFunction, telegraphSend⟩ ∈ telegraphStream.events ∧ d.ident = telegraphSend.source ∧
      ∃ args ret never, telegraphSend.body = .function (Declaration.marked true args) ret never ∧
        telegraphStream.library.Settles d.generics telegraphSend.typeArgs [telegram] args ∧
        (printedParams (Header.nameOf telegraphStream.library) (Declaration.marked true args)).getLast? = some "...") ∧
    Header.valueLines .default telegraphStream.library telegraphSend = ["void send(const char *text, ...);"] := by
  have hevent : ⟨.declareFunction, telegraphSend⟩ ∈ telegraphStream.events := List.mem_cons_self
  refine ⟨run_telegraph, ⟨_, List.mem_cons_self, rfl, hevent, rfl, ?_⟩, by decide⟩
  obtain ⟨args, ret, never, hbody, hsettles, _, _, hdots, _⟩ :=
    Pipeline.run_prototype run_telegraph List.mem_cons_self rfl hevent rfl
  exact ⟨args, ret, never, hbody, hsettles, hdots.2 (.inl rfl)⟩

/-- A list without a name is printed as the dots of a variadic function, one with a name is not; among the parameters
of a function type it is again. -/
theorem prototype_forward : (Pipeline.run .default telegraph).result = .ok telegraphStream ∧
    (∃ d ∈ Declaration.firsts [] telegraph,
      d.body = .function [telegram, ⟨none, .path "VaList" [], []⟩] none false ∧ d.ident = telegraphForward.source) ∧
    ⟨.declareFunction, telegraphForward⟩ ∈ telegraphStream.events ∧
    Header.valueLines .default telegraphStream.library telegraphForward = ["void forward(const char *text, ...);"] ∧
    Header.valueLines .default telegraphStream.library telegraphRepeat =
      ["void repeat(const char *text, va_list list);"] ∧
    Header.valueLines .default telegraphStream.library telegraphListen = ["void listen(void (*each)(...));"] := by
  refine ⟨run_telegraph, ⟨_, List.mem_cons_of_mem _ List.mem_cons_self, rfl, rfl⟩, ?_, ?_, ?_, ?_⟩
  · exact List.mem_cons_of_mem _ List.mem_cons_self
  all_goals decide

end CrateHeader
