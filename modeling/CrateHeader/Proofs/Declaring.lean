import CrateHeader.Cfg.Environment
import CrateHeader.Library.Builder
import CrateHeader.Library.Pruning
import CrateHeader.Proofs.Table

/-!
# Declarations and what is built from them

A declaration carries predicates as they are written: its own, those of its module and its crate, and those of
its members. Building reads them, puts those of one level together and joins the levels, and no predicate is
lost or gained by that. So leaving out the disabled members of a declaration before it is built gives what
pruning leaves of the entity.
-/

namespace CrateHeader

variable {env : Environment}

namespace Cfg

/-! ### Putting predicates together -/

theorem holdsAll_append (env : Environment) (as bs : List Cfg) :
    holdsAll env (as ++ bs) = (holdsAll env as && holdsAll env bs) := by
  simp [holdsAll_eq_all]

theorem holds_of_mem {as : List Cfg} {c : Cfg} (hc : c ∈ as) (h : holdsAll env as = true) :
    c.holds env = true := by
  rw [holdsAll_eq_all, List.all_eq_true] at h
  exact h c hc

/-- A conjunct that is there already adds nothing. -/
theorem holdsAll_addNew (items cs : List Cfg) :
    holdsAll env (addNew items cs) = (holdsAll env items && holdsAll env cs) := by
  induction cs generalizing items with
  | nil => simp [addNew, holdsAll]
  | cons c rest ih =>
    rw [addNew, ih, holdsAll]
    by_cases hc : c ∈ items
    · rw [if_pos hc]
      cases hitems : holdsAll env items with
      | false => rfl
      | true => simp [holds_of_mem hc hitems]
    · rw [if_neg hc, holdsAll_append]
      simp [holdsAll, Bool.and_assoc]

theorem holdsAll_conjuncts (c : Cfg) : holdsAll env c.conjuncts = c.holds env := by
  cases c <;> simp [conjuncts, holdsAll, holds]

theorem holdsAll_foldl_addNew (env : Environment) (cfgs : List (Option Cfg)) (items : List Cfg) :
    holdsAll env (cfgs.foldl (fun items c => addNew items ((c.map conjuncts).getD [])) items) =
      (holdsAll env items && cfgs.all (allows env)) := by
  induction cfgs generalizing items with
  | nil => simp
  | cons c rest ih =>
    have hc : holdsAll env ((c.map conjuncts).getD []) = allows env c := by
      cases c with
      | none => rfl
      | some c => exact holdsAll_conjuncts c
    rw [List.foldl_cons, ih, holdsAll_addNew, hc, List.all_cons, Bool.and_assoc]

/-- A joined predicate allows what each of its parts allows. -/
theorem allows_join (cfgs : List (Option Cfg)) : allows env (join cfgs) = cfgs.all (allows env) := by
  have h := holdsAll_foldl_addNew env cfgs []
  unfold join
  split
  · next hnone =>
    rw [hnone] at h
    simpa [holdsAll, allows] using h
  · next c hone =>
    rw [hone] at h
    simpa [holdsAll, allows] using h
  · next items hitems hne =>
    simpa [holdsAll, allows, holds] using h

/-- Is a text a predicate, and one that holds? -/
def textHolds (env : Environment) (text : String) : Bool :=
  match read text with
  | .ok c => c.holds env
  | .error _ => false

end Cfg

/-- Only predicates forbid anything. -/
def Attribute.allows (env : Environment) (a : Attribute) : Bool :=
  a.name != "cfg" || Cfg.textHolds env (a.value.getD "")

namespace AttributeSummary

variable {owner text : String} {cfg : Cfg}

theorem holds_readPredicate (env : Environment) (h : readPredicate owner text = .ok cfg) :
    cfg.holds env = Cfg.textHolds env text := by
  unfold readPredicate at h
  unfold Cfg.textHolds
  cases hread : Cfg.read text with
  | error e => rw [hread] at h; cases h
  | ok c => rw [hread] at h; cases h; rfl

theorem holds_collect {as : List Attribute} {found : List Cfg × List String × Annotations}
    (h : (collect owner as).result = .ok found) :
    found.1.all (Cfg.holds env) = as.all (Attribute.allows env) := by
  induction as generalizing found with
  | nil => cases h; rfl
  | cons a rest ih =>
    unfold collect at h
    split at h
    · next hcfg =>
      obtain ⟨cfg, hread, h⟩ := Logged.bind_ok h
      obtain ⟨others, hothers, h⟩ := Logged.bind_ok h
      cases h
      simp [ih hothers, Attribute.allows, hcfg, holds_readPredicate env hread]
    · next hcfg =>
      have hallows : a.allows env = true := by simp [Attribute.allows, hcfg]
      rw [List.all_cons, hallows, Bool.true_and]
      split at h
      · obtain ⟨others, hothers, h⟩ := Logged.bind_ok h
        cases h
        have hfound := ih hothers
        exact hfound
      · obtain ⟨_, _, h⟩ := Logged.bind_ok h
        obtain ⟨others, hothers, h⟩ := Logged.bind_ok h
        cases h
        have hfound := ih hothers
        exact hfound

/-- The predicate of one level allows what each attribute of the level allows. -/
theorem allows_read {as : List Attribute} {said : AttributeSummary}
    (h : (read owner as).result = .ok said) :
    Cfg.allows env said.cfg = as.all (Attribute.allows env) := by
  unfold read at h
  obtain ⟨found, hfound, h⟩ := Logged.bind_ok h
  cases h
  dsimp only
  rw [Cfg.allows_join, ← holds_collect hfound, List.all_map]
  rfl

end AttributeSummary

/-! ### What an environment enables of a declaration -/

def FieldDecl.isEnabled (env : Environment) (f : FieldDecl) : Bool := f.attributes.all (Attribute.allows env)

def VariantDecl.isEnabled (env : Environment) (v : VariantDecl) : Bool :=
  v.attributes.all (Attribute.allows env)

def ParamDecl.isEnabled (env : Environment) (p : ParamDecl) : Bool := p.attributes.all (Attribute.allows env)

/-- A declaration's body with its enabled members only. -/
def DeclBody.enabledPart (env : Environment) : DeclBody → DeclBody
  | .struct fields => .struct (fields.filter (·.isEnabled env))
  | .union fields => .union (fields.filter (·.isEnabled env))
  | .enum variants => .enum ((variants.filter (·.isEnabled env)).map fun v =>
      { v with fields := v.fields.filter (·.isEnabled env) })
  | .function params returns variadic => .function (params.filter (·.isEnabled env)) returns variadic
  | body => body

namespace Declaration

/-- A predicate around a declaration is a text, of the crate or of the module. -/
def allowsInherited (env : Environment) : Document → Bool
  | .text s => Cfg.textHolds env s
  | _ => false

/-- Does every single predicate on and around a declaration hold? -/
def isEnabled (env : Environment) (d : Declaration) : Bool :=
  d.inherited.all (allowsInherited env) && d.attributes.all (Attribute.allows env)

def enabledPart (env : Environment) (d : Declaration) : Declaration :=
  { d with body := d.body.enabledPart env }

/-! ### Building members -/

section Members

variable {generics : List String} {owner ident : String}

theorem convertFields_filter {ds : List FieldDecl} {fs : List Field}
    (h : (convertFields generics owner ds).result = .ok fs) :
    (convertFields generics owner (ds.filter (·.isEnabled env))).result =
      .ok (Body.pruneFields env fs) := by
  induction ds generalizing fs with
  | nil => cases h; rfl
  | cons d rest ih =>
    unfold convertFields at h
    obtain ⟨said, hsaid, h⟩ := Logged.bind_ok h
    obtain ⟨others, hothers, h⟩ := Logged.bind_ok h
    cases h
    have hallows : Cfg.allows env said.cfg = d.isEnabled env := AttributeSummary.allows_read hsaid
    cases hd : d.isEnabled env with
    | true => simp [convertFields, Body.pruneFields, hd, hallows, hsaid, ih hothers, Except.bind, Except.map]
    | false => simp [Body.pruneFields, hd, hallows, ih hothers]

theorem convertVariants_filter {ds : List VariantDecl} {vs : List Variant}
    (h : (convertVariants generics ident ds).result = .ok vs) :
    (convertVariants generics ident ((ds.filter (·.isEnabled env)).map fun d =>
        { d with fields := d.fields.filter (·.isEnabled env) })).result =
      .ok ((vs.filter fun v => Cfg.allows env v.cfg).map fun v =>
        { v with fields := Body.pruneFields env v.fields }) := by
  induction ds generalizing vs with
  | nil => cases h; rfl
  | cons d rest ih =>
    unfold convertVariants at h
    obtain ⟨said, hsaid, h⟩ := Logged.bind_ok h
    obtain ⟨fields, hfields, h⟩ := Logged.bind_ok h
    obtain ⟨others, hothers, h⟩ := Logged.bind_ok h
    cases h
    have hallows : Cfg.allows env said.cfg = d.isEnabled env := AttributeSummary.allows_read hsaid
    cases hd : d.isEnabled env with
    | true =>
      simp [convertVariants, hd, hallows, hsaid, convertFields_filter hfields, ih hothers, Except.bind, Except.map]
    | false => simp [hd, hallows, ih hothers]

theorem convertParams_filter {ds : List ParamDecl} {args : List Argument}
    (h : (convertParams generics ident ds).result = .ok args) :
    (convertParams generics ident (ds.filter (·.isEnabled env))).result =
      .ok (args.filter fun a => Cfg.allows env a.cfg) := by
  induction ds generalizing args with
  | nil => cases h; rfl
  | cons d rest ih =>
    unfold convertParams at h
    obtain ⟨said, hsaid, h⟩ := Logged.bind_ok h
    dsimp only at h
    split at h
    · cases h
    · next harray =>
      obtain ⟨others, hothers, h⟩ := Logged.bind_ok h
      cases h
      have hallows : Cfg.allows env said.cfg = d.isEnabled env := AttributeSummary.allows_read hsaid
      cases hd : d.isEnabled env with
      | true => simp [convertParams, hd, hallows, hsaid, harray, ih hothers, Except.bind, Except.map]
      | false => simp [hd, hallows, ih hothers]

theorem cfg_giveLength (annotations : Annotations) (arg : Argument) :
    (giveLength annotations ident arg).1.cfg = arg.cfg := by
  unfold giveLength
  repeat' split
  all_goals rfl

/-- Lengths are given to one argument at a time. -/
theorem filter_sized (annotations : Annotations) (args : List Argument) :
    ((args.map fun arg => (giveLength annotations ident arg).1).filter fun a => Cfg.allows env a.cfg) =
      (args.filter fun a => Cfg.allows env a.cfg).map fun arg => (giveLength annotations ident arg).1 := by
  simp [List.filter_map, Function.comp_def, cfg_giveLength]

theorem filter_variadicMark (variadic : Bool) :
    ((if variadic then [variadicMark] else []).filter fun a => Cfg.allows env a.cfg) =
      if variadic then [variadicMark] else [] := by
  cases variadic <;> rfl

/-- The body of the enabled part of a declaration is what pruning leaves of the body. -/
theorem convertBody_enabledPart (env : Environment) {annotations : Annotations} {decl : DeclBody} {body : Body}
    (h : (convertBody generics ident annotations decl).result = .ok body) :
    (convertBody generics ident annotations (decl.enabledPart env)).result =
      .ok (body.prune env) := by
  cases decl with
  | struct fields =>
    obtain ⟨fs, hfields, h⟩ := Logged.bind_ok h
    cases h
    simp [convertBody, DeclBody.enabledPart, Body.prune, convertFields_filter hfields, Except.map]
  | union fields =>
    obtain ⟨fs, hfields, h⟩ := Logged.bind_ok h
    cases h
    simp [convertBody, DeclBody.enabledPart, Body.prune, convertFields_filter hfields, Except.map]
  | enum variants =>
    obtain ⟨vs, hvariants, h⟩ := Logged.bind_ok h
    cases h
    simp [convertBody, DeclBody.enabledPart, Body.prune, convertVariants_filter hvariants, Except.map]
  | function params returns variadic =>
    obtain ⟨args, hargs, h⟩ := Logged.bind_ok h
    obtain ⟨_, _, h⟩ := Logged.bind_ok h
    cases h
    simp [convertBody, DeclBody.enabledPart, Body.prune, convertParams_filter hargs, Except.bind, Except.map,
      filter_sized, filter_variadicMark, Function.comp_def]
  | opaqueType => cases h; rfl
  | typeAlias target =>
    obtain ⟨ty, hty, hbody⟩ := Logged.bind_ok h
    cases hbody
    exact h
  | constant type value =>
    obtain ⟨ty, hty, hbody⟩ := Logged.bind_ok h
    cases hbody
    exact h
  | static type isMut =>
    obtain ⟨ty, hty, hbody⟩ := Logged.bind_ok h
    cases hbody
    exact h

end Members

/-! ### Building a declaration -/

variable {d : Declaration} {index : Nat} {e : Entity}

theorem not_readPredicate_empty (owner : String) (cfg : Cfg) :
    AttributeSummary.readPredicate owner "" ≠ .ok cfg := by
  have hread : Cfg.read "" = .error .unexpectedEnd := by cbv
  simp [AttributeSummary.readPredicate, hread, Except.mapError]

/-- Around a declaration that can be built all predicates are texts. -/
theorem holds_readInherited {owner : String} {p : Document} {cfg : Cfg}
    (h : readInherited owner p = .ok cfg) : cfg.holds env = allowsInherited env p := by
  unfold readInherited at h
  split at h
  · exact AttributeSummary.holds_readPredicate env h
  · split at h
    · cases h
    · exact absurd h (not_readPredicate_empty owner cfg)

theorem holds_mapM_readInherited {owner : String} {ps : List Document} {cfgs : List Cfg}
    (h : ps.mapM (readInherited owner) = .ok cfgs) :
    cfgs.all (Cfg.holds env) = ps.all (allowsInherited env) := by
  induction ps generalizing cfgs with
  | nil => cases h; rfl
  | cons p rest ih =>
    rw [List.mapM_cons] at h
    cases hp : readInherited owner p with
    | error e => rw [hp] at h; cases h
    | ok cfg =>
      cases hrest : rest.mapM (readInherited owner) with
      | error e => rw [hp, hrest] at h; cases h
      | ok others =>
        rw [hp, hrest] at h
        cases h
        rw [List.all_cons, List.all_cons, ih hrest, holds_readInherited hp]

theorem allows_inheritedCfg {cfg : Option Cfg} (h : d.inheritedCfg = .ok cfg) :
    Cfg.allows env cfg = d.inherited.all (allowsInherited env) := by
  unfold inheritedCfg at h
  cases hread : d.inherited.mapM (readInherited d.ident) with
  | error e => rw [hread] at h; cases h
  | ok cfgs =>
    rw [hread] at h
    cases h
    rw [Cfg.allows_join, ← holds_mapM_readInherited hread, List.all_map]
    rfl

/-- What is known of the entity that a declaration stands for. -/
theorem convert_ok (h : (d.convert index).result = .ok e) :
    ∃ said inherited body, (AttributeSummary.read d.ident d.attributes).result = .ok said ∧
      d.inheritedCfg = .ok inherited ∧
      (convertBody d.generics d.ident said.annotations d.body).result = .ok body ∧
      e = ⟨d.ident, d.ident, d.generics, said.docs, Cfg.join [inherited, said.cfg], said.annotations,
        d.crate, index, d.exported, none, 0, false, body⟩ := by
  unfold convert at h
  obtain ⟨said, hsaid, h⟩ := Logged.bind_ok h
  obtain ⟨inherited, hinherited, h⟩ := Logged.bind_ok h
  obtain ⟨body, hbody, h⟩ := Logged.bind_ok h
  cases h
  exact ⟨said, inherited, body, hsaid, hinherited, hbody, rfl⟩

/-- The predicate of an entity allows what every single predicate of the declaration allows. -/
theorem isEnabled_convert (h : (d.convert index).result = .ok e) :
    e.isEnabled env = d.isEnabled env := by
  obtain ⟨said, inherited, body, hsaid, hinherited, _, rfl⟩ := convert_ok h
  simp [Entity.isEnabled, isEnabled, Cfg.allows_join, allows_inheritedCfg hinherited,
    AttributeSummary.allows_read hsaid]

/-- Pruning the members of an entity is building it from the enabled part of its declaration. -/
theorem convert_enabledPart (env : Environment) (h : (d.convert index).result = .ok e) :
    ((d.enabledPart env).convert index).result = .ok (e.prune env) := by
  obtain ⟨said, inherited, body, hsaid, hinherited, hbody, rfl⟩ := convert_ok h
  have hpart := convertBody_enabledPart env hbody
  have hsame : (d.enabledPart env).inheritedCfg = .ok inherited := hinherited
  simp only [convert, Logged.bind_result, Logged.ofExcept_result, hsame]
  simp [enabledPart, hsaid, hpart, Except.bind, Entity.prune]

/-! ### Building a library -/

/-- The declarations that count, the first of each name that is not taken yet. -/
def firsts (taken : List String) : List Declaration → List Declaration
  | [] => []
  | d :: rest => if taken.contains d.ident then firsts taken rest else d :: firsts (d.ident :: taken) rest

end Declaration

/-- Do entities stand for declarations, each at its place, counted from the given one? -/
abbrev Declares (index : Nat) (ds : List Declaration) (es : List Entity) : Prop :=
  List.Forall₂ (fun p e => (p.1.convert p.2).result = .ok e) (ds.zipIdx index) es

namespace Builder

variable {b : Builder} {d : Declaration} {ds : List Declaration}

theorem lookup_eq_none_iff {owners : List (String × String)} {name : String} :
    owners.lookup name = none ↔ name ∉ owners.map Prod.fst := by
  rw [List.lookup_eq_none_iff, List.mem_map]
  constructor
  · rintro h ⟨p, hp, rfl⟩
    exact absurd (h p hp) (by simp)
  · intro h p hp
    exact bne_iff_ne.2 fun hname => h ⟨p, hp, hname.symm⟩

/-- A declaration that is added is passed over or builds the next entity. -/
theorem add_ok (h : (b.add d).2.result = .ok ()) :
    (d.ident ∈ b.declared.map Prod.fst ∧ (b.add d).1 = b) ∨
      (d.ident ∉ b.declared.map Prod.fst ∧ ∃ e, (d.convert b.nextIndex).result = .ok e ∧
        (b.add d).1 = ⟨b.library.push e, (d.ident, d.crate) :: b.declared, b.nextIndex + 1⟩) := by
  unfold add at h ⊢
  cases hlookup : b.declared.lookup d.ident with
  | some first =>
    rw [hlookup] at h
    have hmem : d.ident ∈ b.declared.map Prod.fst := by
      by_contra hnot
      rw [lookup_eq_none_iff.2 hnot] at hlookup
      cases hlookup
    refine .inl ⟨hmem, ?_⟩
    dsimp only
    split <;> rfl
  | none =>
    have hnot := lookup_eq_none_iff.1 hlookup
    rw [hlookup] at h
    dsimp only at h ⊢
    split at h
    · cases h
    · next e he =>
      split at h
      · cases h
      · next hfree => exact .inr ⟨hnot, e, he, by simp [hfree]⟩

theorem addAll_ok (h : (b.addAll ds).2.result = .ok ()) :
    ∃ es, (b.addAll ds).1.library.entities = b.library.entities ++ es ∧
      Declares b.nextIndex (Declaration.firsts (b.declared.map Prod.fst) ds) es := by
  induction ds generalizing b with
  | nil => exact ⟨[], by simp [addAll], .nil⟩
  | cons d rest ih =>
    unfold addAll at h ⊢
    dsimp only at h ⊢
    cases hadd : (b.add d).2.result with
    | error e => rw [hadd] at h; cases h
    | ok _ =>
      rw [hadd] at h
      dsimp only at h ⊢
      obtain ⟨es, hes, hdeclares⟩ := ih h
      rcases add_ok hadd with ⟨htaken, hsame⟩ | ⟨hfree, e, he, hnext⟩
      · rw [hsame] at hes hdeclares
        rw [Declaration.firsts, if_pos (by simpa using htaken)]
        rw [hsame]
        exact ⟨es, hes, hdeclares⟩
      · rw [hnext] at hes hdeclares
        rw [Declaration.firsts, if_neg (by simpa using hfree)]
        rw [hnext]
        refine ⟨e :: es, ?_, .cons he hdeclares⟩
        rw [hes]
        simp [Library.push]

end Builder

theorem Library.build_declares {external : List String} {ds : List Declaration} {lib : Library}
    (h : (Library.build external ds).result = .ok lib) :
    Declares 0 (Declaration.firsts [] ds) lib.entities := by
  unfold build at h
  dsimp only at h
  obtain ⟨_, hall, h⟩ := Logged.bind_ok h
  obtain ⟨_, _, h⟩ := Logged.bind_ok h
  cases h
  obtain ⟨es, hes, hdeclares⟩ := Builder.addAll_ok hall
  rw [hes]
  exact hdeclares

end CrateHeader
