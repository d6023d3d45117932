import CrateHeader.Proofs.Declaring
import CrateHeader.Proofs.Stages

/-!
# How a run fails

Every failure of a run is one of the diagnostics that the stage has, with the stage set, but for two causes, both
in building: a predicate around a declaration that is no text, which nothing checks before it is read, and an
alignment with more digits than a number is read from. The table never rejects an entity, and what ordering looks
up is always there.
-/

namespace CrateHeader

variable {ε α β : Type}

/-! ### What stops a chain of computations -/

theorem Logged.bind_error {x : Logged ε α} {f : α → Logged ε β} {e : ε} (h : (x >>= f).result = .error e) :
    x.result = .error e ∨ ∃ a, x.result = .ok a ∧ (f a).result = .error e := by
  rw [Logged.bind_result] at h
  cases hx : x.result with
  | error e' =>
    rw [hx] at h
    cases h
    exact .inl rfl
  | ok a =>
    rw [hx] at h
    exact .inr ⟨a, rfl, h⟩

theorem Logged.map_error {x : Logged ε α} {f : α → β} {e : ε} (h : (f <$> x).result = .error e) :
    x.result = .error e := by
  rw [Logged.map_result] at h
  cases hx : x.result with
  | error e' =>
    rw [hx] at h
    cases h
    rfl
  | ok a =>
    rw [hx] at h
    cases h

theorem Pipeline.inStage_error {stage : Stage} {wrap : ε → PipelineError} {x : Logged ε α} {e : PipelineError}
    (h : (inStage stage wrap x).result = .error e) : ∃ cause, x.result = .error cause ∧ e = wrap cause := by
  unfold inStage at h
  dsimp only at h
  cases hx : x.result with
  | error cause =>
    rw [hx] at h
    cases h
    exact ⟨cause, rfl, rfl⟩
  | ok a =>
    rw [hx] at h
    cases h

/-! ### Building a declaration -/

/-- The attributes of all members of a declaration. -/
def DeclBody.attributes : DeclBody → List Attribute
  | .struct fields | .union fields => fields.flatMap (·.attributes)
  | .enum variants => variants.flatMap fun v => v.attributes ++ v.fields.flatMap (·.attributes)
  | .function params _ _ => params.flatMap (·.attributes)
  | _ => []

/-- The attributes of a declaration and of its members. -/
def Declaration.allAttributes (d : Declaration) : List Attribute := d.attributes ++ d.body.attributes

/-- A failure that comes from some attributes or some predicates around them. Of the latter only those that are
given and no text are misused, of the former only alignments are too long. -/
inductive BuildError.ArisesFrom (attributes : List Attribute) (inherited : List Document) : BuildError → Prop where
  | predicate (owner text : String) (error : CfgSyntaxError) : ArisesFrom attributes inherited (.predicate owner text error)
  | arrayArgument (function : String) (argument : Option String) :
    ArisesFrom attributes inherited (.arrayArgument function argument)
  | untyped (kind : DeclKind) (ident : String) : ArisesFrom attributes inherited (.untyped kind ident)
  | overlong {a : Attribute} {count : Nat} : a ∈ attributes →
    ( Annotation.classify a.name a.value).result = .error (.tooManyDigits count) →
    ArisesFrom attributes inherited (.tooManyDigits count)
  | misuse {p : Document} {misuse : Misuse} : p ∈ inherited → p.truthy = true → (∀ s, p ≠ .text s) →
    ArisesFrom attributes inherited (.misuse misuse)

namespace BuildError

variable {as as' : List Attribute} {ps ps' : List Document} {error : BuildError}

theorem ArisesFrom.mono (h : error.ArisesFrom as ps) (has : as ⊆ as') (hps : ps ⊆ ps') : error.ArisesFrom as' ps' := by
  cases h with
  | predicate owner text error => exact .predicate owner text error
  | arrayArgument function argument => exact .arrayArgument function argument
  | untyped kind ident => exact .untyped kind ident
  | overlong ha hlong => exact .overlong (has ha) hlong
  | misuse hp htruthy htext => exact .misuse (hps hp) htruthy htext

theorem ArisesFrom.left (h : error.ArisesFrom as ps) : error.ArisesFrom (as ++ as') ps :=
  h.mono (List.subset_append_left _ _) (List.Subset.refl _)

theorem ArisesFrom.right (h : error.ArisesFrom as' ps) : error.ArisesFrom (as ++ as') ps :=
  h.mono (List.subset_append_right _ _) (List.Subset.refl _)

end BuildError

namespace AttributeSummary

variable {owner text : String} {ps : List Document} {error : BuildError}

theorem readPredicate_error {as : List Attribute} (h : readPredicate owner text = .error error) :
    error.ArisesFrom as ps := by
  unfold readPredicate at h
  cases hread : Cfg.read text with
  | error e =>
    rw [hread] at h
    cases h
    exact .predicate owner text e
  | ok c =>
    rw [hread] at h
    cases h

theorem readAnnotation_error {a : Attribute} (h : ( readAnnotation owner a).result = .error error) :
    error.ArisesFrom [a] ps := by
  unfold readAnnotation at h
  dsimp only at h
  split at h
  · next count hlong =>
    cases h
    exact .overlong (List.mem_singleton_self a) hlong
  · cases h
  · cases h
  · cases h

theorem collect_error {as : List Attribute} (h : (collect owner as).result = .error error) :
    error.ArisesFrom as ps := by
  induction as with
  | nil => cases h
  | cons a rest ih =>
    have hrest : ∀ {β : Type} {f : _ → Logged BuildError β}, (collect owner rest >>= f).result = .error error →
        (∀ found, (f found).result ≠ .error error) → error.ArisesFrom (a :: rest) ps := by
      intro β f hbind hf
      rcases Logged.bind_error hbind with hcollect | ⟨found, _, hfound⟩
      · exact (ih hcollect).mono (List.subset_cons_self _ _) (List.Subset.refl _)
      · exact absurd hfound (hf found)
    unfold collect at h
    split at h
    · rcases Logged.bind_error h with hread | ⟨cfg, _, h⟩
      · exact readPredicate_error hread
      · exact hrest h fun _ hpure => by cases hpure
    · split at h
      · exact hrest h fun _ hpure => by cases hpure
      · rcases Logged.bind_error h with hread | ⟨here, _, h⟩
        · exact (readAnnotation_error hread).mono (by simp) (List.Subset.refl _)
        · exact hrest h fun _ hpure => by cases hpure

theorem read_error {as : List Attribute} (h : (read owner as).result = .error error) : error.ArisesFrom as ps := by
  rcases Logged.bind_error h with hcollect | ⟨found, _, h⟩
  · exact collect_error hcollect
  · cases h

end AttributeSummary

namespace Declaration

variable {generics : List String} {owner ident : String} {ps : List Document} {error : BuildError} {d : Declaration}
  {index : Nat}

theorem convertFields_error {fields : List FieldDecl} (h : (convertFields generics owner fields).result = .error error) :
    error.ArisesFrom (fields.flatMap (·.attributes)) ps := by
  induction fields with
  | nil => cases h
  | cons f rest ih =>
    unfold convertFields at h
    rcases Logged.bind_error h with hread | ⟨said, _, h⟩
    · exact (AttributeSummary.read_error hread).left
    rcases Logged.bind_error h with hrest | ⟨others, _, h⟩
    · exact (ih hrest).right
    · cases h

theorem convertVariants_error {variants : List VariantDecl}
    (h : (convertVariants generics ident variants).result = .error error) :
    error.ArisesFrom (variants.flatMap fun v => v.attributes ++ v.fields.flatMap (·.attributes)) ps := by
  induction variants with
  | nil => cases h
  | cons v rest ih =>
    unfold convertVariants at h
    rcases Logged.bind_error h with hread | ⟨said, _, h⟩
    · exact (AttributeSummary.read_error hread).left.left
    rcases Logged.bind_error h with hfields | ⟨fields, _, h⟩
    · exact (convertFields_error hfields).right.left
    rcases Logged.bind_error h with hrest | ⟨others, _, h⟩
    · exact (ih hrest).right
    · cases h

theorem convertParams_error {params : List ParamDecl} (h : (convertParams generics ident params).result = .error error) :
    error.ArisesFrom (params.flatMap (·.attributes)) ps := by
  induction params with
  | nil => cases h
  | cons p rest ih =>
    unfold convertParams at h
    rcases Logged.bind_error h with hread | ⟨said, _, h⟩
    · exact (AttributeSummary.read_error hread).left
    dsimp only at h
    split at h
    · cases h
      exact .arrayArgument ident p.name
    rcases Logged.bind_error h with hrest | ⟨others, _, h⟩
    · exact (ih hrest).right
    · cases h

theorem requireType_error {as : List Attribute} {kind : DeclKind} {type : Option Expr}
    (h : (requireType kind ident generics type).result = .error error) : error.ArisesFrom as ps := by
  cases type with
  | none =>
    cases h
    exact .untyped kind ident
  | some e => cases h

theorem convertBody_error {annotations : Annotations} {body : DeclBody}
    (h : (convertBody generics ident annotations body).result = .error error) : error.ArisesFrom body.attributes ps := by
  cases body with
  | struct fields => exact convertFields_error (Logged.map_error h)
  | union fields => exact convertFields_error (Logged.map_error h)
  | enum variants => exact convertVariants_error (Logged.map_error h)
  | opaqueType => cases h
  | typeAlias target => exact requireType_error (Logged.map_error h)
  | constant type value =>
    rcases Logged.bind_error h with htype | ⟨ty, _, h⟩
    · exact requireType_error htype
    · cases h
  | static type isMut =>
    rcases Logged.bind_error h with htype | ⟨ty, _, h⟩
    · exact requireType_error htype
    · cases h
  | function params returns variadic =>
    rcases Logged.bind_error h with hparams | ⟨args, _, h⟩
    · exact convertParams_error hparams
    rcases Logged.bind_error h with hnote | ⟨_, _, h⟩
    · cases hnote
    · cases h

theorem readInherited_error {as : List Attribute} {p : Document} (h : readInherited owner p = .error error) :
    error.ArisesFrom as [p] := by
  unfold readInherited at h
  split at h
  · exact AttributeSummary.readPredicate_error h
  · next htext =>
    split at h
    · next htruthy =>
      cases h
      exact .misuse (List.mem_singleton_self p) htruthy htext
    · exact AttributeSummary.readPredicate_error h

theorem mapM_readInherited_error {as : List Attribute} (h : ps.mapM (readInherited owner) = .error error) :
    error.ArisesFrom as ps := by
  induction ps with
  | nil => cases h
  | cons p rest ih =>
    rw [List.mapM_cons] at h
    cases hp : readInherited owner p with
    | error e =>
      rw [hp] at h
      cases h
      exact (readInherited_error hp).mono (List.Subset.refl _) (by simp)
    | ok cfg =>
      cases hrest : rest.mapM (readInherited owner) with
      | error e =>
        rw [hp, hrest] at h
        cases h
        exact (ih hrest).mono (List.Subset.refl _) (List.subset_cons_self _ _)
      | ok others =>
        rw [hp, hrest] at h
        cases h

theorem inheritedCfg_error {as : List Attribute} (h : d.inheritedCfg = .error error) :
    error.ArisesFrom as d.inherited := by
  unfold inheritedCfg at h
  cases hread : d.inherited.mapM (readInherited d.ident) with
  | error e =>
    rw [hread] at h
    cases h
    exact mapM_readInherited_error hread
  | ok cfgs =>
    rw [hread] at h
    cases h

theorem convert_error (h : (d.convert index).result = .error error) : error.ArisesFrom d.allAttributes d.inherited := by
  unfold convert at h
  rcases Logged.bind_error h with hread | ⟨said, _, h⟩
  · exact (AttributeSummary.read_error hread).left
  rcases Logged.bind_error h with hinherited | ⟨inherited, _, h⟩
  · exact inheritedCfg_error hinherited
  rcases Logged.bind_error h with hbody | ⟨body, _, h⟩
  · exact (convertBody_error hbody).right
  · cases h

end Declaration

/-! ### Building a library -/

namespace Builder

variable {b : Builder} {d : Declaration} {ds : List Declaration} {error : BuildError}

/-- A builder that remembers a declaration and has counted it. -/
def claim (b : Builder) (d : Declaration) : Builder :=
  { b with
    declared := (d.ident, d.crate) :: b.declared
    nextIndex := b.nextIndex + 1 }

/-- What is left of a builder by a declaration that is refused, for each cause. -/
theorem add_refused (h : (b.add d).2.result = .error error) :
    (error = .duplicate d.ident d.crate ∧ b.declared.lookup d.ident = some d.crate ∧ (b.add d).1 = b) ∨
      (error.ArisesFrom d.allAttributes d.inherited ∧ b.declared.lookup d.ident = none ∧ (b.add d).1 = b) ∨
      (error = .taken d.ident ∧ d.ident ∉ b.declared.map Prod.fst ∧ (∃ e, (d.convert b.nextIndex).result = .ok e) ∧
        d.ident ∈ b.library.names ∧ (b.add d).1 = b.claim d) := by
  unfold add at h ⊢
  cases hlookup : b.declared.lookup d.ident with
  | some first =>
    rw [hlookup] at h
    dsimp only at h ⊢
    split at h
    · next hfirst =>
      cases h
      exact .inl ⟨rfl, congrArg some hfirst, by rw [if_pos hfirst]⟩
    · cases h
  | none =>
    rw [hlookup] at h
    dsimp only at h ⊢
    split at h
    · next hconvert =>
      cases h
      exact .inr (.inl ⟨Declaration.convert_error hconvert, rfl, rfl⟩)
    · next e hconvert =>
      split at h
      · next htaken =>
        cases h
        refine .inr (.inr ⟨rfl, lookup_eq_none_iff.1 hlookup, ⟨e, hconvert⟩, Library.contains_iff.1 htaken, ?_⟩)
        rw [if_pos htaken]
        rfl
      · cases h

/-- Every entity of the table is remembered as declared. -/
def IsClaimed (b : Builder) : Prop := b.library.names ⊆ b.declared.map Prod.fst

theorem isClaimed_add (hclaimed : b.IsClaimed) (h : (b.add d).2.result = .ok ()) : (b.add d).1.IsClaimed := by
  rcases add_ok h with ⟨_, hsame⟩ | ⟨_, e, he, hnext⟩
  · rwa [hsame]
  · obtain ⟨said, inherited, body, _, _, _, rfl⟩ := Declaration.convert_ok he
    rw [hnext, IsClaimed, Library.names_push, List.map_cons]
    exact List.append_subset.2 ⟨List.subset_cons_of_subset _ hclaimed, by simp⟩

/-- The table never has a name that is not remembered as declared. -/
theorem add_error (hclaimed : b.IsClaimed) (h : (b.add d).2.result = .error error) :
    error = .duplicate d.ident d.crate ∨ error.ArisesFrom d.allAttributes d.inherited := by
  rcases add_refused h with ⟨hduplicate, _, _⟩ | ⟨harises, _, _⟩ | ⟨_, hnew, _, htaken, _⟩
  · exact .inl hduplicate
  · exact .inr harises
  · exact absurd (hclaimed htaken) hnew

theorem addAll_error (hclaimed : b.IsClaimed) (h : (b.addAll ds).2.result = .error error) :
    ∃ d ∈ ds, error = .duplicate d.ident d.crate ∨ error.ArisesFrom d.allAttributes d.inherited := by
  induction ds generalizing b with
  | nil => cases h
  | cons d rest ih =>
    unfold addAll at h
    dsimp only at h
    cases hadd : (b.add d).2.result with
    | error e =>
      rw [hadd] at h
      cases h
      exact ⟨d, List.mem_cons_self, add_error hclaimed hadd⟩
    | ok _ =>
      rw [hadd] at h
      obtain ⟨d', hd', hfrom⟩ := ih (isClaimed_add hclaimed hadd) h
      exact ⟨d', List.mem_cons_of_mem d hd', hfrom⟩

end Builder

theorem Library.build_error {external : List String} {ds : List Declaration} {error : BuildError}
    (h : (Library.build external ds).result = .error error) :
    ∃ d ∈ ds, error = .duplicate d.ident d.crate ∨ error.ArisesFrom d.allAttributes d.inherited := by
  unfold Library.build at h
  dsimp only at h
  rcases Logged.bind_error h with hadd | ⟨_, _, h⟩
  · exact Builder.addAll_error (List.nil_subset _) hadd
  · rcases Logged.bind_error h with hnote | ⟨_, _, h⟩
    · cases hnote
    · cases h

/-! ### Failures of a run -/

/-- The kinds of failure that a stage has. -/
def Stage.kinds : Stage → List DiagnosticKind
  | .parse => [.source]
  | .build => [.source, .duplicateDeclaration]
  | .specialize => [.unresolvedType, .unboundedSpecialization, .mangledNameCollision]
  | .order => [.unrepresentableCycle]
  | .emit => [.unresolvedType, .exportNameCollision]
  | .cfg | .rename => []

namespace PipelineError

/-- A diagnostic of the stage, of a kind that the stage has. -/
def IsDocumented (e : PipelineError) : Prop :=
  ∃ d : Diagnostic, e.failure = .diagnostic d ∧ d.stage = some e.stage ∧ d.kind ∈ e.stage.kinds

/-- A predicate around one of the declarations is given but is no text. -/
def IsUnchecked (ds : List Declaration) (e : PipelineError) : Prop :=
  ∃ misuse, e = .build (.misuse misuse) ∧ ∃ d ∈ ds, ∃ p ∈ d.inherited, p.truthy = true ∧ ∀ s, p ≠ .text s

/-- An alignment in one of the declarations is longer than any number that is read. -/
def IsOverlong (ds : List Declaration) (e : PipelineError) : Prop :=
  ∃ count, e = .build (.tooManyDigits count) ∧ ∃ d ∈ ds, ∃ a ∈ d.allAttributes,
    ( Annotation.classify a.name a.value).result = .error (.tooManyDigits count)

variable {ds : List Declaration} {d : Declaration} {error : BuildError}

theorem isDocumented_of_kind {e : PipelineError} {d : Diagnostic} (hfailure : e.failure = .diagnostic (d.atStage e.stage))
    (hstage : d.stage = none) (hkind : d.kind ∈ e.stage.kinds) : e.IsDocumented :=
  ⟨_, hfailure, by simp [hstage], hkind⟩

theorem isDocumented_of_arisesFrom (hd : d ∈ ds) (h : error.ArisesFrom d.allAttributes d.inherited) :
    (build error).IsDocumented ∨ (build error).IsUnchecked ds ∨ (build error).IsOverlong ds := by
  have hsource : DiagnosticKind.source ∈ Stage.build.kinds := by decide
  cases h with
  | predicate owner text error => exact .inl (isDocumented_of_kind rfl rfl hsource)
  | arrayArgument function argument => exact .inl (isDocumented_of_kind rfl rfl hsource)
  | untyped kind ident => exact .inl (isDocumented_of_kind rfl rfl hsource)
  | overlong ha hlong => exact .inr (.inr ⟨_, rfl, d, hd, _, ha, hlong⟩)
  | misuse hp htruthy htext => exact .inr (.inl ⟨_, rfl, d, hd, _, hp, htruthy, htext⟩)

theorem isDocumented_duplicate (ident crate : String) : (build (.duplicate ident crate)).IsDocumented :=
  isDocumented_of_kind rfl rfl (by simp [stage, Stage.kinds])

theorem isDocumented_specialize (error : SpecializationError) : (specialize error).IsDocumented :=
  isDocumented_of_kind rfl (by cases error <;> rfl)
    (by cases error <;> simp [SpecializationError.diagnostic, stage, Stage.kinds])

theorem isDocumented_order (error : OrderError) : (order error).IsDocumented :=
  isDocumented_of_kind rfl (by cases error <;> rfl) (by cases error <;> simp [OrderError.diagnostic, stage, Stage.kinds])

theorem isDocumented_emit (error : EmissionError) : (emit error).IsDocumented :=
  isDocumented_of_kind rfl (by cases error <;> rfl)
    (by cases error <;> simp [EmissionError.diagnostic, stage, Stage.kinds])

end PipelineError

/-! ### What ordering looks up -/

/-- Nothing that ordering looks up is missing: both ends of every edge are in the table, and a cycle that is left
when no type contains itself has an edge that breaks it. -/
structure DependencyGraph.IsTotal (g : DependencyGraph) : Prop where
  source : ∀ edge ∈ g.edges, ∃ e ∈ g.nodes, g.library.get? edge.source = some e
  target : ∀ edge ∈ g.edges, ∃ e ∈ g.nodes, g.library.get? edge.target = some e
  breaking : g.containment.cycles = [] → ∀ forward, (g.waiting forward).cycles ≠ [] →
    ∃ edge, g.breakingEdge? forward = some edge

namespace DependencyGraph

open Relation

variable {lib : Library}

theorem isTotal_ofLibrary (htable : lib.IsTable) (hconcrete : lib.IsConcrete) : (ofLibrary lib).IsTotal where
  source := by
    intro edge hedge
    obtain ⟨e, he, m, t, hstands⟩ := standsFor_of_mem_edges hedge
    refine ⟨e, he, ?_⟩
    rw [hstands.source]
    exact Library.get?_of_mem htable ((mem_nodes_of_isConcrete hconcrete).1 he).1
  target := by
    intro edge hedge
    obtain ⟨_, _, m, t, hstands⟩ := standsFor_of_mem_edges hedge
    have ht := Library.mem_of_get? hstands.found
    refine ⟨t, (mem_nodes_of_isConcrete hconcrete).2 ⟨ht, hstands.isType⟩, ?_⟩
    rw [hstands.target]
    exact Library.get?_of_mem htable ht
  breaking := by
    intro hcycles forward hwaiting
    have hclosed := isClosed_ofLibrary hconcrete
    have hcontain : ∀ a, ¬ TransGen (ofLibrary lib).Contains a a := by
      rwa [Graph.cycles_eq_nil_iff, step_containment hclosed] at hcycles
    exact exists_breakingEdge hclosed hcontain hwaiting

end DependencyGraph

namespace Pipeline

variable {settings : Settings} {ds : List Declaration} {e : PipelineError}

theorem prepare_error (h : (prepare settings ds).result = .error e) :
    e.IsDocumented ∨ e.IsUnchecked ds ∨ e.IsOverlong ds := by
  unfold prepare at h
  rcases Logged.bind_error h with hbuild | ⟨built, _, h⟩
  · obtain ⟨cause, hcause, rfl⟩ := inStage_error hbuild
    obtain ⟨d, hd, rfl | hfrom⟩ := Library.build_error hcause
    · exact .inl (PipelineError.isDocumented_duplicate d.ident d.crate)
    · exact PipelineError.isDocumented_of_arisesFrom hd hfrom
  rcases Logged.bind_error h with hprune | ⟨pruned, _, h⟩
  · cases hprune
  rcases Logged.bind_error h with hspecialize | ⟨specialized, _, h⟩
  · obtain ⟨cause, _, rfl⟩ := inStage_error hspecialize
    exact .inl (PipelineError.isDocumented_specialize cause)
  · cases h

/-- Every failure of a run is one that its stage has, unless a predicate around a declaration is no text or an
alignment is too long; and whatever is ordered, nothing is looked up in vain. -/
theorem run_failures (settings : Settings) (ds : List Declaration) :
    (∀ e, (run settings ds).result = .error e → e.IsDocumented ∨ e.IsUnchecked ds ∨ e.IsOverlong ds) ∧
      ∀ lib, (prepare settings ds).result = .ok lib → (DependencyGraph.ofLibrary lib).IsTotal := by
  constructor
  · intro e h
    rw [run_eq_prepare] at h
    rcases Logged.bind_error h with hprepare | ⟨renamed, _, h⟩
    · exact prepare_error hprepare
    rcases Logged.bind_error h with horder | ⟨events, _, h⟩
    · obtain ⟨cause, _, rfl⟩ := inStage_error horder
      exact .inl (PipelineError.isDocumented_order cause)
    · obtain ⟨cause, _, rfl⟩ := inStage_error h
      exact .inl (PipelineError.isDocumented_emit cause)
  · intro lib h
    obtain ⟨htable, hconcrete⟩ := prepare_ok h
    exact DependencyGraph.isTotal_ofLibrary htable hconcrete

/-- Two structs of one name. -/
def twins : List Declaration := [.bare .struct "Twin" "crate", .bare .struct "Twin" "crate"]

/-- A second declaration is a failure of building, and a struct and an enum that point at each other are ordered. -/
theorem run_failures_twins :
    (run .default twins).result = .error (.build (.duplicate "Twin" "crate")) ∧
      (PipelineError.build (.duplicate "Twin" "crate")).IsDocumented ∧
      (prepare .default grove).result = .ok groveStream.library ∧
      (DependencyGraph.ofLibrary groveStream.library).IsTotal := by
  have htwins : (run .default twins).result = .error (.build (.duplicate "Twin" "crate")) := by cbv
  have hgrove : (prepare .default grove).result = .ok groveStream.library := (run_stages run_grove).1
  refine ⟨htwins, ?_, hgrove, (run_failures .default grove).2 _ hgrove⟩
  rcases (run_failures .default twins).1 _ htwins with hdocumented | ⟨_, hbuild, _⟩ | ⟨_, hbuild, _⟩
  · exact hdocumented
  · cases hbuild
  · cases hbuild

/-- A struct of a crate whose manifest has a number for a predicate. -/
def gated : Declaration := { Declaration.bare .struct "Foo" "demo" with inherited := [.int 5] }

/-- The number goes through the reader of modules, and building stops at it without a diagnostic. -/
theorem run_gated_not_documented :
    Module.read "demo" "src/a.yaml" [.int 5]
        (.mapping [(.text "items", .list [.mapping [(.text "struct", .text "Foo")]])]) = .ok [gated] ∧
      (run .default [gated]).result = .error (.build (.misuse .wrongOperation)) ∧
      ¬ (PipelineError.build (.misuse .wrongOperation)).IsDocumented := by
  have hread : Module.read "demo" "src/a.yaml" [.int 5]
      (.mapping [(.text "items", .list [.mapping [(.text "struct", .text "Foo")]])]) = .ok [gated] := by cbv
  have hrun : (run .default [gated]).result = .error (.build (.misuse .wrongOperation)) := by cbv
  refine ⟨hread, hrun, ?_⟩
  rintro ⟨d, hfailure, -, -⟩
  cases hfailure

end Pipeline

end CrateHeader
