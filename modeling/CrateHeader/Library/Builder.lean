import CrateHeader.Cfg.Reader
import CrateHeader.Declaration
import CrateHeader.Library
import CrateHeader.Ty.Lowering

/-!
# Building a library

Declarations become entities, one each, in the order in which they come. A name belongs to the crate that
declares it first: another crate's declaration of it is passed over, and a second one of the same crate is
an error. Type names are not looked up here.
-/

namespace CrateHeader

inductive BuildError where
  | predicate (owner text : String) (error : CfgSyntaxError)
  /-- A crate's predicate that is not a text. -/
  | misuse (misuse : Misuse)
  | arrayArgument (function : String) (argument : Option String)
  | untyped (kind : DeclKind) (ident : String)
  | duplicate (ident crate : String)
  /-- The table has an entity of the name that no declaration put there. -/
  | taken (ident : String)
  /-- An alignment that is too long to be read. -/
  | tooManyDigits (count : Nat)
  deriving DecidableEq, Repr

/-- What the attributes of a declaration or member say. -/
structure AttributeSummary where
  cfg : Option Cfg
  docs : List String
  annotations : Annotations
  deriving DecidableEq, Repr

namespace AttributeSummary

def readPredicate (owner text : String) : Except BuildError Cfg :=
  (Cfg.read text).mapError (.predicate owner text)

/-- An annotation, or a warning in its place. One that is passed through comes with a warning too. -/
def readAnnotation (owner : String) (a : Attribute) : Logged BuildError Annotations :=
  let read := Annotation.classify a.name a.value
  match read.result with
  | .error (.tooManyDigits count) => ⟨.error (.tooManyDigits count), read.log⟩
  | .error e =>
    ⟨.ok [], read.log ++ Log.warning ("Ignoring malformed attribute on " ++ owner ++ ": " ++ e.message)⟩
  | .ok (.passthrough name value) =>
    ⟨.ok [.passthrough name value],
      read.log ++ Log.warning ("Ignoring unrecognized attribute '" ++ a.name ++ "' on " ++ owner)⟩
  | .ok known => ⟨.ok [known], read.log⟩

/-- The predicates, documentation lines and annotations among some attributes. -/
def collect (owner : String) :
    List Attribute → Logged BuildError (List Cfg × List String × Annotations)
  | [] => pure ([], [], [])
  | a :: rest =>
    if a.name = "cfg" then do
      let cfg ← Logged.ofExcept (readPredicate owner (a.value.getD ""))
      let (cfgs, docs, annotations) ← collect owner rest
      pure (cfg :: cfgs, docs, annotations)
    else if a.name = "doc" then do
      let (cfgs, docs, annotations) ← collect owner rest
      pure (cfgs, a.value.getD "" :: docs, annotations)
    else do
      let here ← readAnnotation owner a
      let (cfgs, docs, annotations) ← collect owner rest
      pure (cfgs, docs, here ++ annotations)

def read (owner : String) (attributes : List Attribute) : Logged BuildError AttributeSummary := do
  let (cfgs, docs, annotations) ← collect owner attributes
  pure ⟨Cfg.join (cfgs.map some), docs, annotations⟩

end AttributeSummary

namespace Declaration

def readInherited (owner : String) (d : Document) : Except BuildError Cfg :=
  match d with
  | .text s => AttributeSummary.readPredicate owner s
  | d => if d.truthy then .error (.misuse .wrongOperation) else AttributeSummary.readPredicate owner ""

def inheritedCfg (d : Declaration) : Except BuildError (Option Cfg) :=
  (d.inherited.mapM (readInherited d.ident)).map fun cfgs => Cfg.join (cfgs.map some)

def convertFields (generics : List String) (owner : String) :
    List FieldDecl → Logged BuildError (List Field)
  | [] => pure []
  | f :: rest => do
    let said ← AttributeSummary.read (owner ++ "." ++ f.name) f.attributes
    let others ← convertFields generics owner rest
    pure (⟨f.name, f.name, f.type.lower generics, said.docs, said.cfg⟩ :: others)

def convertVariants (generics : List String) (ident : String) :
    List VariantDecl → Logged BuildError (List Variant)
  | [] => pure []
  | v :: rest => do
    let owner := ident ++ "::" ++ v.name
    let said ← AttributeSummary.read owner v.attributes
    let fields ← convertFields generics owner v.fields
    let others ← convertVariants generics ident rest
    pure (⟨v.name, v.name, v.discriminant, fields, said.docs, said.cfg⟩ :: others)

def isArray : Ty → Bool
  | .array _ _ => true
  | _ => false

def isPointer : Ty → Bool
  | .pointer _ _ _ => true
  | _ => false

/-- Parameters one by one; no array may be passed by value. -/
def convertParams (generics : List String) (ident : String) :
    List ParamDecl → Logged BuildError (List Argument)
  | [] => pure []
  | p :: rest => do
    let said ← AttributeSummary.read (ident ++ "(" ++ p.name.getD "None" ++ ")") p.attributes
    let ty := p.type.lower generics
    if isArray ty then Logged.fail (.arrayArgument ident p.name)
    else do
      let others ← convertParams generics ident rest
      pure (⟨p.name, p.name, ty, none, said.cfg⟩ :: others)

/-- Array lengths go to the pointers among the arguments that they name. -/
def giveLength (annotations : Annotations) (ident : String) (arg : Argument) : Argument × Log :=
  match arg.name with
  | none => (arg, [])
  | some name => match annotations.arrayLength? name with
    | none => (arg, [])
    | some length =>
      if isPointer arg.ty then ({ arg with arrayLength := some length }, [])
      else (arg, Log.warning
        ("Ignoring ptrs_as_arrays for non-pointer argument '" ++ name ++ "' of " ++ ident))

/-- What the end of a variadic function's arguments looks like. -/
def variadicMark : Argument := ⟨none, none, .primitive .vaList, none, none⟩

def requireType (kind : DeclKind) (ident : String) (generics : List String) :
    Option Expr → Logged BuildError Ty
  | none => Logged.fail (.untyped kind ident)
  | some e => pure (e.lower generics)

def convertBody (generics : List String) (ident : String) (annotations : Annotations) :
    DeclBody → Logged BuildError Body
  | .struct fields => Body.struct <$> convertFields generics ident fields
  | .union fields => Body.union <$> convertFields generics ident fields
  | .enum variants => Body.enum <$> convertVariants generics ident variants
  | .opaqueType => pure .opaqueType
  | .typeAlias target => Body.typeAlias <$> requireType .typeAlias ident generics target
  | .constant type value => do
    let ty ← requireType .constant ident generics type
    pure (.constant ty (value.getD ""))
  | .static type isMut => do
    let ty ← requireType .static ident generics type
    pure (.static ty isMut)
  | .function params returns variadic => do
    let args ← convertParams generics ident params
    let sized := args.map (giveLength annotations ident)
    Logged.note (sized.flatMap Prod.snd)
    pure (.function (sized.map Prod.fst ++ if variadic then [variadicMark] else [])
      (Expr.lowerResult generics returns) ((returns.map Expr.isNever).getD false))

/-- The entity that a declaration stands for, at a place among all declarations. -/
def convert (d : Declaration) (index : Nat) : Logged BuildError Entity := do
  let said ← AttributeSummary.read d.ident d.attributes
  let inherited ← Logged.ofExcept d.inheritedCfg
  let body ← convertBody d.generics d.ident said.annotations d.body
  pure {
    name := d.ident
    exportName := d.ident
    generics := d.generics
    docs := said.docs
    cfg := Cfg.join [inherited, said.cfg]
    annotations := said.annotations
    crate := d.crate
    index
    exported := d.exported
    instanceOf := none
    seq := 0
    synthetic := false
    body }

end Declaration

structure Builder where
  library : Library
  /-- The crate that declared each name first. -/
  declared : List (String × String)
  nextIndex : Nat
  deriving DecidableEq, Repr

namespace Builder

def empty (external : List String) : Builder := ⟨Library.empty external, [], 0⟩

/-- Adds a declaration. The builder that comes back is the one to go on with, after a failure too. -/
def add (b : Builder) (d : Declaration) : Builder × Logged BuildError Unit :=
  match b.declared.lookup d.ident with
  | some first =>
    if first = d.crate then (b, Logged.fail (.duplicate d.ident d.crate))
    else (b, Logged.note (Log.warning
      ("Skipping " ++ d.ident ++ " from crate '" ++ d.crate ++ "': already declared by crate '" ++
        first ++ "'")))
  | none =>
    let converted := d.convert b.nextIndex
    match converted.result with
    | .error e => (b, ⟨.error e, converted.log⟩)
    | .ok entity =>
      let claimed := { b with
        declared := (d.ident, d.crate) :: b.declared
        nextIndex := b.nextIndex + 1 }
      if b.library.contains d.ident then (claimed, ⟨.error (.taken d.ident), converted.log⟩)
      else ({ claimed with library := b.library.push entity }, ⟨.ok (), converted.log⟩)

/-- Adds declarations up to the first that fails. -/
def addAll (b : Builder) : List Declaration → Builder × Logged BuildError Unit
  | [] => (b, pure ())
  | d :: rest =>
    let (b₁, added) := b.add d
    match added.result with
    | .error e => (b₁, ⟨.error e, added.log⟩)
    | .ok () =>
      let (b₂, others) := b₁.addAll rest
      (b₂, ⟨others.result, added.log ++ others.log⟩)

end Builder

/-- The library of some declarations. -/
def Library.build (external : List String) (declarations : List Declaration) :
    Logged BuildError Library := do
  let (b, added) := (Builder.empty external).addAll declarations
  added
  Logged.note (Log.info ("Built IR: " ++ b.library.summary))
  pure b.library

end CrateHeader
