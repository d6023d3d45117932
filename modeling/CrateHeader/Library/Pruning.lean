import CrateHeader.Cfg.Environment
import CrateHeader.Library
import CrateHeader.Log
import CrateHeader.Sorting

/-!
# Pruning by predicates

What an environment disables leaves the library: whole entities, and fields, variants and arguments of those
that stay. Types that are asked for are then made opaque. An entity that only mentions a removed type stays:
where the mention is behind a pointer or inside the arguments of a path, an opaque stub takes the place of
the type, so that it can still be declared.
-/

namespace CrateHeader

namespace Body

/-- The predicates of the members that pruning looks at, in its order. -/
def memberCfgs (env : Environment) : Body → List (Option Cfg)
  | struct fields => fields.map (·.cfg)
  | union fields => fields.map (·.cfg)
  | enum variants => variants.map (·.cfg) ++
      (variants.filter fun v => Cfg.allows env v.cfg).flatMap fun v => v.fields.map (·.cfg)
  | function args _ _ => args.map (·.cfg)
  | _ => []

def pruneFields (env : Environment) (fields : List Field) : List Field :=
  fields.filter fun f => Cfg.allows env f.cfg

/-- The members that are disabled, by name. -/
def disabledMembers (env : Environment) : Body → List String
  | struct fields => (fields.filter fun f => !Cfg.allows env f.cfg).map (·.name)
  | union fields => (fields.filter fun f => !Cfg.allows env f.cfg).map (·.name)
  | enum variants =>
    (variants.filter fun v => !Cfg.allows env v.cfg).map (·.name) ++
      (variants.filter fun v => Cfg.allows env v.cfg).flatMap fun v =>
        (v.fields.filter fun f => !Cfg.allows env f.cfg).map fun f => v.name ++ "." ++ f.name
  | function args _ _ => (args.filter fun a => !Cfg.allows env a.cfg).map fun a =>
      match a.name with
      | some name => if name = "" then "_" else name
      | none => "_"
  | _ => []

/-- The body with its enabled members only. -/
def prune (env : Environment) : Body → Body
  | struct fields => struct (pruneFields env fields)
  | union fields => union (pruneFields env fields)
  | enum variants => enum ((variants.filter fun v => Cfg.allows env v.cfg).map fun v =>
      { v with fields := pruneFields env v.fields })
  | function args ret never => function (args.filter fun a => Cfg.allows env a.cfg) ret never
  | body => body

end Body

namespace Entity

def isEnabled (env : Environment) (e : Entity) : Bool := Cfg.allows env e.cfg

def prune (env : Environment) (e : Entity) : Entity := { e with body := e.body.prune env }

/-- An opaque type that keeps nothing of a removed one but its identity. -/
def stub (e : Entity) : Entity :=
  { e.asOpaque with synthetic := true, exported := false, cfg := none, docs := [] }

end Entity

/-- One thing that pruning meets: a leaf of unknown value, or something to remove. -/
inductive PruneStep where
  | unknown (leaf : String)
  | removal (message : String)
  deriving DecidableEq, Repr

namespace PruneStep

def unknowns (steps : List PruneStep) : List String :=
  steps.filterMap fun | unknown leaf => some leaf | removal _ => none

/-- An unknown leaf is reported where it is met first. -/
def log (seen : List String) : List PruneStep → Log
  | [] => []
  | unknown leaf :: rest =>
    if seen.contains leaf then log seen rest
    else Log.warning ("Unknown cfg flag '" ++ leaf ++ "' evaluates to false") ++ log (leaf :: seen) rest
  | removal message :: rest => Log.debug message ++ log seen rest

end PruneStep

/-- A mention that may need a stub. -/
structure StubMention where
  name : String
  behindPointer : Bool
  inArguments : Bool
  deriving DecidableEq, Repr

namespace Ty

mutual
/-- Every path of a type, those inside arguments too. -/
def stubMentions (inArguments behind : Bool) : Ty → List StubMention
  | primitive _ => []
  | path name args => ⟨name, behind, inArguments⟩ :: stubMentionsAll args
  | pointer target _ _ => target.stubMentions inArguments true
  | array element _ => element.stubMentions inArguments behind
  | function params ret _ => stubMentionsParams inArguments params ++ ret.stubMentions inArguments true

def stubMentionsAll : List Ty → List StubMention
  | [] => []
  | t :: rest => t.stubMentions true false ++ stubMentionsAll rest

def stubMentionsParams (inArguments : Bool) : List (Option String × Ty) → List StubMention
  | [] => []
  | (_, t) :: rest => t.stubMentions inArguments true ++ stubMentionsParams inArguments rest
end

end Ty

/-- What pruning leaves behind. -/
structure Pruned where
  library : Library
  /-- The texts of the leaves of unknown value, each once, in order. -/
  unknowns : List String
  log : Log

namespace Library

def pruneSteps (env : Environment) (e : Entity) : List PruneStep :=
  let met (cfg : Option Cfg) := (Cfg.unknownsIn env cfg).map fun leaf => PruneStep.unknown leaf.text
  met e.cfg ++
    if e.isEnabled env then
      (e.body.memberCfgs env).flatMap met ++ (e.body.disabledMembers env).map fun member =>
        .removal ("Removed " ++ e.name ++ "." ++ member ++ ": member cfg is false")
    else [.removal ("Removed " ++ e.name ++ ": cfg(" ++ (e.cfg.map Cfg.text).getD "None" ++ ") is false")]

/-- Removes disabled entities and the disabled members of the others. -/
def pruneEntities (env : Environment) (lib : Library) : Library :=
  let kept := (lib.entities.filter fun e => !e.isEnabled env).foldl erase lib
  kept.mapEntities (Entity.prune env)

/-- Is an entity to lose its body? -/
def isMarkedOpaque (marks : List String) (e : Entity) : Bool :=
  e.kind != .opaqueType && (marks.contains e.name || e.annotations.isOpaque)

def markOpaque (marks : List String) (lib : Library) : Library :=
  (lib.entities.filter fun e => isMarkedOpaque marks e && e.isType).foldl
    (fun lib e => lib.replace e e.asOpaque) lib

def markLog (marks : List String) (lib : Library) : Log :=
  ((sortTexts (distinct marks)).filter fun name => !lib.contains name).flatMap (fun name =>
      Log.warning ("Opaque marker '" ++ name ++ "' names no surviving entity")) ++
    (lib.entities.filter fun e => isMarkedOpaque marks e && !e.isType).flatMap fun e =>
      Log.warning ("Ignoring opaque marker on " ++ e.kind.name ++ " " ++ e.name)

/-- The mentions of removed entities that need a stub, with who mentions them. -/
def stubMentions (lib : Library) (removed : List Entity) : List (Entity × StubMention × Entity) :=
  lib.entities.flatMap fun e =>
    (e.body.types.flatMap (Ty.stubMentions false false)).filterMap fun m =>
      match removed.find? fun r => r.name == m.name with
      | some r => if m.behindPointer || m.inArguments then some (e, m, r) else none
      | none => none

def addStub (lib : Library) (removed : Entity) : Library :=
  if lib.contains removed.name then lib else lib.push removed.stub

def stubLog (mention : Entity × StubMention × Entity) : Log :=
  let (e, m, _) := mention
  let how := if m.inArguments then "through a generic argument" else "by pointer"
  Log.warning (e.name ++ " references cfg-removed type " ++ m.name ++ " " ++ how ++
    "; it will only be forward-declared")

/-- Prunes a library: first what is disabled, then the bodies of types marked opaque, by name or by an
annotation; stubs come last. -/
def prune (env : Environment) (marks : List String) (lib : Library) : Pruned :=
  let steps := lib.entities.flatMap (pruneSteps env)
  let removed := lib.entities.filter fun e => !e.isEnabled env
  let enabled := lib.pruneEntities env
  let marked := enabled.markOpaque marks
  let mentions := marked.stubMentions removed
  let stubbed := mentions.foldl (fun lib (_, _, r) => lib.addStub r) marked
  { library := stubbed
    unknowns := sortTexts (distinct (PruneStep.unknowns steps))
    log := PruneStep.log [] steps ++ enabled.markLog marks ++ mentions.flatMap stubLog ++
      Log.info ("Resolved cfg: " ++ toString removed.length ++ " removed, " ++
        toString stubbed.entities.length ++ " remaining") }

end Library

end CrateHeader
