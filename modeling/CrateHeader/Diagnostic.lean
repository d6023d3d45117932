/-!
# Diagnostics

A run that fails says which stage failed, on which entity and why. The kinds of failure are few; each
stage has its own causes, and every cause is shown as a diagnostic.
-/

namespace CrateHeader

inductive Stage where
  | parse
  | build
  | cfg
  | specialize
  | rename
  | order
  | emit
  deriving DecidableEq, Repr

def Stage.name : Stage → String
  | .parse => "parse"
  | .build => "build"
  | .cfg => "cfg"
  | .specialize => "specialize"
  | .rename => "rename"
  | .order => "order"
  | .emit => "emit"

inductive DiagnosticKind where
  | source
  | duplicateDeclaration
  | unresolvedType
  | mangledNameCollision
  | unboundedSpecialization
  | unrepresentableCycle
  | exportNameCollision
  deriving DecidableEq, Repr

def DiagnosticKind.name : DiagnosticKind → String
  | .source => "SourceError"
  | .duplicateDeclaration => "DuplicateDeclaration"
  | .unresolvedType => "UnresolvedType"
  | .mangledNameCollision => "MangledNameCollision"
  | .unboundedSpecialization => "UnboundedSpecialization"
  | .unrepresentableCycle => "UnrepresentableCycle"
  | .exportNameCollision => "ExportNameCollision"

/-- The entity is empty when the failure concerns no single one. -/
structure Diagnostic where
  kind : DiagnosticKind
  message : String
  entity : String
  stage : Option Stage
  deriving DecidableEq, Repr

namespace Diagnostic

/-- Stage, kind, entity and message on one line; what is absent leaves no trace. -/
def describe (d : Diagnostic) : String :=
  let stage := match d.stage with
    | some s => "[" ++ s.name ++ "]"
    | none => ""
  let subject := if d.entity = "" then "" else d.entity ++ ": "
  "error" ++ stage ++ " " ++ d.kind.name ++ ": " ++ subject ++ d.message

/-- The stage that let a failure out; one that is already known stays. -/
def atStage (s : Stage) (d : Diagnostic) : Diagnostic := { d with stage := some (d.stage.getD s) }

@[simp] theorem atStage_stage (s : Stage) (d : Diagnostic) :
    (d.atStage s).stage = some (d.stage.getD s) := rfl
@[simp] theorem atStage_kind (s : Stage) (d : Diagnostic) : (d.atStage s).kind = d.kind := rfl
@[simp] theorem atStage_entity (s : Stage) (d : Diagnostic) : (d.atStage s).entity = d.entity := rfl

end Diagnostic

end CrateHeader
