import CrateHeader.Crate.Manifest
import CrateHeader.Declaration.Module
import CrateHeader.Diagnostic
import CrateHeader.Emission
import CrateHeader.Library.Builder
import CrateHeader.Library.Specialization
import CrateHeader.Terminal.Markup

/-!
# How failures are shown

Every stage has causes of failure of its own. Here each is put into words, as a diagnostic about an entity,
or as one of the few failures that are none: a document used in a way its kind does not support, a name
that the table has from elsewhere, a path that leads to something else than a file, a number that is too long
to be written, a name that is no proper markup.
-/

namespace CrateHeader

inductive Failure where
  | diagnostic (d : Diagnostic)
  | misuse (m : Misuse)
  | taken (name : String)
  | fault (f : PathFault)
  | tooManyDigits (count : Nat)
  | markup (e : Terminal.MarkupError)
  deriving DecidableEq, Repr

namespace Failure

def atStage (s : Stage) : Failure → Failure
  | diagnostic d => diagnostic (d.atStage s)
  | f => f

/-- The words of a failure that is no diagnostic, if it has any. -/
def message? : Failure → Option String
  | taken name => some ("Entity already present in library: " ++ name)
  | fault .nul => some "embedded null byte"
  | tooManyDigits count => some (AnnotationError.tooManyDigits count).message
  | _ => none

end Failure

def SourceError.diagnostic (e : SourceError) : Diagnostic := ⟨.source, e.message, "", none⟩

def ModuleError.failure : ModuleError → Failure
  | source e => .diagnostic e.diagnostic
  | misuse m => .misuse m

def LoadError.failure : LoadError → Failure
  | noManifest directory => .diagnostic
    ⟨.source, "No " ++ Manifest.fileName ++ " found in crate root: " ++ directory, "", none⟩
  | invalidYaml path => .diagnostic ⟨.source, "Invalid YAML in " ++ path, "", none⟩
  | notMapping path => .diagnostic ⟨.source, path ++ " must contain a mapping", "", none⟩
  | cycle directory => .diagnostic
    ⟨.source, "Crate dependency cycle through " ++ directory, "", none⟩
  | module e => e.failure
  | misuse m => .misuse m
  | fault f => .fault f

def BuildError.failure : BuildError → Failure
  | predicate owner text e => .diagnostic ⟨.source, e.message text, owner, none⟩
  | misuse m => .misuse m
  | arrayArgument function argument => .diagnostic
    ⟨.source, "argument '" ++ argument.getD "None" ++ "' is an array passed by value, " ++
      "which C cannot express; pass a pointer instead", function, none⟩
  | untyped kind ident => .diagnostic
    ⟨.source, kind.key ++ " declaration has no type", ident, none⟩
  | duplicate ident crate => .diagnostic
    ⟨.duplicateDeclaration, "declared more than once in crate '" ++ crate ++ "'", ident, none⟩
  | taken ident => .taken ident
  | tooManyDigits count => .tooManyDigits count

def SpecializationError.diagnostic : SpecializationError → Diagnostic
  | argumentCount template expected given =>
    ⟨.unresolvedType, "expects " ++ toString expected ++ " generic argument(s), got " ++
      toString given, template, none⟩
  | tooDeep template label maxDepth =>
    ⟨.unboundedSpecialization, "instantiating " ++ label ++ " exceeds the recursion ceiling of " ++
      toString maxDepth, template, none⟩
  | collision template label name owner =>
    ⟨.mangledNameCollision, label ++ " mangles to '" ++ name ++ "', which is already used by " ++
      owner, template, none⟩
  | argumentsMissing target owner =>
    ⟨.unresolvedType, "generic type " ++ target ++ " is used without arguments in " ++ owner, owner, none⟩
  | argumentsUnwanted target owner =>
    ⟨.unresolvedType, target ++ " is not generic but is given arguments in " ++ owner, owner, none⟩

def OrderError.diagnostic : OrderError → Diagnostic
  | containment cycle =>
    let first := cycle.head?.getD ""
    ⟨.unrepresentableCycle, "types contain each other by value: " ++
      " -> ".intercalate (cycle ++ [first]), first, none⟩
  | noOrder left =>
    ⟨.unrepresentableCycle, "no declaration order exists for: " ++ ", ".intercalate left,
      left.head?.getD "", none⟩

def Ty.Mention.text (m : Ty.Mention) : String := (Ty.path m.name m.args).text

def EmissionError.diagnostic : EmissionError → Diagnostic
  | unresolved entity m =>
    ⟨.unresolvedType, "references " ++ m.text ++ ", which is neither defined nor declared external",
      entity, none⟩
  | notType entity kind target =>
    ⟨.unresolvedType, "uses " ++ kind.name ++ " " ++ target ++ " as a type", entity, none⟩
  | opaqueByValue entity target =>
    ⟨.unresolvedType, "uses opaque type " ++ target ++ " by value; only pointers to it are allowed",
      entity, none⟩
  | sameExportName entity name first =>
    ⟨.exportNameCollision, "export name '" ++ name ++ "' is also used by " ++ first, entity, none⟩

end CrateHeader
