import CrateHeader.Library
import CrateHeader.Settings

/-!
# Export names

Canonical names stay; what is given here are the names that C sees. An entity takes its name from the
settings, from its own annotation unless it is an instance, or from its canonical name, a type with the
prefix of the settings in front. Members are renamed by a rule and kept clear of the keywords of C; variants
are not checked for keywords.
-/

namespace CrateHeader

namespace Entity

def exportNameFor (surface : ExportSettings) (e : Entity) : String :=
  let own := if e.instanceOf.isSome then none else e.annotations.exportName?
  match (surface.renamed.lookup e.name).or own with
  | some name => name
  | none => if e.isType then surface.typePrefix ++ e.name else e.name

/-- The rule for an entity's members: that of its annotation, if it names one. -/
def memberRule (e : Entity) (otherwise : RenameRule) : RenameRule :=
  (e.annotations.renameAll?.bind RenameRule.ofName?).getD otherwise

end Entity

def Field.named (rule : RenameRule) (f : Field) : Field :=
  { f with exportName := escapeKeyword (rule.apply f.name .structMember "") }

def Argument.named (rule : RenameRule) (a : Argument) : Argument :=
  match a.name with
  | none => a
  | some name => { a with exportName := some (escapeKeyword (rule.apply name .functionArg "")) }

/-- The export name of a variant of an enum whose own export name is given. -/
def Variant.exportNameFor (rule : RenameRule) (prefixWithName : Bool) (owner : String) (v : Variant) :
    String :=
  let name := rule.apply v.name .enumVariant owner
  if prefixWithName && rule != .qualifiedScreamingSnake then owner ++ "_" ++ name else name

namespace Entity

/-- The members of an entity with their export names; the entity's own is given already. -/
def nameMembers (settings : Settings) (e : Entity) : Body :=
  match e.body with
  | .struct fields => .struct (fields.map (Field.named (e.memberRule settings.renameFields)))
  | .union fields => .union (fields.map (Field.named (e.memberRule settings.renameFields)))
  | .enum variants =>
    let rule := e.memberRule settings.enumeration.renameVariants
    .enum (variants.map fun v => { v with
      exportName := v.exportNameFor rule settings.enumeration.prefixWithName e.exportName
      fields := v.fields.map (Field.named settings.renameFields) })
  | .function args ret never =>
    .function (args.map (Argument.named (e.memberRule settings.function.renameArgs))) ret never
  | body => body

def assignNames (settings : Settings) (e : Entity) : Entity :=
  let e := { e with exportName := e.exportNameFor settings.surface }
  { e with body := e.nameMembers settings }

/-- A rule of an annotation that is none. -/
def namingLog (e : Entity) : Log :=
  match e.kind with
  | .struct | .union | .enum | .function =>
    match e.annotations.renameAll? with
    | some rule =>
      if (RenameRule.ofName? rule).isSome then []
      else Log.warning
        ("Unknown rename_all rule '" ++ rule ++ "' on " ++ e.name ++ "; using the default")
    | none => []
  | _ => []

end Entity

namespace Library

def assignNames (settings : Settings) (lib : Library) : Library :=
  lib.mapEntities (Entity.assignNames settings)

def namingLog (settings : Settings) (lib : Library) : Log :=
  let renamed := lib.entities.filter fun e =>
    (e.assignNames settings).exportName != e.exportName
  lib.entities.flatMap Entity.namingLog ++
    Log.info ("Assigned export names: " ++ toString renamed.length ++ " entities renamed")

end Library

end CrateHeader
