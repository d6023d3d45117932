import CrateHeader.Annotation
import CrateHeader.Cfg
import CrateHeader.Ty

/-!
# Entities

What a library exports: types, functions, constants and statics. An entity is known by its name; the name
that C sees is kept beside it, for the entity and for each of its members. An instance of a generic entity
remembers its template with the arguments and when it was made.
-/

namespace CrateHeader

inductive EntityKind where
  | struct
  | union
  | enum
  | opaqueType
  | typeAlias
  | function
  | constant
  | static
  deriving DecidableEq, Repr

namespace EntityKind

def name : EntityKind → String
  | struct => "struct"
  | union => "union"
  | enum => "enum"
  | opaqueType => "opaque"
  | typeAlias => "type_alias"
  | function => "function"
  | constant => "constant"
  | static => "static"

def all : List EntityKind :=
  [struct, union, enum, opaqueType, typeAlias, function, constant, static]

def isType : EntityKind → Bool
  | struct | union | enum | opaqueType | typeAlias => true
  | function | constant | static => false

end EntityKind

/-- A field of a struct or union, or of the payload of an enum variant. -/
structure Field where
  name : String
  exportName : String
  ty : Ty
  docs : List String
  cfg : Option Cfg
  deriving DecidableEq, Repr

structure Variant where
  name : String
  exportName : String
  discriminant : Option String
  fields : List Field
  docs : List String
  cfg : Option Cfg
  deriving DecidableEq, Repr

def Variant.hasPayload (v : Variant) : Bool := !v.fields.isEmpty

structure Argument where
  name : Option String
  exportName : Option String
  ty : Ty
  /-- The length of a pointer that is written as an array. -/
  arrayLength : Option String
  cfg : Option Cfg
  deriving DecidableEq, Repr

inductive Body where
  | struct (fields : List Field)
  | union (fields : List Field)
  | enum (variants : List Variant)
  | opaqueType
  | typeAlias (target : Ty)
  | function (args : List Argument) (ret : Ty) (never : Bool)
  | constant (ty : Ty) (value : String)
  | static (ty : Ty) (isMut : Bool)
  deriving DecidableEq, Repr

namespace Body

def kind : Body → EntityKind
  | struct _ => .struct
  | union _ => .union
  | enum _ => .enum
  | opaqueType => .opaqueType
  | typeAlias _ => .typeAlias
  | function _ _ _ => .function
  | constant _ _ => .constant
  | static _ _ => .static

/-- The types in a body, a function's result before its arguments. -/
def types : Body → List Ty
  | struct fields => fields.map (·.ty)
  | union fields => fields.map (·.ty)
  | enum variants => variants.flatMap fun v => v.fields.map (·.ty)
  | opaqueType => []
  | typeAlias target => [target]
  | function args ret _ => ret :: args.map (·.ty)
  | constant ty _ => [ty]
  | static ty _ => [ty]

def mapTypes (f : Ty → Ty) : Body → Body
  | struct fields => struct (fields.map fun x => { x with ty := f x.ty })
  | union fields => union (fields.map fun x => { x with ty := f x.ty })
  | enum variants => enum (variants.map fun v =>
      { v with fields := v.fields.map fun x => { x with ty := f x.ty } })
  | opaqueType => opaqueType
  | typeAlias target => typeAlias (f target)
  | function args ret never => function (args.map fun x => { x with ty := f x.ty }) (f ret) never
  | constant ty value => constant (f ty) value
  | static ty isMut => static (f ty) isMut

@[simp] theorem kind_mapTypes (f : Ty → Ty) (b : Body) : (b.mapTypes f).kind = b.kind := by
  cases b <;> rfl

theorem types_mapTypes (f : Ty → Ty) (b : Body) : (b.mapTypes f).types = b.types.map f := by
  cases b <;> simp [mapTypes, types, List.map_flatMap, List.flatMap_map, Function.comp_def]

/-- Has some variant of an enum a payload? -/
def isTagged : Body → Bool
  | enum variants => variants.any Variant.hasPayload
  | _ => false

/-- Can C be told of the type before its definition? -/
def canForwardDeclare : Body → Bool
  | struct _ | union _ | opaqueType => true
  | enum variants => variants.any Variant.hasPayload
  | _ => false

end Body

/-- A template with arguments. -/
structure InstanceKey where
  template : String
  args : List Ty
  deriving DecidableEq, Repr

def InstanceKey.text (k : InstanceKey) : String := Ty.instanceText k.template k.args

structure Entity where
  name : String
  exportName : String
  generics : List String
  docs : List String
  cfg : Option Cfg
  annotations : Annotations
  crate : String
  /-- The place among all declarations. -/
  index : Nat
  exported : Bool
  instanceOf : Option InstanceKey
  /-- The place among all instances, zero for what was declared. -/
  seq : Nat
  /-- Does it stand in for a type that was pruned? -/
  synthetic : Bool
  body : Body
  deriving DecidableEq, Repr

namespace Entity

def kind (e : Entity) : EntityKind := e.body.kind

def isType (e : Entity) : Bool := e.kind.isType

def isGeneric (e : Entity) : Bool := !e.generics.isEmpty

/-- The outer paths of all types in an entity. -/
def mentions (e : Entity) : List Ty.Mention := e.body.types.flatMap Ty.paths

def mapTypes (f : Ty → Ty) (e : Entity) : Entity := { e with body := e.body.mapTypes f }

/-- Declaration order, instances of one declaration in the order of their making, then by name. -/
def before (a b : Entity) : Bool :=
  a.index < b.index ||
    (a.index == b.index && (a.seq < b.seq || (a.seq == b.seq && decide (a.name ≤ b.name))))

/-- The entity without its body and without the memory of being an instance. -/
def asOpaque (e : Entity) : Entity :=
  { e with
    exportName := if e.exportName = "" then e.name else e.exportName
    instanceOf := none
    seq := 0
    synthetic := false
    body := .opaqueType }

def tagName (e : Entity) : String := e.exportName ++ "_Tag"

def bodyName (e : Entity) (v : Variant) : String := e.exportName ++ "_" ++ v.name ++ "_Body"

/-- The C type names that a tagged enum brings along. -/
def generatedNames (e : Entity) : List String :=
  match e.body with
  | .enum variants =>
    if e.body.isTagged then
      e.tagName :: (variants.filter Variant.hasPayload).map e.bodyName
    else []
  | _ => []

end Entity

end CrateHeader
