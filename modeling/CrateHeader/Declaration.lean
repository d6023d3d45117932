import CrateHeader.Attribute
import CrateHeader.Document
import CrateHeader.Ty.Expr

/-!
# Declarations

What a module declares, as it is written: types are still expressions and attributes are not yet
understood. A declaration inherits the predicates of its crate and its module; a crate's predicate is kept
as the manifest gives it.
-/

namespace CrateHeader

inductive DeclKind where
  | struct
  | union
  | enum
  | opaqueType
  | typeAlias
  | function
  | constant
  | static
  deriving DecidableEq, Repr

namespace DeclKind

/-- The key of an item that declares this kind. -/
def key : DeclKind → String
  | struct => "struct"
  | union => "union"
  | enum => "enum"
  | opaqueType => "opaque"
  | typeAlias => "type"
  | function => "fn"
  | constant => "const"
  | static => "static"

def all : List DeclKind := [struct, union, enum, opaqueType, typeAlias, function, constant, static]

def ofKey? (key : String) : Option DeclKind := all.find? fun k => k.key == key

end DeclKind

structure FieldDecl where
  name : String
  type : Expr
  attributes : List Attribute
  deriving Repr

structure VariantDecl where
  name : String
  discriminant : Option String
  fields : List FieldDecl
  attributes : List Attribute
  deriving Repr

structure ParamDecl where
  name : Option String
  type : Expr
  attributes : List Attribute
  deriving Repr

inductive DeclBody where
  | struct (fields : List FieldDecl)
  | union (fields : List FieldDecl)
  | enum (variants : List VariantDecl)
  | opaqueType
  | typeAlias (target : Option Expr)
  | function (params : List ParamDecl) (returns : Option Expr) (variadic : Bool)
  | constant (type : Option Expr) (value : Option String)
  | static (type : Option Expr) (isMut : Bool)
  deriving Repr

namespace DeclBody

def kind : DeclBody → DeclKind
  | struct _ => .struct
  | union _ => .union
  | enum _ => .enum
  | opaqueType => .opaqueType
  | typeAlias _ => .typeAlias
  | function _ _ _ => .function
  | constant _ _ => .constant
  | static _ _ => .static

/-- A body of which nothing is given. -/
def bare : DeclKind → DeclBody
  | .struct => struct []
  | .union => union []
  | .enum => enum []
  | .opaqueType => opaqueType
  | .typeAlias => typeAlias none
  | .function => function [] none false
  | .constant => constant none none
  | .static => static none false

@[simp] theorem kind_bare (k : DeclKind) : (bare k).kind = k := by cases k <;> rfl

end DeclBody

structure Declaration where
  ident : String
  attributes : List Attribute
  generics : List String
  crate : String
  exported : Bool
  /-- The predicates of the crate and the module around the declaration. -/
  inherited : List Document
  body : DeclBody
  deriving Repr

/-- A declaration of which only the kind, the name and the crate are given. -/
def Declaration.bare (kind : DeclKind) (ident crate : String) : Declaration :=
  ⟨ident, [], [], crate, true, [], .bare kind⟩

end CrateHeader
