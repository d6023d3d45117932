import CrateHeader.Ty
import CrateHeader.Ty.Reader

/-!
# Lowering type expressions

A type expression becomes a type. A generic parameter stays a path without arguments; primitives are
known by name; standard wrappers around one argument disappear where their layout is that of a pointer
or of the argument itself. `Option` disappears only around what lowers to a pointer or a function type.
-/

namespace CrateHeader

/-- Wrappers that are a pointer to their argument, never null. -/
def isPointerWrapper (name : String) : Bool := name == "Box" || name == "NonNull"

/-- Wrappers with the layout of their argument. -/
def isTransparentWrapper (name : String) : Bool :=
  name == "ManuallyDrop" || name == "MaybeUninit" || name == "Cell" || name == "UnsafeCell"

namespace Ty

/-- What an `Option` of a type is, where it is no type of its own. -/
def ofOption? : Ty → Option Ty
  | pointer target isMut _ => some (pointer target isMut true)
  | function params ret never => some (function params ret never)
  | _ => none

/-- A path with lowered arguments, standard wrappers simplified. -/
def wrap (name : String) : List Ty → Ty
  | [inner] =>
    if isPointerWrapper name then pointer inner true false
    else if isTransparentWrapper name then inner
    else if name = "Option" then (ofOption? inner).getD (path name [inner])
    else path name [inner]
  | [] => ((Primitive.ofName? name).map primitive).getD (path name [])
  | args => path name args

end Ty

namespace Expr

mutual
def lower (generics : List String) : Expr → Ty
  | path name args =>
    if generics.contains name then .path name [] else Ty.wrap name (lowerAll generics args)
  | pointer target isMut isReference => .pointer (target.lower generics) isMut (!isReference)
  | array element length => .array (element.lower generics) length
  | function params ret =>
    .function (lowerParams generics params) (lowerResult generics ret)
      ((ret.map isNever).getD false)
  | unit => .void
  | never => .void

def lowerAll (generics : List String) : List Expr → List Ty
  | [] => []
  | e :: rest => e.lower generics :: lowerAll generics rest

def lowerParams (generics : List String) : List (Option String × Expr) → List (Option String × Ty)
  | [] => []
  | (n, e) :: rest => (n, e.lower generics) :: lowerParams generics rest

/-- A result that is not given is void. -/
def lowerResult (generics : List String) : Option Expr → Ty
  | none => .void
  | some e => e.lower generics
end

end Expr

/-- The type that a text writes. -/
def Ty.read (generics : List String) (text : String) : Except TySyntaxError Ty :=
  (Expr.read text).map (Expr.lower generics)

end CrateHeader
