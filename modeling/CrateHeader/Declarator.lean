import CrateHeader.Entity
import CrateHeader.Text.Blank

/-!
# C declarators

C writes a declaration inside out: `int32_t (*handlers[4])(void)` reads from the identifier outwards. A
declarator is a base type with the layers around it, the outermost first, each layer being one step from the
identifier: it is a pointer, an array or a function. A pointer in front of an array or a function, and a
function in front of either, is put in parentheses.
-/

namespace CrateHeader

inductive Layer where
  | pointer (isConst : Bool)
  | array (length : String)
  /-- A function with its parameter list as written. -/
  | function (params : String) (never : Bool)
  deriving DecidableEq, Repr

structure Declarator where
  isConst : Bool
  base : String
  layers : List Layer
  deriving DecidableEq, Repr

namespace Declarator

/-- The declarator text around an identifier, layer by layer. `apart` says that the text so far has to be set
apart from an array or a function. -/
def wrap (noReturn : String) (apart : Bool) (inner : String) : List Layer → String
  | [] => inner
  | .pointer isConst :: rest => wrap noReturn true ((if isConst then "*const " else "*") ++ inner) rest
  | .array length :: rest =>
    let inner := if apart then "(" ++ inner ++ ")" else inner
    wrap noReturn false (inner ++ "[" ++ length ++ "]") rest
  | .function params never :: rest =>
    let inner := if apart then "(" ++ inner ++ ")" else inner
    let mark := if never && noReturn != "" then " " ++ noReturn else ""
    wrap noReturn true (inner ++ "(" ++ params ++ ")" ++ mark) rest

def head (d : Declarator) : String := if d.isConst then "const " ++ d.base else d.base

/-- The declaration of an identifier, or of nothing where only a type is wanted. -/
def render (d : Declarator) (ident : Option String) (noReturn : String) : String :=
  let inside := Text.stripRight (wrap noReturn false (ident.getD "") d.layers)
  if inside = "" then d.head else d.head ++ " " ++ inside

/-- Is a parameter the sign of a variable argument list? -/
def isEllipsis (name : Option String) (d : Declarator) : Bool :=
  name.isNone && d.base == "va_list" && d.layers.isEmpty

/-- A parameter list; the last parameter may be the sign of a variable list. -/
def renderParams : List (Option String × Declarator) → List String
  | [] => []
  | [(name, d)] => [if isEllipsis name d then "..." else d.render name ""]
  | (name, d) :: rest => d.render name "" :: renderParams rest

def paramList (params : List (Option String × Declarator)) : String :=
  if params.isEmpty then "void" else ", ".intercalate (renderParams params)

/-- A layer around what is declared so far. -/
def under (layer : Layer) (d : Declarator) : Declarator := { d with layers := layer :: d.layers }

mutual
/-- The declarator of a type. `isConst` belongs to the object itself; the target of a pointer is constant
unless the pointer is mutable. -/
def ofTy (names : String → String) (isConst : Bool) : Ty → Declarator
  | .primitive p => ⟨isConst, p.cSpelling, []⟩
  | .path name _ => ⟨isConst, names name, []⟩
  | .pointer target isMut _ => under (.pointer isConst) (ofTy names (!isMut) target)
  | .array element length => under (.array length) (ofTy names isConst element)
  | .function params ret never =>
    under (.pointer isConst)
      (under (.function (paramList (ofParams names params)) never) (ofTy names false ret))

def ofParams (names : String → String) :
    List (Option String × Ty) → List (Option String × Declarator)
  | [] => []
  | (name, ty) :: rest => (name, ofTy names false ty) :: ofParams names rest
end

/-- The declarator of an argument; a pointer with a length is written as an array. -/
def ofArgument (names : String → String) (a : Argument) : Declarator :=
  match a.arrayLength, a.ty with
  | some length, .pointer target isMut _ => ofTy names (!isMut) (.array target length)
  | _, ty => ofTy names false ty

def ofFunction (names : String → String) (args : List Argument) (ret : Ty) (never : Bool) :
    Declarator :=
  under (.function (paramList (args.map fun a => (a.exportName, ofArgument names a))) never)
    (ofTy names false ret)

end Declarator

end CrateHeader
