/-!
# Type expressions

A type as it is written, before standard wrappers are simplified: references are kept apart from raw
pointers, and the unit and never types from results that are not given.
-/

namespace CrateHeader

inductive Expr where
  | path (name : String) (args : List Expr)
  | pointer (target : Expr) (isMut isReference : Bool)
  | array (element : Expr) (length : String)
  | function (params : List (Option String × Expr)) (ret : Option Expr)
  | unit
  | never
  deriving Inhabited, Repr, BEq

def Expr.isNever : Expr → Bool
  | never => true
  | _ => false

end CrateHeader
