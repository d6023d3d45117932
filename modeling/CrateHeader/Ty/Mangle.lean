import CrateHeader.Ty
import CrateHeader.Text.Alphanumeric

/-!
# Mangled names

The name of an instance spells its arguments out in identifier characters. A path with arguments and a
function type end in a closing mark of two underscores, which keeps `A<B<C>, D>` apart from `A<B<C, D>>`.
A library may ask for the underscores inside names and lengths to be left out; the joints keep theirs.
-/

namespace CrateHeader.Ty

/-- Identifier characters of a text; any other becomes an underscore. -/
def identifierText (dropUnderscores : Bool) (s : String) : String :=
  let chars := s.toList.map fun c => if Text.isWordChar c then c else '_'
  String.ofList (if dropUnderscores then chars.filter (· != '_') else chars)

mutual
def mangle (dropUnderscores : Bool) : Ty → String
  | primitive k => identifierText dropUnderscores k.spelling
  | path name [] => identifierText dropUnderscores name
  | path name args =>
    identifierText dropUnderscores name ++ "_" ++ "_".intercalate (mangleAll dropUnderscores args) ++ "__"
  | pointer target isMut _ =>
    (if isMut then "MutPtr" else "ConstPtr") ++ "_" ++ target.mangle dropUnderscores
  | array element length =>
    "Array_" ++ element.mangle dropUnderscores ++ "_" ++ identifierText dropUnderscores length
  | function params ret _ =>
    "Fn_" ++ "_".intercalate (mangleParams dropUnderscores params) ++ "_Ret_" ++
      ret.mangle dropUnderscores ++ "__"

def mangleAll (dropUnderscores : Bool) : List Ty → List String
  | [] => []
  | t :: rest => t.mangle dropUnderscores :: mangleAll dropUnderscores rest

def mangleParams (dropUnderscores : Bool) : List (Option String × Ty) → List String
  | [] => []
  | (_, t) :: rest => t.mangle dropUnderscores :: mangleParams dropUnderscores rest
end

/-- The name of the instance of a template at some arguments. -/
def mangledName (template : String) (args : List Ty) (dropUnderscores : Bool) : String :=
  template ++ "_" ++ "_".intercalate (mangleAll dropUnderscores args)

end CrateHeader.Ty
