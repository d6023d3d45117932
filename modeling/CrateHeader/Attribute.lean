import CrateHeader.Text.Alphanumeric
import CrateHeader.Text.Blank

/-!
# Attributes

An attribute is a name with an optional value: `repr(C)`, `export_name = "x"` or `no_mangle`. A value in
parentheses runs to the last closing parenthesis, which must end the text.
-/

namespace CrateHeader

structure Attribute where
  name : String
  value : Option String
  deriving DecidableEq, Repr

namespace Attribute

/-- The value that follows an attribute's name: nothing, a parenthesis or an assignment. -/
def readValue? : List Char → Option (Option (List Char))
  | [] => some none
  | '(' :: inside =>
    match (Text.trimRight inside).reverse with
    | ')' :: held => some (some (Text.trim held.reverse))
    | _ => none
  | '=' :: assigned => some (some (Text.trim assigned))
  | _ => none

def read? (text : String) : Option Attribute :=
  match Text.trimLeft text.toList with
  | [] => none
  | c :: rest =>
    if Text.isNameStart c then
      (readValue? (Text.trimLeft (rest.dropWhile Text.isWordChar))).map fun value =>
        ⟨String.ofList (c :: rest.takeWhile Text.isWordChar), value.map String.ofList⟩
    else none

end Attribute

end CrateHeader
