import CrateHeader.Identifier.Words
import CrateHeader.Text.Casing
import CrateHeader.Text.Quoted

/-!
# Rename rules

A rule says how the words of a member's name are put together again. The rules for lower and upper case keep
the name as it is but for its case; the others join its words. A name without words stays.
-/

namespace CrateHeader

/-- What an identifier names. -/
inductive IdentifierContext where
  | structMember
  | enumVariant
  | functionArg
  | type
  deriving DecidableEq, Repr

inductive RenameRule where
  | none
  | gecko
  | lower
  | upper
  | pascal
  | camel
  | snake
  | screamingSnake
  | qualifiedScreamingSnake
  deriving DecidableEq, Repr

namespace RenameRule

def spelling : RenameRule → String
  | none => "none"
  | gecko => "GeckoCase"
  | lower => "lowercase"
  | upper => "UPPERCASE"
  | pascal => "PascalCase"
  | camel => "camelCase"
  | snake => "snake_case"
  | screamingSnake => "SCREAMING_SNAKE_CASE"
  | qualifiedScreamingSnake => "QualifiedScreamingSnakeCase"

def all : List RenameRule :=
  [none, gecko, lower, upper, pascal, camel, snake, screamingSnake, qualifiedScreamingSnake]

def ofAlias? : String → Option RenameRule
  | "None" => some none
  | "LowerCase" => some lower
  | "UpperCase" => some upper
  | "CamelCase" => some camel
  | "SnakeCase" => some snake
  | "ScreamingSnakeCase" => some screamingSnake
  | "mGeckoCase" => some gecko
  | _ => Option.none

/-- The rule of a spelling, an alias or its own. -/
def ofName? (name : String) : Option RenameRule :=
  (ofAlias? name).or (all.find? fun r => r.spelling == name)

/-- Why a spelling is refused. -/
def unknownMessage (name : String) : String := Text.quoted name ++ " is not a valid RenameRule"

def capitalize (word : String) : String :=
  match word.toList with
  | [] => ""
  | c :: rest => String.ofList (Text.upperChar c) ++ Text.lower (String.ofList rest)

def pascalText (words : List String) : String := String.join (words.map capitalize)

def camelText : List String → String
  | [] => ""
  | w :: rest => Text.lower w ++ pascalText rest

def snakeText (words : List String) : String := "_".intercalate (words.map Text.lower)

def screamingText (words : List String) : String := "_".intercalate (words.map Text.upper)

def geckoMark : IdentifierContext → String
  | .structMember => "m"
  | .functionArg => "a"
  | _ => ""

/-- A name by a rule. The qualifier is the name of the type that the name belongs to. -/
def apply (rule : RenameRule) (name : String) (context : IdentifierContext) (qualifier : String) :
    String :=
  let words := Identifier.splitWords name
  if words.isEmpty then name
  else match rule with
    | none => name
    | lower => Text.lower name
    | upper => Text.upper name
    | pascal => pascalText words
    | camel => camelText words
    | snake => snakeText words
    | screamingSnake => screamingText words
    | qualifiedScreamingSnake =>
      let mark := screamingText (Identifier.splitWords qualifier)
      if mark = "" then screamingText words else mark ++ "_" ++ screamingText words
    | gecko => geckoMark context ++ pascalText words

@[simp] theorem apply_none (name : String) (context : IdentifierContext) (qualifier : String) :
    apply none name context qualifier = name := by
  simp [apply]

end RenameRule

/-- Words that C keeps to itself. -/
def cKeywords : List String := [
  "auto", "break", "case", "char", "const", "continue", "default", "do", "double", "else", "enum",
  "extern", "float", "for", "goto", "if", "inline", "int", "long", "register", "restrict", "return",
  "short", "signed", "sizeof", "static", "struct", "switch", "typedef", "union", "unsigned", "void",
  "volatile", "while", "_Bool", "_Complex", "_Imaginary", "bool"]

/-- A name that C can use: an underscore keeps it apart from a keyword. -/
def escapeKeyword (name : String) : String :=
  if cKeywords.contains name then name ++ "_" else name

theorem escapeKeyword_of_not_mem {name : String} (h : name ∉ cKeywords) :
    escapeKeyword name = name := by simp [escapeKeyword, h]

end CrateHeader
