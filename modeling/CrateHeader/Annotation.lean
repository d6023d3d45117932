import CrateHeader.Attribute
import CrateHeader.Log
import CrateHeader.Primitive
import CrateHeader.Text.Digits
import CrateHeader.Text.Quoted

/-!
# Annotations

The attributes that mean something to a header, read into a closed set of kinds. Any other attribute is
passed through. Where a declaration repeats a kind, its first annotation counts.
-/

namespace CrateHeader

inductive LayoutStyle where
  | rust
  | c
  | transparent
  deriving DecidableEq, Repr

def LayoutStyle.name : LayoutStyle → String
  | rust => "rust"
  | c => "C"
  | transparent => "transparent"

/-- The memory layout that a type asks for. -/
structure Layout where
  style : LayoutStyle
  /-- The width of an enum's tag. -/
  discriminant : Option Primitive
  packed : Bool
  align : Option Nat
  deriving DecidableEq, Repr

/-- No request at all. -/
def Layout.default : Layout := ⟨.rust, none, false, none⟩

inductive Annotation where
  | layout (layout : Layout)
  | exportName (name : String)
  | renameAll (rule : String)
  | opaqueMark
  | deprecated (note : String)
  /-- Pointer arguments to be written as arrays, each with its length. -/
  | pointersAsArrays (lengths : List (String × String))
  | noMangle
  | mustUse
  | passthrough (name : String) (value : Option String)
  deriving DecidableEq, Repr

/-- What is wrong with the value of an attribute of a known kind. -/
inductive AnnotationError where
  | valueMissing (name : String)
  | ruleMissing
  | malformedAlign (part : String)
  /-- An alignment with more digits than any number is read from. -/
  | tooManyDigits (count : Nat)
  | unsupportedLayout (part : String)
  | malformedLengths (value : String)
  deriving DecidableEq, Repr

/-- How many digits a number may have, those of no worth included. -/
def digitLimit : Nat := 4300

def AnnotationError.message : AnnotationError → String
  | valueMissing name => "'" ++ name ++ "' requires a value"
  | ruleMissing => "'rename_all' requires a rule name"
  | malformedAlign part => "Malformed repr alignment: " ++ Text.quoted part
  | tooManyDigits count => "Exceeds the limit (" ++ toString digitLimit ++
    " digits) for integer string conversion: value has " ++ toString count ++
    " digits; use sys.set_int_max_str_digits() to increase the limit"
  | unsupportedLayout part => "Unsupported repr: " ++ Text.quoted part
  | malformedLengths value => "Malformed ptrs_as_arrays value: " ++ Text.quoted value

namespace Annotation

/-- The parts of a text between the commas that stand in no parenthesis, trimmed; an empty last part is
left out. `held` has the characters of the current part, last one first. -/
def splitParts (depth : Int) (held : List Char) : List Char → List (List Char)
  | [] =>
    let part := Text.trim held.reverse
    if part = [] then [] else [part]
  | c :: rest =>
    let depth := if c = '(' then depth + 1 else if c = ')' then depth - 1 else depth
    if c = ',' ∧ depth = 0 then Text.trim held.reverse :: splitParts depth [] rest
    else splitParts depth (c :: held) rest

def topLevelParts (value : String) : List (List Char) := splitParts 0 [] value.toList

/-- A text without the double quotes around it. -/
def unquote (value : String) : String :=
  let chars := Text.trim value.toList
  match chars, chars.reverse with
  | '"' :: rest, '"' :: _ :: _ => String.ofList rest.dropLast
  | _, _ => String.ofList chars

/-! ### Layout -/

/-- The digits in `align(n)`, of any script, blanks allowed between the parts. -/
def readAlign? (part : List Char) : Option (List Char) :=
  match Text.trimLeft (part.drop 5) with
  | '(' :: inside =>
    let inside := Text.trimLeft inside
    match inside.takeWhile Text.isDecimalDigit, Text.trimLeft (inside.dropWhile Text.isDecimalDigit) with
    | d :: digits, [')'] => some (d :: digits)
    | _, _ => none
  | _ => none

def addLayoutPart (layout : Layout) (part : List Char) : Except AnnotationError Layout :=
  let word := String.ofList part
  if word = "C" then .ok { layout with style := .c }
  else if word = "transparent" then .ok { layout with style := .transparent }
  else if word = "packed" then .ok { layout with packed := true }
  else if part.take 5 = ['a', 'l', 'i', 'g', 'n'] then
    match readAlign? part with
    | some digits =>
      if digitLimit < digits.length then .error (.tooManyDigits digits.length)
      else .ok { layout with align := some (Text.decimalValue digits) }
    | none => .error (.malformedAlign word)
  else match Primitive.ofName? word with
    | some p =>
      if p.isInteger then .ok { layout with discriminant := some p }
      else .error (.unsupportedLayout word)
    | none => .error (.unsupportedLayout word)

/-- The parts of a layout request added up in order, a later part of a kind in place of an earlier one. -/
def readLayout (value : String) : Except AnnotationError Layout :=
  (topLevelParts value).foldlM addLayoutPart Layout.default

/-! ### Deprecation notes -/

/-- The quoted text of `note = "..."` at the front of a text. -/
def noteHere? : List Char → Option (List Char)
  | 'n' :: 'o' :: 't' :: 'e' :: rest =>
    match Text.trimLeft rest with
    | '=' :: rest =>
      match Text.trimLeft rest with
      | '"' :: held =>
        if held.contains '"' then some (held.takeWhile (· != '"')) else none
      | _ => none
    | _ => none
  | _ => none

/-- The first note that a text holds anywhere. -/
def findNote? : List Char → Option (List Char)
  | [] => none
  | c :: rest => (noteHere? (c :: rest)).or (findNote? rest)

def deprecationNote : Option String → String
  | none => ""
  | some value =>
    if value = "" then "" else
      match findNote? value.toList with
      | some note => String.ofList note
      | none => unquote value

/-! ### Array lengths of arguments -/

/-- The length in front of a closing bracket, its own blanks trimmed; of nothing but blanks the last one
is left. -/
def readLength? (s : List Char) : Option (List Char) :=
  match s.reverse with
  | ']' :: reversed =>
    let held := reversed.reverse
    if held.contains ']' then none
    else match Text.trim held, reversed with
      | [], blank :: _ => some [blank]
      | [], [] => none
      | length, _ => some length
  | _ => none

/-- An entry `[argument; length]`. -/
def readPair? : List Char → Option (String × String)
  | '[' :: rest =>
    match Text.trimLeft rest with
    | c :: more =>
      if Text.isNameStart c then
        match Text.trimLeft (more.dropWhile Text.isWordChar) with
        | ';' :: length => (readLength? length).map fun length =>
          (String.ofList (c :: more.takeWhile Text.isWordChar), String.ofList length)
        | _ => none
      else none
    | [] => none
  | _ => none

/-- Malformed entries are skipped, unless there is no other. -/
def readLengths (value : String) : Logged AnnotationError (List (String × String)) :=
  let entries := topLevelParts value
  let pairs := entries.filterMap readPair?
  let skipped := entries.filter fun e => (readPair? e).isNone
  { result := if !entries.isEmpty && pairs.isEmpty then .error (.malformedLengths value) else .ok pairs
    log := skipped.flatMap fun e =>
      Log.warning ("Skipping malformed ptrs_as_arrays entry " ++ Text.quoted (String.ofList e)) }

/-! ### Classification -/

/-- The annotation that an attribute stands for. -/
def classify (name : String) (value : Option String) : Logged AnnotationError Annotation :=
  let given := value.getD ""
  match name with
  | "repr" => Annotation.layout <$> Logged.ofExcept (readLayout given)
  | "export_name" | "rename" =>
    if given = "" then Logged.fail (.valueMissing name) else pure (exportName (unquote given))
  | "rename_all" => if given = "" then Logged.fail .ruleMissing else pure (renameAll (unquote given))
  | "opaque" => pure opaqueMark
  | "deprecated" => pure (deprecated (deprecationNote value))
  | "ptrs_as_arrays" => pointersAsArrays <$> readLengths given
  | "no_mangle" => pure noMangle
  | "must_use" => pure mustUse
  | _ => pure (passthrough name value)

end Annotation

/-- The annotations of one declaration, as written. -/
abbrev Annotations := List Annotation

namespace Annotations

def layout (as : Annotations) : Layout :=
  (as.findSome? fun | .layout l => some l | _ => none).getD Layout.default

def exportName? (as : Annotations) : Option String :=
  as.findSome? fun | .exportName n => some n | _ => none

def renameAll? (as : Annotations) : Option String :=
  as.findSome? fun | .renameAll r => some r | _ => none

def isOpaque (as : Annotations) : Bool := as.contains .opaqueMark

/-- The note of a deprecated declaration, which may be empty. -/
def deprecated? (as : Annotations) : Option String :=
  as.findSome? fun | .deprecated n => some n | _ => none

def arrayLengths (as : Annotations) : List (String × String) :=
  (as.findSome? fun | .pointersAsArrays ls => some ls | _ => none).getD []

/-- The length given for an argument; a later entry replaces an earlier one. -/
def arrayLength? (as : Annotations) (argument : String) : Option String :=
  as.arrayLengths.reverse.lookup argument

def mustUse (as : Annotations) : Bool := as.contains .mustUse

def passthroughs (as : Annotations) : Annotations :=
  as.filter fun | .passthrough _ _ => true | _ => false

end Annotations

end CrateHeader
