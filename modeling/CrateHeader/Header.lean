import CrateHeader.Declarator
import CrateHeader.Emission
import CrateHeader.Settings
import CrateHeader.Text.Lines

/-!
# Headers

A stream written out as a C header: what comes first and last is taken from the settings, then types,
constants, and statics with functions, each as a block of lines with an empty line after it. A type that has
been forward-declared is defined by its tag alone, any other by a `typedef` around its definition. A tagged
enum becomes an enum of tags, one struct for each payload and a struct that holds a tag and a union of them.
-/

namespace CrateHeader

namespace Header

def indent : String := "  "

/-- The name that is printed for a type. -/
def nameOf (lib : Library) (name : String) : String :=
  ((lib.get? name).map (·.exportName)).getD name

/-! ### Comments -/

def dropOneSpace (line : String) : String :=
  match line.toList with
  | ' ' :: rest => String.ofList rest
  | _ => line

/-- Documentation as comment lines. -/
def docLines (settings : Settings) (margin : String) (docs : List String) : List String :=
  if !settings.documentation || docs.isEmpty then []
  else
    let texts := docs.map dropOneSpace
    match settings.commentStyle with
    | .c99 => texts.map fun line => Text.stripRight (margin ++ "// " ++ line)
    | .doxy =>
      (margin ++ "/**") :: (texts.map fun line => Text.stripRight (margin ++ " * " ++ line)) ++
        [margin ++ " */"]

/-! ### Types -/

def layoutText (layout : Layout) : String :=
  let packed := if layout.packed then ["__attribute__((packed))"] else []
  let align := match layout.align with
    | some n => ["__attribute__((aligned(" ++ toString n ++ ")))"]
    | none => []
  " ".intercalate (packed ++ align)

def declare (lib : Library) (ty : Ty) (ident : String) : String :=
  (Declarator.ofTy (nameOf lib) false ty).render (some ident) ""

def fieldLines (settings : Settings) (lib : Library) (f : Field) : List String :=
  docLines settings indent f.docs ++ [indent ++ declare lib f.ty f.exportName ++ ";"]

/-- A struct or union definition around its members. -/
def record (declared : List String) (keyword name layout : String) (members : List String) :
    List String :=
  let attributes := if layout = "" then "" else layout ++ " "
  let opening := keyword ++ " " ++ attributes ++ name ++ " \x7b"
  if declared.contains name then opening :: members ++ ["\x7d;"]
  else ("typedef " ++ opening) :: members ++ ["\x7d " ++ name ++ ";"]

def enumeratorLines (settings : Settings) (v : Variant) : List String :=
  let value := match v.discriminant with
    | some d => " = " ++ d
    | none => ""
  docLines settings indent v.docs ++ [indent ++ v.exportName ++ value ++ ","]

/-- An enum under a name of its own; one of a given width is an integer to C. -/
def plainEnum (settings : Settings) (layout : Layout) (variants : List Variant) (name : String) :
    List String :=
  let body := variants.flatMap (enumeratorLines settings)
  match layout.discriminant with
  | some p => ("enum " ++ name ++ " \x7b") :: body ++
      ["\x7d;", "typedef " ++ p.cSpelling ++ " " ++ name ++ ";"]
  | none => ("typedef enum " ++ name ++ " \x7b") :: body ++ ["\x7d " ++ name ++ ";"]

/-- The union member that holds a variant's payload. -/
def payloadMember (v : Variant) : String :=
  escapeKeyword (RenameRule.snake.apply v.name .structMember "")

def taggedEnum (settings : Settings) (lib : Library) (declared : List String) (e : Entity)
    (variants : List Variant) : List String :=
  let layout := e.annotations.layout
  let payloads := variants.filter Variant.hasPayload
  let bodies := payloads.flatMap fun v =>
    record declared "struct" (e.bodyName v) "" (v.fields.flatMap (fieldLines settings lib)) ++ [""]
  let members := payloads.map fun v =>
    indent ++ indent ++ e.bodyName v ++ " " ++ payloadMember v ++ ";"
  docLines settings "" e.docs ++ plainEnum settings layout variants e.tagName ++ [""] ++ bodies ++
    record declared "struct" e.exportName (layoutText layout)
      ([indent ++ e.tagName ++ " tag;", indent ++ "union \x7b"] ++ members ++ [indent ++ "\x7d;"])

def defineType (settings : Settings) (lib : Library) (declared : List String) (e : Entity) :
    List String :=
  let docs := docLines settings "" e.docs
  match e.body with
  | .typeAlias target => docs ++ ["typedef " ++ declare lib target e.exportName ++ ";"]
  | .enum variants =>
    if e.body.isTagged then taggedEnum settings lib declared e variants
    else docs ++ plainEnum settings e.annotations.layout variants e.exportName
  | .struct fields => docs ++ record declared "struct" e.exportName (layoutText e.annotations.layout)
      (fields.flatMap (fieldLines settings lib))
  | .union fields => docs ++ record declared "union" e.exportName (layoutText e.annotations.layout)
      (fields.flatMap (fieldLines settings lib))
  | _ => []

def forwardDeclare (settings : Settings) (e : Entity) : List String :=
  let keyword := if e.kind = .union then "union" else "struct"
  let docs := if e.kind = .opaqueType then docLines settings "" e.docs else []
  docs ++ ["typedef " ++ keyword ++ " " ++ e.exportName ++ " " ++ e.exportName ++ ";"]

/-- A block for each event about a type; `declared` has the names forward-declared so far. -/
def typeBlocks (settings : Settings) (lib : Library) (declared : List String) :
    List Event → List (List String)
  | [] => []
  | e :: rest =>
    match e.kind with
    | .forwardDeclare =>
      forwardDeclare settings e.entity ::
        typeBlocks settings lib (e.entity.exportName :: declared) rest
    | .defineType => defineType settings lib declared e.entity :: typeBlocks settings lib declared rest
    | _ => typeBlocks settings lib declared rest

/-! ### Values and functions -/

/-- A text with every pair of braces replaced. -/
def fillBraces (filling : List Char) : List Char → List Char
  | '\x7b' :: '\x7d' :: rest => filling ++ fillBraces filling rest
  | c :: rest => c :: fillBraces filling rest
  | [] => []

/-- The line that marks a deprecated function, as the settings give it. -/
def deprecationMark (settings : FunctionSettings) (note : String) : Option Document :=
  if note ≠ "" ∧ settings.deprecatedWithNote.truthy then
    some (.text (String.ofList (fillBraces ("\"" ++ note ++ "\"").toList
      settings.deprecatedWithNote.asText.toList)))
  else if settings.deprecated.truthy then some settings.deprecated
  else none

def functionLines (settings : Settings) (lib : Library) (e : Entity) (args : List Argument) (ret : Ty)
    (never : Bool) : List String :=
  let mark := (e.annotations.deprecated?.bind (deprecationMark settings.function)).toList
  let noReturn := if settings.function.noReturn.truthy then settings.function.noReturn.asText else ""
  let prototype := (Declarator.ofFunction (nameOf lib) args ret never).render (some e.exportName) noReturn
  docLines settings "" e.docs ++ mark.map Document.asText ++ [prototype ++ ";"]

def valueLines (settings : Settings) (lib : Library) (e : Entity) : List String :=
  let docs := docLines settings "" e.docs
  match e.body with
  | .constant _ value => docs ++ ["#define " ++ e.exportName ++ " " ++ value]
  | .static ty isMut => docs ++
      ["extern " ++ (Declarator.ofTy (nameOf lib) (!isMut) ty).render (some e.exportName) "" ++ ";"]
  | .function args ret never => functionLines settings lib e args ret never
  | _ => []

/-! ### The whole header -/

/-- A setting as a block of its own, without the line ends at its end. -/
def givenBlock (given : Document) : List String :=
  if given.truthy then [Text.dropFinalNewlines given.asText, ""] else []

def preamble (settings : Settings) : List String :=
  let guard := settings.includeGuard
  let system := if settings.noIncludes then []
    else settings.sysIncludes.map fun name => "#include <" ++ name ++ ">"
  let includes := system ++ settings.includes.map fun name => "#include \"" ++ name ++ "\""
  givenBlock settings.header ++ givenBlock settings.autogenWarning ++
    (if guard.truthy then ["#ifndef " ++ guard.asText, "#define " ++ guard.asText, ""] else []) ++
    (if settings.pragmaOnce then ["#pragma once", ""] else []) ++
    if includes.isEmpty then [] else includes ++ [""]

def epilogue (settings : Settings) : List String :=
  let guard := settings.includeGuard
  (if guard.truthy then ["#endif  // " ++ guard.asText, ""] else []) ++
    if settings.trailer.truthy then [Text.dropFinalNewlines settings.trailer.asText] else []

def spaced (blocks : List (List String)) : List String := blocks.flatMap fun block => block ++ [""]

/-- Declarations, kept in C linkage for C++ if the settings say so. -/
def declarationLines (settings : Settings) (blocks : List (List String)) : List String :=
  if blocks.isEmpty then []
  else if settings.cppCompat then
    ["#ifdef __cplusplus", "extern \"C\" \x7b", "#endif  // __cplusplus", ""] ++ spaced blocks ++
      ["#ifdef __cplusplus", "\x7d  // extern \"C\"", "#endif  // __cplusplus", ""]
  else spaced blocks

def blocksOf (settings : Settings) (s : Stream) (kinds : List EventKind) : List (List String) :=
  (s.events.filter fun e => kinds.contains e.kind).map fun e => valueLines settings s.library e.entity

def lines (settings : Settings) (s : Stream) : List String :=
  preamble settings ++ spaced (typeBlocks settings s.library [] s.events) ++
    spaced (blocksOf settings s [.declareConstant]) ++
    declarationLines settings (blocksOf settings s [.declareStatic, .declareFunction]) ++
    epilogue settings

/-- The header as text, with one line end at its end. -/
def text (settings : Settings) (s : Stream) : String :=
  Text.dropFinalNewlines ("\n".intercalate (lines settings s)) ++ "\n"

/-! ### Settings that cannot be written -/

/-- A value that is used but is no text. -/
def isUnfit (given : Document) : Bool :=
  given.truthy && match given with
    | .text _ => false
    | _ => true

/-- The notes of the deprecated functions of a stream. -/
def notes (s : Stream) : List String :=
  s.events.filterMap fun e => if e.entity.kind = .function then e.entity.annotations.deprecated? else none

/-- Does some deprecated function have a note that goes into a mark? -/
def usesNote (settings : FunctionSettings) (s : Stream) : Bool :=
  (notes s).any fun note => note != "" && settings.deprecatedWithNote.truthy

/-- Is some deprecated function marked without its note? -/
def usesPlainMark (settings : FunctionSettings) (s : Stream) : Bool :=
  (notes s).any fun note => !(note != "" && settings.deprecatedWithNote.truthy)

def misuse? (settings : Settings) (s : Stream) : Option Misuse :=
  let f := settings.function
  if isUnfit settings.header || isUnfit settings.autogenWarning || isUnfit settings.trailer ||
      (isUnfit f.deprecatedWithNote && usesNote f s) then some .wrongOperation
  else if isUnfit f.deprecated && usesPlainMark f s then some .notText
  else none

/-- The header of a stream, unless a setting that has to be a text is none. -/
def write (settings : Settings) (s : Stream) : Except Misuse String :=
  match misuse? settings s with
  | some m => .error m
  | none => .ok (text settings s)

end Header

end CrateHeader
