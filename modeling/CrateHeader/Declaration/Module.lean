import CrateHeader.Declaration
import CrateHeader.Text.Lines
import CrateHeader.Ty.Reader

/-!
# Module documents

A module is a mapping with a list of items, each under the key of its kind, and perhaps a predicate for
all of them. Reading goes through an item from top to bottom and stops at the first thing that is wrong.
-/

namespace CrateHeader

/-- What is wrong with the written form of a declaration. -/
inductive SourceError where
  | type (text : String) (error : TySyntaxError)
  | malformedAttribute (text : String)
  | notModule (origin : String)
  | notItem (origin : String) (position : Nat)
  | itemKind (origin : String) (keys : List Document)
  | noTarget (origin ident : String)
  | noType (origin : String) (kind : DeclKind) (ident : String)
  | noValue (origin ident : String)
  | notFields (origin owner : String)
  | malformedField (origin : String) (position : Nat) (owner : String)
  | malformedVariant (origin owner : String)
  | notParams (origin owner : String)
  | malformedParam (origin : String) (position : Nat) (owner : String)

def SourceError.message : SourceError → String
  | type text e => e.message text
  | malformedAttribute text => "Malformed attribute: " ++ Text.quoted text
  | notModule origin => origin ++ ": a module must be a mapping with an 'items' list"
  | notItem origin position => origin ++ ": item " ++ toString position ++ " must be a mapping"
  | itemKind origin keys =>
    origin ++ ": each item needs exactly one kind key, got " ++ (Document.list keys).shown
  | noTarget origin ident => origin ++ ": type alias " ++ ident ++ " has no 'target'"
  | noType origin kind ident => origin ++ ": " ++ kind.key ++ " " ++ ident ++ " has no 'ty'"
  | noValue origin ident => origin ++ ": const " ++ ident ++ " has no 'value'"
  | notFields origin owner => origin ++ ": fields of " ++ owner ++ " must be a mapping or a list"
  | malformedField origin position owner =>
    origin ++ ": malformed field " ++ toString position ++ " of " ++ owner
  | malformedVariant origin owner => origin ++ ": malformed variant in enum " ++ owner
  | notParams origin owner => origin ++ ": params of " ++ owner ++ " must be a mapping or a list"
  | malformedParam origin position owner =>
    origin ++ ": malformed parameter " ++ toString position ++ " of " ++ owner

inductive ModuleError where
  | source (error : SourceError)
  | misuse (misuse : Misuse)

namespace Module

/-- The entries of a mapping. -/
abbrev Entries := List (Document × Document)

def readExpr (text : String) : Except ModuleError Expr :=
  (Expr.read text).mapError fun e => .source (.type text e)

def readAttribute (text : String) : Except ModuleError Attribute :=
  match Attribute.read? text with
  | some a => .ok a
  | none => .error (.source (.malformedAttribute text))

/-- The lines of a text, with those at its end that hold nothing left out. -/
def docLines (text : String) : List String :=
  Text.lines (Text.dropFinalNewlines text)

/-- The attributes of an item or member, its documentation as one attribute a line. -/
def readAttributes (entries : Entries) : Except ModuleError (List Attribute) := do
  let written ← (Document.valueAt entries "attrs").membersIfAny.mapError .misuse
  let attributes ← written.mapM fun a => readAttribute a.asText
  let doc := Document.valueAt entries "doc"
  let lines := if doc.truthy then docLines doc.asText else []
  .ok (attributes ++ lines.map fun line => ⟨"doc", some line⟩)

/-- Members given as a mapping from names to types. -/
def readNamed {α : Type} (make : String → Expr → α) (entries : Entries) :
    Except ModuleError (List α) :=
  entries.mapM fun (name, type) => do
    let type ← readExpr type.asText
    .ok (make name.asText type)

/-- Members given as a list: a mapping with a type, or a type alone. The counter is the position of the
first of them. -/
def readListed {α : Type} (whole : Nat → Entries → Document → Except ModuleError α)
    (typeOnly : Nat → Expr → α) (malformed : Nat → SourceError) :
    Nat → List Document → Except ModuleError (List α)
  | _, [] => .ok []
  | position, entry :: rest => do
    let member ← match entry with
      | .mapping entries =>
        match Document.lookup? entries "type" with
        | some type => whole position entries type
        | none => .error (.source (malformed position))
      | .text type => typeOnly position <$> readExpr type
      | _ => .error (.source (malformed position))
    let others ← readListed whole typeOnly malformed (position + 1) rest
    .ok (member :: others)

/-- The name of a field that has none of its own. -/
def positionalName (position : Nat) : String := "_" ++ toString position

def readFields (origin owner : String) : Document → Except ModuleError (List FieldDecl)
  | .null => .ok []
  | .mapping entries => readNamed (fun name type => ⟨name, type, []⟩) entries
  | .list items =>
    readListed
      (fun position entries type => do
        let name := ((Document.lookup? entries "name").map Document.asText).getD
          (positionalName position)
        let type ← readExpr type.asText
        let attributes ← readAttributes entries
        .ok ⟨name, type, attributes⟩)
      (fun position type => ⟨positionalName position, type, []⟩)
      (fun position => .malformedField origin (position + 1) owner) 0 items
  | _ => .error (.source (.notFields origin owner))

/-- A parameter's name; null and an underscore name nothing. -/
def paramName : Document → Option String
  | .null => none
  | .text "_" => none
  | name => some name.asText

def readParams (origin owner : String) : Document → Except ModuleError (List ParamDecl)
  | .null => .ok []
  | .mapping entries => readNamed (fun name type => ⟨some name, type, []⟩) entries
  | .list items =>
    readListed
      (fun _ entries type => do
        let type ← readExpr type.asText
        let attributes ← readAttributes entries
        .ok ⟨paramName (Document.valueAt entries "name"), type, attributes⟩)
      (fun _ type => ⟨none, type, []⟩)
      (fun position => .malformedParam origin (position + 1) owner) 0 items
  | _ => .error (.source (.notParams origin owner))

/-- A literal's text; truth values are written in lower case. -/
def literal : Document → String
  | .bool b => if b then "true" else "false"
  | d => d.asText

def readVariant (origin owner : String) : Document → Except ModuleError VariantDecl
  | .text name => .ok ⟨name, none, [], []⟩
  | .mapping entries =>
    match Document.lookup? entries "name" with
    | none => .error (.source (.malformedVariant origin owner))
    | some name => do
      let discriminant := match Document.valueAt entries "value" with
        | .null => none
        | value => some (literal value)
      let fields ← readFields origin (owner ++ "::" ++ name.asText) (Document.valueAt entries "fields")
      let attributes ← readAttributes entries
      .ok ⟨name.asText, discriminant, fields, attributes⟩
  | _ => .error (.source (.malformedVariant origin owner))

def readBody (origin ident : String) (entries : Entries) : DeclKind → Except ModuleError DeclBody
  | .struct => .struct <$> readFields origin ident (Document.valueAt entries "fields")
  | .union => .union <$> readFields origin ident (Document.valueAt entries "fields")
  | .enum => do
    let variants ← (Document.valueAt entries "variants").membersIfAny.mapError .misuse
    .enum <$> variants.mapM (readVariant origin ident)
  | .opaqueType => .ok .opaqueType
  | .typeAlias =>
    match Document.lookup? entries "target" with
    | none => .error (.source (.noTarget origin ident))
    | some target => do
      let target ← readExpr target.asText
      .ok (.typeAlias (some target))
  | .function => do
    let params ← readParams origin ident (Document.valueAt entries "params")
    let returns ← match Document.valueAt entries "returns" with
      | .null => .ok none
      | returns => some <$> readExpr returns.asText
    .ok (.function params returns (Document.valueAt entries "variadic").truthy)
  | .constant =>
    match Document.lookup? entries "ty" with
    | none => .error (.source (.noType origin .constant ident))
    | some type => do
      let type ← readExpr type.asText
      match Document.lookup? entries "value" with
      | none => .error (.source (.noValue origin ident))
      | some value => .ok (.constant (some type) (some (literal value)))
  | .static =>
    match Document.lookup? entries "ty" with
    | none => .error (.source (.noType origin .static ident))
    | some type => do
      let type ← readExpr type.asText
      .ok (.static (some type) (Document.valueAt entries "mutable").truthy)

/-- The kinds that the keys of an item name, each with what it declares. -/
def kindEntries (entries : Entries) : List (DeclKind × Document) :=
  entries.filterMap fun (key, value) => match key with
    | .text s => (DeclKind.ofKey? s).map fun kind => (kind, value)
    | _ => none

def readItem (crate origin : String) (inherited : List Document) (entries : Entries) :
    Except ModuleError Declaration :=
  match kindEntries entries with
  | [(kind, name)] => do
    let ident := name.asText
    let attributes ← readAttributes entries
    let generics ← ((Document.lookup? entries "generics").getD (.list [])).members.mapError .misuse
    let exported := ((Document.lookup? entries "pub").map Document.truthy).getD true
    let body ← readBody origin ident entries kind
    .ok ⟨ident, attributes, generics.map Document.asText, crate, exported, inherited, body⟩
  | _ => do
    let keys ← (Document.sortedKeys entries).mapError .misuse
    .error (.source (.itemKind origin keys))

/-- Items in order; the counter is the position of the first of them. -/
def readItems (crate origin : String) (inherited : List Document) :
    Nat → List Document → Except ModuleError (List Declaration)
  | _, [] => .ok []
  | position, .mapping entries :: rest => do
    let declaration ← readItem crate origin inherited entries
    let others ← readItems crate origin inherited (position + 1) rest
    .ok (declaration :: others)
  | position, _ :: _ => .error (.source (.notItem origin position))

/-- The declarations of a module document. An empty document declares nothing. -/
def read (crate origin : String) (inherited : List Document) :
    Document → Except ModuleError (List Declaration)
  | .null => .ok []
  | .mapping entries => do
    let cfg := Document.valueAt entries "cfg"
    let inherited := inherited ++ if cfg.truthy then [.text cfg.asText] else []
    let items ← (Document.valueAt entries "items").membersIfAny.mapError .misuse
    readItems crate origin inherited 1 items
  | _ => .error (.source (.notModule origin))

end Module

end CrateHeader
