import CrateHeader.FileTree
import CrateHeader.Settings
import CrateHeader.Text.Casing

/-!
# Reading settings

Every key may be missing. Keys are read in a fixed order and the first one whose value is refused decides
the answer; texts and truth values are made of whatever is given.
-/

namespace CrateHeader

inductive SettingsError where
  | notMapping
  | unknownLanguage (language : String)
  | unknownStyle (style : String)
  | notSection (key : String)
  | notList (key : String)
  | notPositive (key : String) (value : Document)
  | unknownRule (key : String) (value : Document)
  | fileMissing (path : String)
  | invalidYaml (path : String)

namespace SettingsError

def code : SettingsError → String
  | notMapping | unknownStyle _ | notSection _ | notList _ | notPositive _ _ => "INVALID_VALUE"
  | unknownLanguage _ => "UNKNOWN_LANGUAGE"
  | unknownRule _ _ => "UNKNOWN_RENAME_RULE"
  | fileMissing _ => "PATH_NOT_FOUND"
  | invalidYaml _ => "INVALID_YAML"

def message : SettingsError → String
  | notMapping => "The configuration must be a mapping"
  | unknownLanguage language => "Unsupported language: " ++ language
  | unknownStyle style => "Unknown documentation_style: " ++ style
  | notSection key => "'" ++ key ++ "' must be a mapping"
  | notList key => "'" ++ key ++ "' must be a list"
  | notPositive key value => "'" ++ key ++ "' must be a positive integer, got " ++ value.shown
  | unknownRule key value => "Unknown rename rule for '" ++ key ++ "': " ++ value.asText
  | fileMissing path => "Config file does not exist: " ++ path
  | invalidYaml path => "Invalid YAML in " ++ path

def suggestion? : SettingsError → Option String
  | unknownLanguage _ => some "Use one of: c."
  | unknownStyle _ => some "Use one of: c99, doxy."
  | unknownRule _ _ => some ("Use one of: " ++ ", ".intercalate (RenameRule.all.map (·.spelling)) ++ ".")
  | fileMissing _ => some "Pass an existing YAML file with --config, or omit the flag for defaults."
  | _ => none

end SettingsError

inductive SettingsFailure where
  | refused (error : SettingsError)
  | misuse (misuse : Misuse)
  | fault (fault : PathFault)

namespace Settings

abbrev Entries := List (Document × Document)

def truthAt (entries : Entries) (key : String) (absent : Bool) : Bool :=
  ((Document.lookup? entries key).map Document.truthy).getD absent

/-- A section; an empty value of any kind is an empty section. -/
def sectionAt (entries : Entries) (key : String) : Except SettingsFailure Entries :=
  let value := Document.valueAt entries key
  if value.truthy then
    match value with
    | .mapping inner => .ok inner
    | _ => .error (.refused (.notSection key))
  else .ok []

def textsAt (entries : Entries) (key : String) (absent : List String) :
    Except SettingsFailure (List String) :=
  match Document.valueAt entries key with
  | .null => .ok absent
  | .list items => .ok (items.map Document.asText)
  | _ => .error (.refused (.notList key))

/-- A positive whole number; the key is given as messages name it. -/
def positive (value : Document) (key : String) : Except SettingsFailure Nat :=
  match value with
  | .int n => if n > 0 then .ok n.toNat else .error (.refused (.notPositive key value))
  | _ => .error (.refused (.notPositive key value))

def rule (value : Document) (key : String) : Except SettingsFailure RenameRule :=
  match RenameRule.ofName? value.asText with
  | some r => .ok r
  | none => .error (.refused (.unknownRule key value))

/-- Sets a key: in its place when it is there, at the end when it is not. -/
def put {α : Type} (pairs : List (String × α)) (key : String) (value : α) : List (String × α) :=
  if pairs.any (·.1 == key) then pairs.map fun p => if p.1 = key then (key, value) else p
  else pairs ++ [(key, value)]

/-- A mapping with its keys as texts; of two keys that become one text the later value counts. -/
def textKeyed {α : Type} (f : Document → α) (entries : Entries) : List (String × α) :=
  entries.foldl (fun pairs (k, v) => put pairs k.asText (f v)) []

def asTexts : Document → List String
  | .list items => items.map Document.asText
  | value => [value.asText]

def keyedAt {α : Type} (f : Document → α) (entries : Entries) (key : String) :
    Except SettingsFailure (List (String × α)) :=
  ((Document.valueAt entries key).entriesIfAny.map (textKeyed f)).mapError .misuse

def readCfg (entries : Entries) : Except SettingsFailure CfgSettings := do
  let flags ← keyedAt Document.truthy entries "flags"
  let features ← match Document.valueAt entries "features" with
    | .null => .ok none
    | features => (features.members.map fun fs => some (fs.map Document.asText)).mapError .misuse
  let values ← keyedAt asTexts entries "values"
  .ok ⟨flags, features, values⟩

def readSurface (entries : Entries) : Except SettingsFailure ExportSettings := do
  let written := Document.valueAt entries "prefix"
  let typePrefix := if written.truthy then written.asText else ""
  let included ← textsAt entries "include" []
  let excluded ← textsAt entries "exclude" []
  let renamed ← keyedAt Document.asText entries "rename"
  let opaqueMarks ← textsAt entries "opaque" []
  let external ← textsAt entries "external" []
  .ok ⟨typePrefix, included, excluded, renamed, opaqueMarks, external⟩

def ruleAt (entries : Entries) (inSection key : String) : Except SettingsFailure RenameRule :=
  rule ((Document.lookup? entries key).getD (.text "none")) (inSection ++ "." ++ key)

def readFunction (entries : Entries) : Except SettingsFailure FunctionSettings := do
  let renameArgs ← ruleAt entries "function" "rename_args"
  .ok ⟨renameArgs, Document.valueAt entries "no_return", Document.valueAt entries "deprecated",
    Document.valueAt entries "deprecated_with_note"⟩

def readLanguage (entries : Entries) : Except SettingsFailure String :=
  let language := Text.lower ((Document.lookup? entries "language").getD (.text "c")).asText
  if language = "c" then .ok language else .error (.refused (.unknownLanguage language))

def readStyle (entries : Entries) : Except SettingsFailure CommentStyle :=
  match ((Document.lookup? entries "documentation_style").getD (.text "c99")).asText with
  | "c99" => .ok .c99
  | "doxy" => .ok .doxy
  | style => .error (.refused (.unknownStyle style))

def read : Document → Except SettingsFailure Settings
  | .mapping entries => do
    let language ← readLanguage entries
    let commentStyle ← readStyle entries
    let sysIncludes ← textsAt entries "sys_includes" defaultSysIncludes
    let includes ← textsAt entries "includes" []
    let workers ← positive ((Document.lookup? entries "workers").getD (.int 4)) "workers"
    let cfg ← readCfg (← sectionAt entries "cfg")
    let surface ← readSurface (← sectionAt entries "export")
    let function ← readFunction (← sectionAt entries "function")
    let structures ← sectionAt entries "structure"
    let renameFields ← ruleAt structures "structure" "rename_fields"
    let enums ← sectionAt entries "enumeration"
    let renameVariants ← ruleAt enums "enumeration" "rename_variants"
    let special ← sectionAt entries "specialization"
    let maxDepth ← positive ((Document.lookup? special "max_depth").getD (.int 64))
      "specialization.max_depth"
    .ok {
      language
      header := Document.valueAt entries "header"
      trailer := Document.valueAt entries "trailer"
      autogenWarning := Document.valueAt entries "autogen_warning"
      includeGuard := Document.valueAt entries "include_guard"
      pragmaOnce := truthAt entries "pragma_once" false
      sysIncludes
      includes
      noIncludes := truthAt entries "no_includes" false
      cppCompat := truthAt entries "cpp_compat" true
      documentation := truthAt entries "documentation" true
      commentStyle
      workers
      cfg
      surface
      function
      renameFields
      enumeration := ⟨renameVariants, truthAt enums "prefix_with_name" false⟩
      specialization := ⟨maxDepth, truthAt special "remove_underscores" false⟩ }
  | _ => .error (.refused .notMapping)

/-- The settings in a file's content; an empty document of any kind leaves everything as it is. -/
def ofContent (path : String) (content : FileContent) : Except SettingsFailure Settings :=
  match content.document? with
  | none => .error (.refused (.invalidYaml (Path.normalized path)))
  | some d => read (if d.truthy then d else .mapping [])

/-- The settings in the file at a path, or those of every run when no path is given. -/
def load (t : FileTree) : Option String → Except SettingsFailure Settings
  | none => .ok default
  | some path => do
    match ← (t.find? (Path.normalized path)).mapError .fault with
    | none => .error (.refused (.fileMissing (Path.normalized path)))
    | some l =>
      let content ← (t.read l).mapError .fault
      ofContent path content

end Settings

end CrateHeader
