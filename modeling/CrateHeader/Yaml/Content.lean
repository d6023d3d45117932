import CrateHeader.Document
import CrateHeader.Text.Casing
import CrateHeader.Text.Lines
import CrateHeader.Yaml.Node

/-!
# What nodes stand for

A plain scalar that is spelled like null, a truth value or a number stands for that, any other scalar for its
text; a tag may say otherwise. Numbers may have underscores among their digits, a base in front of them or
parts of sixty. Of two entries with the same key the later value counts, in the place of the first one. Two
scalars are no values: one, as a key, takes up the entries of other mappings, which count as the first ones.
-/

namespace CrateHeader.Yaml

/-! ### Numbers -/

def splitSign : List Char → Bool × List Char
  | '-' :: rest => (true, rest)
  | '+' :: rest => (false, rest)
  | s => (false, s)

def dropUnderscores (s : List Char) : List Char := s.filter (· != '_')

/-- The number that digits of a base write, underscores left out. -/
def digitsIn? (base : Nat) (s : List Char) : Option Nat :=
  (dropUnderscores s).foldlM (fun n c => match hexDigit? c with
    | some d => if d < base then some (base * n + d) else none
    | none => none) 0

/-- Digits with underscores among them. -/
def isDigits (s : List Char) : Bool :=
  s.head?.any Char.isDigit && s.all fun c => c.isDigit || c == '_'

/-- A number below sixty in at most two digits. -/
def isSixtieth : List Char → Bool
  | [d] => d.isDigit
  | [t, d] => '0' ≤ t && t ≤ '5' && d.isDigit
  | _ => false

/-- A number in parts of sixty, the first of which may be any. -/
def sixtieths? (s : List Char) : Option Nat :=
  match (Text.pieces ':' (String.ofList s)).map String.toList with
  | first :: parts =>
    if isDigits first && parts.all isSixtieth then do
      let first ← digitsIn? 10 first
      parts.foldlM (fun n part => (digitsIn? 10 part).map (60 * n + ·)) first
    else none
  | [] => none

def natural? : List Char → Option Nat
  | ['0'] => some 0
  | '0' :: 'b' :: digits => if dropUnderscores digits = [] then none else digitsIn? 2 digits
  | '0' :: 'x' :: digits => if dropUnderscores digits = [] then none else digitsIn? 16 digits
  | '0' :: digits => digitsIn? 8 digits
  | s => sixtieths? s

def integer? (s : List Char) : Option Int :=
  let (isNegative, body) := splitSign s
  (natural? body).map fun n => if isNegative then -n else n

/-- A power of ten with its letter and sign, or nothing. -/
def isPower : List Char → Bool
  | [] => true
  | c :: sign :: digits =>
    (c == 'e' || c == 'E') && (sign == '+' || sign == '-') && !digits.isEmpty && digits.all Char.isDigit
  | _ => false

/-- A decimal with a point. One without a digit in front of its point has no sign. -/
def decimal? (isSigned : Bool) (s : List Char) : Option Decimal :=
  let whole := s.takeWhile (· != '.')
  match s.dropWhile (· != '.') with
  | [] => none
  | _ :: rest =>
    let fraction := rest.takeWhile fun c => c.isDigit || c == '_'
    let power := rest.dropWhile fun c => c.isDigit || c == '_'
    if whole = [] then
      if !isSigned && isDigits fraction && isPower power then
        some (.read ((dropUnderscores s).map Char.toLower))
      else none
    else if whole.contains ':' then
      if power = [] then do
        let n ← sixtieths? whole
        let fraction := dropUnderscores fraction
        let m ← digitsIn? 10 fraction
        some ⟨n * Nat.pow 10 fraction.length + m, -fraction.length⟩
      else none
    else if isDigits whole && isPower power then some (.read ((dropUnderscores s).map Char.toLower))
    else none

def infinityWords : List String := [".inf", ".Inf", ".INF"]

def nanWords : List String := [".nan", ".NaN", ".NAN"]

/-- The decimal in which a number with a point is kept, or the word for a value that has none. -/
def float? (s : List Char) : Option String :=
  let (isNegative, body) := splitSign s
  let sign := if isNegative then "-" else ""
  if infinityWords.contains (String.ofList body) then some (sign ++ "inf")
  else if nanWords.contains (String.ofList s) then some "nan"
  else (decimal? (body.length < s.length) body).map fun d => sign ++ match d.nearest? with
    | some b => (Decimal.shortest b).text
    | none => "inf"

/-! ### Scalars -/

/-- What a scalar stands for. -/
inductive Content where
  | value (d : Document)
  /-- As a key, it takes up the entries of other mappings. -/
  | merge
  /-- Stands for its text where it is a key, and for nothing elsewhere. -/
  | equals

namespace Content

def words : List (Content × List String) :=
  [(value .null, ["", "~", "null", "Null", "NULL"]),
    (value (.bool true), ["yes", "Yes", "YES", "true", "True", "TRUE", "on", "On", "ON"]),
    (value (.bool false), ["no", "No", "NO", "false", "False", "FALSE", "off", "Off", "OFF"]),
    (merge, ["<<"]), (equals, ["="])]

def ofPlain (text : String) : Content :=
  match words.find? fun w => w.2.contains text with
  | some (content, _) => content
  | none => match integer? text.toList with
    | some n => value (.int n)
    | none => match float? text.toList with
      | some t => value (.float t)
      | none => value (.text text)

/-- What the tags of the kinds that everybody knows start with. -/
def commonStart : String := "tag:yaml.org,2002:"

/-- A scalar with a tag. -/
def ofTagged? (tag text : String) : Option Content :=
  if tag = "!" then some (ofPlain text)
  else if tag = commonStart ++ "str" then some (value (.text text))
  else if tag = commonStart ++ "null" then some (value .null)
  else if tag = commonStart ++ "bool" then
    match ofPlain (Text.lower text) with
    | value (.bool b) => some (value (.bool b))
    | _ => none
  else if tag = commonStart ++ "int" then (integer? text.toList).map fun n => value (.int n)
  else if tag = commonStart ++ "float" then
    (float? text.toList).or (float? (text ++ ".").toList) |>.map fun t => value (.float t)
  else none

def value? : Content → Option Document
  | value d => some d
  | _ => none

end Content

/-! ### Nodes -/

/-- A tag in full. -/
def Tag.full? (handles : TagHandles) (t : Tag) : Option String :=
  match t.handle with
  | none => some t.suffix
  | some handle => (handles.lookup handle).map (· ++ t.suffix)

/-- The values of nodes with an anchor. -/
abbrev Anchors := List (String × Document)

/-- Adds the value of a node, unless the anchor is taken. -/
def Properties.define (p : Properties) (d : Document) (anchors : Anchors) : Option Anchors :=
  match p.anchor with
  | none => some anchors
  | some name => if (anchors.lookup name).isSome then none else some ((name, d) :: anchors)

/-- Does a tag, if there is any, allow a collection of a kind? -/
def Properties.allow (p : Properties) (handles : TagHandles) (kind : String) : Bool :=
  match p.tag.map (Tag.full? handles) with
  | none => true
  | some none => false
  | some (some tag) => tag == "!" || tag == Content.commonStart ++ kind

abbrev Entries := List (Document × Document)

/-- The entries of a mapping, or of several in a list; of these the last one comes first. -/
def mergedEntries? : Document → Option Entries
  | .mapping entries => some entries
  | .list items => (items.reverse.mapM fun
    | Document.mapping entries => some entries
    | _ => none).map List.flatten
  | _ => none

/-- A document that may be a key. -/
def asKey? : Document → Option Document
  | .list _ | .mapping _ => none
  | d => some d

def putEntry (entries : Entries) (entry : Document × Document) : Entries :=
  if entries.any fun e => e.1.isSameKey entry.1 then
    entries.map fun e => if e.1.isSameKey entry.1 then (e.1, entry.2) else e
  else entries ++ [entry]

/-- An entry among the merged ones and the others. -/
def addEntry (key : Content) (value : Document) (merged own : Entries) : Option (Entries × Entries) :=
  match key with
  | .merge => (mergedEntries? value).map fun entries => (entries ++ merged, own)
  | .equals => some (merged, (.text "=", value) :: own)
  | .value d => (asKey? d).map fun key => (merged, (key, value) :: own)

namespace Node

mutual

/-- What a node stands for, with the anchors that are known behind it. -/
def content? (handles : TagHandles) (anchors : Anchors) : Node → Option (Content × Anchors)
  | .alias name => (anchors.lookup name).map fun d => (.value d, anchors)
  | .scalar p isPlain text => do
    let content ← match p.tag with
      | some t => do Content.ofTagged? (← t.full? handles) text
      | none => some (if isPlain then .ofPlain text else .value (.text text))
    let anchors ← p.define (content.value?.getD (.text text)) anchors
    some (content, anchors)
  | .sequence p items => do
    let (items, anchors) ← items? handles anchors items
    let anchors ← p.define (.list items) anchors
    if p.allow handles "seq" then some (.value (.list items), anchors) else none
  | .mapping p entries => do
    let (merged, own, anchors) ← entries? handles anchors entries
    let d := Document.mapping ((merged ++ own).foldl putEntry [])
    let anchors ← p.define d anchors
    if p.allow handles "map" then some (.value d, anchors) else none

def items? (handles : TagHandles) (anchors : Anchors) : List Node → Option (List Document × Anchors)
  | [] => some ([], anchors)
  | item :: rest => do
    let (content, anchors) ← content? handles anchors item
    let d ← content.value?
    let (items, anchors) ← items? handles anchors rest
    some (d :: items, anchors)

/-- The entries that a mapping takes up, and those of its own. -/
def entries? (handles : TagHandles) (anchors : Anchors) :
    List (Node × Node) → Option (Entries × Entries × Anchors)
  | [] => some ([], [], anchors)
  | (key, value) :: rest => do
    let (key, anchors) ← content? handles anchors key
    let (value, anchors) ← content? handles anchors value
    let value ← value.value?
    let (merged, own, anchors) ← entries? handles anchors rest
    let (merged, own) ← addEntry key value merged own
    some (merged, own, anchors)

end

end Node

/-- The document that some tokens write; none of them write null. -/
def document? (ts : List Token) : Option Document := do
  let (handles, node) ← readDocument ts
  let (content, _) ← node.content? handles []
  content.value?

end CrateHeader.Yaml
