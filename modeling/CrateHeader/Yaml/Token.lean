import CrateHeader.Yaml.Scalar.Block
import CrateHeader.Yaml.Scalar.Plain
import CrateHeader.Yaml.Scalar.Quoted

/-!
# Tokens

The words of the notation: scalars, the signs of flow collections and of the parts of block collections, and
what may stand in front of a node or a document. Names and tags are read here, with the directives that
explain them.
-/

namespace CrateHeader.Yaml

/-- A kind of node, by a name that may be short for a longer one. -/
structure Tag where
  handle : Option String
  suffix : String
  deriving DecidableEq, Repr

inductive Directive where
  /-- The version of the notation, by its first number. -/
  | version (major : Nat)
  /-- What the tags with a handle start with. -/
  | tagStart (handle start : String)
  | other
  deriving DecidableEq, Repr

inductive Token where
  | directive (d : Directive)
  | documentStart
  | documentEnd
  | blockSequenceStart
  | blockMappingStart
  | blockEnd
  | flowSequenceStart
  | flowSequenceEnd
  | flowMappingStart
  | flowMappingEnd
  | blockEntry
  | flowEntry
  | key
  | value
  | alias (name : String)
  | anchor (name : String)
  | tag (t : Tag)
  | scalar (isPlain : Bool) (text : String)
  deriving DecidableEq, Repr

/-- A list that is left of another one, in the place of one that is left of the first. -/
def Reading.after {α β : Type} {s t : List β} (h : t.length ≤ s.length) (r : Reading α t) : Reading α s :=
  r.map fun (a, ⟨rest, hr⟩) => (a, ⟨rest, by omega⟩)

/-! ### Names -/

/-- The name behind the sign of an anchor or an alias. -/
def readName (s : List Char) : Reading String s :=
  match h : s.takeWhile isNameChar, s.dropWhile isNameChar with
  | [], _ => none
  | c :: name, rest =>
    if endsWord rest || rest.head?.any "?:,]\x7d%@\x60".toList.contains then
      some (String.ofList (c :: name), ⟨s.dropWhile isNameChar, by
        have := congrArg List.length (List.takeWhile_append_dropWhile (p := isNameChar) (l := s))
        rw [h, List.length_append, List.length_cons] at this
        omega⟩)
    else none

/-! ### Tags -/

def isUriChar (c : Char) : Bool := c.isAlphanum || "-;/?:@&=+$,_.!~*'()[]".toList.contains c

/-- Bytes that are written as two digits behind a percent sign. -/
def percentBytes : List Char → Option (List UInt8 × List Char)
  | '%' :: c :: d :: rest => do
    let n ← hexValue? [c, d]
    let (bytes, left) ← percentBytes rest
    some (n.toUInt8 :: bytes, left)
  | '%' :: _ => none
  | s => some ([], s)

/-- The characters of a tag, some of which may be written as bytes. -/
def readUri (s : List Char) : Option (List Char × List Char) :=
  match s with
  | [] => some ([], [])
  | c :: rest =>
    if c = '%' then do
      let (bytes, left) ← percentBytes s
      let written ← String.fromUTF8? ⟨bytes.toArray⟩
      if left.length < rest.length + 1 then
        let (more, left) ← readUri left
        some (written.toList ++ more, left)
      else none
    else if isUriChar c then do
      let (more, left) ← readUri rest
      some (c :: more, left)
    else some ([], c :: rest)
termination_by s.length

/-- As `readUri`, with at least one character. -/
def readSuffix (s : List Char) : Option (String × List Char) := do
  let (chars, left) ← readUri s
  if chars = [] then none else some (String.ofList chars, left)

/-- The handle of a tag with a name between two exclamation marks, or of a single one. -/
def readHandle (s : List Char) : Option (String × List Char) :=
  match s with
  | '!' :: rest =>
    if rest.head? = some ' ' then some ("!", rest)
    else match rest.dropWhile isNameChar with
      | '!' :: left => some (String.ofList ('!' :: (rest.takeWhile isNameChar ++ ['!'])), left)
      | _ => none
  | _ => none

/-- A tag from its exclamation mark on. -/
def readTag (s : List Char) : Option (Tag × List Char) := do
  let (tag, left) ← match s with
    | '!' :: '<' :: rest => do
      let (suffix, left) ← readSuffix rest
      if left.head? = some '>' then some (⟨none, suffix⟩, left.tail) else none
    | '!' :: rest =>
      if endsWord rest then some (⟨none, "!"⟩, rest)
      else do
        let word := rest.takeWhile fun c => c != ' ' && !isBreak c
        let (handle, left) ← if word.contains '!' then readHandle s else some ("!", rest)
        let (suffix, left) ← readSuffix left
        some (⟨some handle, suffix⟩, left)
    | _ => none
  if endsItem left then some (tag, left) else none

/-! ### Directives -/

/-- A version: two numbers with a point between them, of which the first one counts. -/
def readVersion (s : List Char) : Option (Directive × List Char) :=
  let s := s.dropWhile (· == ' ')
  match s.takeWhile Char.isDigit, s.dropWhile Char.isDigit with
  | [], _ => none
  | major, '.' :: rest =>
    if rest.head?.any Char.isDigit then
      some (.version (major.foldl (fun n c => 10 * n + (c.toNat - '0'.toNat)) 0), rest.dropWhile Char.isDigit)
    else none
  | _, _ => none

def readTagStart (s : List Char) : Option (Directive × List Char) := do
  let (handle, left) ← readHandle (s.dropWhile (· == ' '))
  if left.head? ≠ some ' ' then none
  else
    let (start, left) ← readSuffix (left.dropWhile (· == ' '))
    some (.tagStart handle start, left)

/-- A directive behind its percent sign, up to the end of its line. -/
def readDirective (s : List Char) : Option (Directive × List Char) := do
  let name := s.takeWhile isNameChar
  let rest := s.dropWhile isNameChar
  if name = [] ∨ ¬ endsItem rest then none
  else
    let (d, left) ← match String.ofList name with
      | "YAML" => readVersion rest
      | "TAG" => readTagStart rest
      | _ => some (.other, rest.dropWhile fun c => !isBreak c)
    if endsItem left then (endOfLine? left).map fun left => (d, left) else none

end CrateHeader.Yaml
