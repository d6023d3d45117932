import CrateHeader.Document.Reader
import CrateHeader.Text.Lines

/-!
# File trees

The files and directories that a run can see: those below one directory, the top. Nothing is known of what
lies outside, but for the root of all paths. A path is followed part by part; `..` goes back a part, and no
part is a link to another place. What is written appears in the tree together with the directories that it
needs, and these stay when the file itself cannot be written.
-/

namespace CrateHeader

namespace Path

/-- What a path starts with: a path with two slashes in front keeps both, one with more keeps one. -/
def start (path : String) : String :=
  match path.toList with
  | '/' :: '/' :: '/' :: _ => "/"
  | '/' :: '/' :: _ => "//"
  | '/' :: _ => "/"
  | _ => ""

/-- Does a path start at the root? -/
def isAbsolute (path : String) : Bool := start path != ""

/-- The parts of a path that lead somewhere. -/
def parts (path : String) : List String :=
  (Text.pieces '/' path).filter fun part => part != "" && part != "."

def ofParts (start : String) (parts : List String) : String :=
  if start = "" ∧ parts = [] then "." else start ++ "/".intercalate parts

/-- A path without the parts that lead nowhere. -/
def normalized (path : String) : String := ofParts (start path) (parts path)

/-- The path of the directory that a path's last part is in. -/
def directory (path : String) : String := ofParts (start path) (parts path).dropLast

def lastPart (path : String) : String := (parts path).getLast?.getD ""

/-- The bytes that one part of a path may have. -/
def partLimit : Nat := 255

/-- The bytes that a whole path may have. -/
def limit : Nat := 4095

/-- No file has a name with this character. -/
def hasNul (path : String) : Bool := path.toList.contains '\x00'

end Path

/-- A place for a file or a directory. -/
structure Location where
  /-- Do the parts start at the top, or at the root of all paths? -/
  isInside : Bool
  parts : List String
  deriving DecidableEq, Repr

namespace Location

def top : Location := ⟨true, []⟩

def root : Location := ⟨false, []⟩

def child (l : Location) (name : String) : Location := { l with parts := l.parts ++ [name] }

/-- The directory that a location is in. -/
def parent (l : Location) : Location := { l with parts := l.parts.dropLast }

@[simp] theorem parent_child (l : Location) (name : String) : (l.child name).parent = l := by
  simp [parent, child]

/-- One part of a path further. -/
def step (l : Location) (part : String) : Location :=
  if part = "" ∨ part = "." then l
  else if part = ".." then if l.parts = [] then root else l.parent
  else l.child part

/-- Where the first part of a path is looked for. -/
def origin (l : Location) (path : String) : Location := if Path.isAbsolute path then root else l

/-- Where a path leads from a directory. -/
def follow (l : Location) (path : String) : Location :=
  (Text.pieces '/' path).foldl step (l.origin path)

/-- Is a location properly below a directory? -/
def isBelow (l directory : Location) : Bool :=
  l.isInside == directory.isInside && directory.parts.isPrefixOf l.parts &&
    directory.parts.length < l.parts.length

/-- Locations by their parts, one after the other. -/
def partsBefore : List String → List String → Bool
  | [], _ => true
  | _ :: _, [] => false
  | a :: as, b :: bs => decide (a < b) || (a == b && partsBefore as bs)

def before (a b : Location) : Bool := partsBefore a.parts b.parts

end Location

/-- What is in the way of a file operation. -/
inductive PathFault where
  /-- Nothing is there. -/
  | missing
  /-- A directory in the place of a file. -/
  | isDirectory
  /-- A file in the place of the directory to write to. -/
  | occupied
  /-- A file in the place of a directory further up. -/
  | notDirectory
  /-- A path, or a part of it, with more bytes than it may have. -/
  | tooLong
  /-- A path with a character that no path has. -/
  | nul
  /-- A directory that is known by another name, to be replaced. -/
  | inUse
  deriving DecidableEq, Repr

inductive FileContent where
  | document (d : Document)
  | text (s : String)

namespace FileContent

/-- The document that a file writes. -/
def document? : FileContent → Option Document
  | document d => some d
  | text s => Document.read? s

/-- A file of text as it is read, with plain line ends. -/
def text? : FileContent → Option String
  | document _ => none
  | text s => some (String.ofList (Text.plainLineEnds s.toList))

end FileContent

structure FileTree where
  /-- How the top is named in messages. -/
  name : String
  files : List (Location × FileContent)
  /-- Directories that are there even when no file is below them. -/
  directories : List Location

namespace FileTree

/-- The path of a location as messages show it. -/
def shown (t : FileTree) (l : Location) : String :=
  if l.isInside then t.name ++ String.join (l.parts.map ("/" ++ ·))
  else "/" ++ "/".intercalate l.parts

/-- The last part of a location's path. -/
def nameOf (t : FileTree) (l : Location) : String :=
  l.parts.getLast?.getD (if l.isInside then t.name else "")

def content? (t : FileTree) (l : Location) : Option FileContent :=
  (t.files.find? fun file => file.1 == l).map Prod.snd

theorem mem_of_content? {t : FileTree} {l : Location} {c : FileContent} (h : t.content? l = some c) :
    (l, c) ∈ t.files := by
  obtain ⟨⟨l', c'⟩, hfind, rfl⟩ := Option.map_eq_some_iff.1 h
  have hl : l' = l := by simpa using List.find?_some hfind
  exact hl ▸ List.mem_of_find?_eq_some hfind

def isFile (t : FileTree) (l : Location) : Bool := (t.content? l).isSome

/-- Everything that the tree holds, at its location. -/
def locations (t : FileTree) : List Location := t.files.map Prod.fst ++ t.directories

def isDirectory (t : FileTree) (l : Location) : Bool :=
  l.parts.isEmpty || t.directories.contains l || t.locations.any fun inner => inner.isBelow l

def isThere (t : FileTree) (l : Location) : Bool := t.isFile l || t.isDirectory l

/-! ### Looking -/

/-- Where the parts of a path lead, if everything on the way is a directory and something is there. -/
def walk (t : FileTree) (l : Location) : List String → Except PathFault Location
  | [] => if t.isThere l then .ok l else .error .missing
  | part :: rest =>
    if !t.isThere l then .error .missing
    else if !t.isDirectory l then .error .notDirectory
    else if Path.partLimit < part.utf8ByteSize then .error .tooLong
    else t.walk (l.step part) rest

/-- What a path names. -/
def find (t : FileTree) (path : String) : Except PathFault Location :=
  if Path.hasNul path then .error .nul
  else if path = "" then .error .missing
  else if Path.limit < path.utf8ByteSize then .error .tooLong
  else t.walk (Location.top.origin path) (Text.pieces '/' path)

/-- What a path names, if anything: only with a path that is too long there is no telling. -/
def find? (t : FileTree) (path : String) : Except PathFault (Option Location) :=
  match t.find path with
  | .ok l => .ok (some l)
  | .error .tooLong => .error .tooLong
  | .error _ => .ok none

/-- As `find`, for the path of a location. -/
def look (t : FileTree) (l : Location) : Except PathFault Location :=
  if Path.limit < (t.shown l).utf8ByteSize then .error .tooLong
  else t.walk { l with parts := [] } l.parts

/-- The content of the file at a place that is known to be there. -/
def read (t : FileTree) (l : Location) : Except PathFault FileContent :=
  match t.content? l with
  | some content => .ok content
  | none => .error .isDirectory

/-- Does the file that a path names hold exactly a text? -/
def holds (t : FileTree) (path s : String) : Except PathFault Bool := do
  match ← t.find? (Path.normalized path) with
  | none => .ok false
  | some l => (t.read l).map fun content => content.text? == some s

/-! ### Writing -/

/-- Puts a file in its place, over the one that is there. -/
def put (t : FileTree) (l : Location) (content : FileContent) : FileTree :=
  { t with files :=
      if t.isFile l then t.files.map fun file => if file.1 = l then (l, content) else file
      else t.files ++ [(l, content)] }

/-- Makes the directories that the parts of a path name, those further up first. The tree has all that were
made before one could not be. -/
def makeDirectories (t : FileTree) (l : Location) : List String → Except PathFault Location × FileTree
  | [] => (.ok l, t)
  | part :: rest =>
    let next := l.step part
    if Path.partLimit < part.utf8ByteSize then (.error .tooLong, t)
    else if t.isFile next then (.error (if rest = [] then .occupied else .notDirectory), t)
    else
      let made := if t.isDirectory next then t else { t with directories := t.directories ++ [next] }
      made.makeDirectories next rest

/-- How much longer the name of a file is while it is being written. -/
def draftLength : Nat := 14

/-- What forbids a file of some name in a directory that is there. A file is written under a longer name
first, and then it takes the place of the one with its own. -/
def fault? (t : FileTree) (directory : Location) (path : String) : Option PathFault :=
  let name := Path.lastPart path
  let draft := name.utf8ByteSize + draftLength
  if Path.hasNul name then some .nul
  else if Path.partLimit < draft ∨ Path.limit < (Path.directory path).utf8ByteSize + 1 + draft then
    some .tooLong
  else if name = ".." then some .inUse
  else if t.isDirectory (directory.step name) then some .isDirectory
  else none

/-- Writes the file at a path, with the directories that it needs. -/
def write (t : FileTree) (path s : String) : Except PathFault Unit × FileTree :=
  if Path.hasNul (Path.directory path) then (.error .nul, t)
  else if Path.limit < (Path.directory path).utf8ByteSize then (.error .tooLong, t)
  else match t.makeDirectories (Location.top.origin path) (Path.parts path).dropLast with
    | (.error fault, made) => (.error fault, made)
    | (.ok directory, made) => match made.fault? directory path with
      | some fault => (.error fault, made)
      | none => (.ok (), made.put (directory.step (Path.lastPart path)) (.text s))

/-- The texts of a tree that another one does not hold. -/
def newTexts (t before : FileTree) : List (Location × String) :=
  t.files.filterMap fun (l, content) =>
    match content.text? with
    | some s => if (before.content? l).bind FileContent.text? = some s then none else some (l, s)
    | none => none

end FileTree

end CrateHeader
