import CrateHeader.Declaration.Module
import CrateHeader.FileTree

/-!
# Crate manifests

A crate is a directory with a manifest, a mapping that may name the crate, the crates it depends on and
a predicate for all its items. The places of the dependencies are relative to the directory.
-/

namespace CrateHeader

/-- Why a crate cannot be read. -/
inductive LoadError where
  | noManifest (directory : String)
  | invalidYaml (path : String)
  | notMapping (path : String)
  | cycle (directory : String)
  | module (error : ModuleError)
  | misuse (misuse : Misuse)
  | fault (fault : PathFault)

structure Manifest where
  directory : Location
  /-- The name as it is given, or else that of the directory. -/
  name : Document
  dependencies : List Location
  cfg : Document

namespace Manifest

def fileName : String := "crate.yaml"

def file (directory : Location) : Location := directory.child fileName

/-- Where a path leads from a directory, whether or not something is there. -/
def place (directory : Location) (path : String) : Except LoadError Location :=
  if Path.hasNul path then .error (.fault .nul) else .ok (directory.follow path)

/-- Where a dependency of a crate is. -/
def dependency (directory : Location) : Document → Except LoadError Location
  | .text path => place directory path
  | _ => .error (.misuse .notText)

def ofEntries (t : FileTree) (directory : Location) (entries : List (Document × Document)) :
    Except LoadError Manifest := do
  let given := Document.valueAt entries "name"
  let listed := (Document.lookup? entries "dependencies").getD (.list [])
  let dependencies ← listed.members.mapError .misuse
  let dependencies ← dependencies.mapM (dependency directory)
  .ok {
    directory
    name := if given.truthy then given else .text (t.nameOf directory)
    dependencies
    cfg := Document.valueAt entries "cfg" }

/-- The manifest in a file's content; an empty document of any kind is an empty manifest. -/
def ofContent (t : FileTree) (directory : Location) (content : FileContent) :
    Except LoadError Manifest :=
  match content.document? with
  | none => .error (.invalidYaml (t.shown (file directory)))
  | some (.mapping entries) => ofEntries t directory entries
  | some d =>
    if d.truthy then .error (.notMapping (t.shown (file directory))) else ofEntries t directory []

/-- Why a directory has no manifest that can be read. -/
def absent (t : FileTree) (directory : Location) : LoadError :=
  match t.look (file directory) with
  | .ok _ => .fault .isDirectory
  | .error .tooLong => .fault .tooLong
  | .error _ => .noManifest (t.shown directory)

/-- The manifest of the crate in a directory. -/
def load (t : FileTree) (directory : Location) : Except LoadError Manifest :=
  match t.content? (file directory) with
  | none => .error (absent t directory)
  | some content => ofContent t directory content

theorem directory_of_ofEntries {t : FileTree} {directory : Location} {m : Manifest}
    {entries : List (Document × Document)} (h : ofEntries t directory entries = .ok m) :
    m.directory = directory := by
  simp only [ofEntries, bind, Except.bind] at h
  split at h
  · cases h
  · split at h
    · cases h
    · cases h; rfl

theorem directory_of_ofContent {t : FileTree} {directory : Location} {content : FileContent}
    {m : Manifest} (h : ofContent t directory content = .ok m) : m.directory = directory := by
  unfold ofContent at h
  split at h
  · cases h
  · exact directory_of_ofEntries h
  · split at h
    · cases h
    · exact directory_of_ofEntries h

/-- What is loaded is the manifest of the directory, which has a file of the tree in it. -/
theorem load_eq_ok {t : FileTree} {directory : Location} {m : Manifest}
    (h : load t directory = .ok m) :
    m.directory = directory ∧ directory ∈ t.files.map fun file => file.1.parent := by
  unfold load at h
  split at h
  · cases h
  · next hc =>
    exact ⟨directory_of_ofContent h,
      List.mem_map.2 ⟨_, FileTree.mem_of_content? hc, Location.parent_child ..⟩⟩

/-- The predicate that all items of the crate inherit. -/
def inherited (m : Manifest) : List Document := if m.cfg.truthy then [m.cfg] else []

/-- A crate's name, which has to be a text in the end. -/
def nameText (m : Manifest) : Except LoadError String :=
  match m.name with
  | .text name => .ok name
  | _ => .error (.misuse .notText)

end Manifest

end CrateHeader
