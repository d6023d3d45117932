import CrateHeader.Crate.Order
import CrateHeader.Log
import CrateHeader.Sorting

/-!
# Crates

A crate is loaded with all the crates that it depends on, each once, the dependencies first. Its modules are
the documents below its source directory, in the order of their paths. Dependencies that lead back to
a crate on the way to them are refused.
-/

namespace CrateHeader.Crate

/-- The manifests that are kept in a file tree. -/
def registry (t : FileTree) : Registry where
  find := Manifest.load t
  places := t.files.map fun file => file.1.parent
  mem_places _ _ h := (Manifest.load_eq_ok h).2
  directory_of_find _ _ h := (Manifest.load_eq_ok h).1

/-- Why crates of a tree have no order. -/
def orderError (t : FileTree) : RegistryError → LoadError
  | .cycle place => .cycle (t.shown place)
  | .manifest e => e

def sourceDirectory (directory : Location) : Location := directory.child "src"

def isModuleName (name : String) : Bool := ".yaml".toList.isSuffixOf name.toList

/-- A location with all directories that it is in. -/
def pathTo (l : Location) : List Location :=
  (List.range (l.parts.length + 1)).map fun n => { l with parts := l.parts.take n }

/-- What is named like a module below the source directory of a crate, in order. -/
def modules (t : FileTree) (directory : Location) : List Location :=
  let below := t.locations.flatMap fun inner => (pathTo inner).filter fun l =>
    l.isBelow (sourceDirectory directory) && isModuleName (t.nameOf l)
  sortBy Location.before (distinct below)

/-- The declarations of one module. -/
def readModule (t : FileTree) (name : String) (inherited : List Document) (l : Location) :
    Except LoadError (List Declaration) := do
  let content ← (t.read l).mapError .fault
  match content.document? with
  | none => .error (.invalidYaml (t.shown l))
  | some d => (Module.read name (t.shown l) inherited d).mapError .module

/-- The declarations of one crate. -/
def declarations (t : FileTree) (m : Manifest) : Except LoadError (List Declaration) := do
  let name ← m.nameText
  let parts ← (modules t m.directory).mapM (readModule t name m.inherited)
  .ok parts.flatten

/-- The declarations of the crate at a path and of all crates that it depends on. -/
def load (t : FileTree) (path : String) : Logged LoadError (List Declaration) := do
  let root ← Logged.ofExcept (Manifest.place .top path)
  let manifests ← Logged.ofExcept (((registry t).inOrder root).mapError (orderError t))
  let names ← Logged.ofExcept (manifests.mapM Manifest.nameText)
  Logged.note (Log.debug
    ("Loading " ++ toString manifests.length ++ " crate(s): " ++ ", ".intercalate names))
  let parts ← Logged.ofExcept (manifests.mapM (declarations t))
  pure parts.flatten

end CrateHeader.Crate
