import CrateHeader.Library.Builder
import CrateHeader.Library.Naming
import CrateHeader.Library.Pruning
import CrateHeader.Library.Specialization

/-!
# Sessions

What can be done to a library by hand, one operation after the other: declarations are added, instances are
asked for, and each stage may run at any time and more than once. An operation that fails leaves behind what
it had done before it failed.
-/

namespace CrateHeader

inductive Operation where
  | add (declaration : Declaration)
  | prune (env : Environment) (marks : List String)
  | instantiate (template : Entity) (args : List Ty) (depth : Int)
  | specialize (included excluded : List String)
  | assignNames (settings : Settings)
  | remove (name : String)

structure Session where
  builder : Builder
  nextSeq : Nat
  deriving DecidableEq, Repr

namespace Session

def start (external : List String) : Session := ⟨Builder.empty external, 1⟩

def library (s : Session) : Library := s.builder.library

def withLibrary (s : Session) (library : Library) : Session :=
  { s with builder := { s.builder with library } }

def workshop (s : Session) : Workshop := ⟨s.library, s.nextSeq, []⟩

def withWorkshop (s : Session) (w : Workshop) : Session :=
  { s.withLibrary w.library with nextSeq := w.nextSeq }

@[simp] theorem library_withLibrary (s : Session) (lib : Library) : (s.withLibrary lib).library = lib := rfl

@[simp] theorem library_withWorkshop (s : Session) (w : Workshop) : (s.withWorkshop w).library = w.library := rfl

/-- The session to go on with after an operation, one that fails too. -/
def step (ceiling : Ceiling) (s : Session) : Operation → Session
  | .add declaration => { s with builder := (s.builder.add declaration).1 }
  | .prune env marks => s.withLibrary (s.library.prune env marks).library
  | .instantiate template args depth =>
    match s.workshop.instantiate ceiling template args depth with
    | .error _ => s
    | .ok (_, w) => s.withWorkshop w
  | .specialize included excluded => s.withWorkshop (s.workshop.specialize ceiling included excluded).1
  | .assignNames settings => s.withLibrary (s.library.assignNames settings)
  | .remove name =>
    match s.library.remove? name with
    | none => s
    | some (_, lib) => s.withLibrary lib

def run (ceiling : Ceiling) (s : Session) (ops : List Operation) : Session := ops.foldl (step ceiling) s

end Session

end CrateHeader
