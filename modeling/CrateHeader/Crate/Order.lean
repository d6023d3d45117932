import CrateHeader.Crate.Manifest
import CrateHeader.Unseen

/-!
# The order of crates

Starting from some places, every crate that is depended on is taken once and after all its dependencies. A
crate that depends on itself, directly or by others, has no place in such an order. What a crate depends on
is known from its manifest alone, so the order is about a registry of manifests, wherever they are kept.
-/

namespace CrateHeader

/-- Manifests by their directories, of which there are finitely many. -/
structure Registry where
  find : Location → Except LoadError Manifest
  places : List Location
  mem_places : ∀ place m, find place = .ok m → place ∈ places
  directory_of_find : ∀ place m, find place = .ok m → m.directory = place

inductive RegistryError where
  /-- A place that is on the way to itself. -/
  | cycle (place : Location)
  | manifest (error : LoadError)

namespace Registry

/-- Adds the manifests at some places behind those found, each after its dependencies. The places on the
way to them are visited. -/
def collect (r : Registry) (visited : List Location) (found : List Manifest) :
    List Location → Except RegistryError (List Manifest)
  | [] => .ok found
  | place :: rest =>
    if found.any fun m => m.directory == place then r.collect visited found rest
    else if hv : visited.contains place then .error (.cycle place)
    else
      match h : r.find place with
      | .error e => .error (.manifest e)
      | .ok m =>
        have : unseen r.places (place :: visited) < unseen r.places visited :=
          unseen_cons_lt (r.mem_places place m h) hv
        match r.collect (place :: visited) found m.dependencies with
        | .error e => .error e
        | .ok before => r.collect visited (before ++ [m]) rest
termination_by places => (unseen r.places visited, places.length)

/-- The crate at a place and all it depends on, the dependencies first. -/
def inOrder (r : Registry) (place : Location) : Except RegistryError (List Manifest) :=
  r.collect [] [] [place]

end Registry

end CrateHeader
