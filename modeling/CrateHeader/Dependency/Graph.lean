import CrateHeader.Dependency.Cycles
import CrateHeader.Library

/-!
# Dependencies between types

Every outer path of a type that names another type of the library is an edge. It is by value when the
definition of the target has to come first, and by pointer when the target is only mentioned behind a pointer
or in a function type and C can be told of it beforehand. Aliases and enums without payload cannot be
declared beforehand, so every edge to them is by value.
-/

namespace CrateHeader

structure Edge where
  source : String
  target : String
  byValue : Bool
  /-- The place among the edges of its source. -/
  position : Nat
  deriving DecidableEq, Repr

structure DependencyGraph where
  library : Library
  /-- The concrete types of the library in declaration order. -/
  nodes : List Entity
  edges : List Edge

namespace DependencyGraph

def edgesOf (lib : Library) (e : Entity) : List Edge :=
  (e.mentions.filterMap fun m =>
    match lib.get? m.name with
    | some target =>
      if target.isType then some (target.name, !m.behindPointer || !target.body.canForwardDeclare)
      else none
    | none => none).mapIdx fun position (target, byValue) => ⟨e.name, target, byValue, position⟩

def ofLibrary (lib : Library) : DependencyGraph :=
  let nodes := sortBy Entity.before (lib.types.filter fun e => !e.isGeneric)
  ⟨lib, nodes, nodes.flatMap (edgesOf lib)⟩

def names (g : DependencyGraph) : List String := g.nodes.map (·.name)

/-- The types that a type waits for when some have been forward-declared, each once. -/
def waitsFor (g : DependencyGraph) (forward : List String) (name : String) : List String :=
  distinct ((g.edges.filter fun e =>
    e.source == name && (e.byValue || !forward.contains e.target)).map (·.target))

def pointerTargets (g : DependencyGraph) (name : String) : List String :=
  (g.edges.filter fun e => e.source == name && !e.byValue).map (·.target)

/-- The graph of what waits for what. -/
def waiting (g : DependencyGraph) (forward : List String) : Graph := ⟨g.names, g.waitsFor forward⟩

/-- The graph of containment. -/
def containment (g : DependencyGraph) : Graph :=
  ⟨g.names, fun name => (g.edges.filter fun e => e.source == name && e.byValue).map (·.target)⟩

end DependencyGraph

end CrateHeader
