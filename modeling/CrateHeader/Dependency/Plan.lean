import CrateHeader.Dependency.Graph
import CrateHeader.Log

/-!
# Forward declarations

Types that contain each other by value have no order. Any other cycle is broken: as long as there is one, the
first pointer edge inside a cycle, in declaration order of its source and then in order of occurrence,
gives the next type to declare beforehand. Pointers to it no longer constrain the order.
-/

namespace CrateHeader

inductive OrderError where
  /-- Types that contain each other by value. -/
  | containment (cycle : List String)
  /-- Types left over when no other can be placed. -/
  | noOrder (left : List String)
  deriving DecidableEq, Repr

namespace DependencyGraph

/-- The first pointer edge inside a cycle to a type that is not yet forward-declared. -/
def breakingEdge? (g : DependencyGraph) (forward : List String) : Option Edge :=
  let cycles := (g.waiting forward).cycles
  g.edges.find? fun e => !e.byValue && !forward.contains e.target &&
    cycles.any fun c => c.contains e.source && c.contains e.target

theorem breakingEdge?_mem {g : DependencyGraph} {forward : List String} {e : Edge}
    (h : g.breakingEdge? forward = some e) :
    e ∈ g.edges ∧ ¬ forward.contains e.target = true := by
  refine ⟨List.mem_of_find?_eq_some h, ?_⟩
  have := List.find?_some h
  simp only [Bool.and_eq_true, Bool.not_eq_true'] at this
  rw [this.1.2]; decide

/-- The edges that are chosen one after the other until no cycle is left. -/
def breakCycles (g : DependencyGraph) (forward : List String) : List Edge :=
  match h : g.breakingEdge? forward with
  | none => []
  | some e =>
    have : unseen (g.edges.map (·.target)) (e.target :: forward) <
        unseen (g.edges.map (·.target)) forward :=
      unseen_cons_lt (List.mem_map_of_mem (breakingEdge?_mem h).1) (breakingEdge?_mem h).2
    e :: g.breakCycles (e.target :: forward)
termination_by unseen (g.edges.map (·.target)) forward

def planLog (chosen : List Edge) : Log :=
  chosen.flatMap fun e => Log.debug
    ("Forward-declaring " ++ e.target ++ " to break the pointer cycle through " ++ e.source)

/-- The types that need a forward declaration. -/
def plan (g : DependencyGraph) : Logged OrderError (List String) :=
  match g.containment.cycles with
  | cycle :: _ => Logged.fail (.containment cycle)
  | [] =>
    let chosen := g.breakCycles []
    ⟨.ok (chosen.map (·.target)), planLog chosen⟩

end DependencyGraph

end CrateHeader
