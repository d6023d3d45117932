import CrateHeader.Sorting
import CrateHeader.Unseen

/-!
# Cycles of a graph

A graph is a list of nodes with the successors of each; successors that are no nodes do not count. The
components of a graph are found by Tarjan's search in depth: nodes are numbered as they are found and wait on
a stack, and every node on the way keeps the least number of a waiting node that was met from it. A node that
is left with its own number takes its component from the stack. The cycles are the components that a step
stays in.
-/

namespace CrateHeader

structure Graph where
  nodes : List String
  successors : String → List String

namespace Graph

/-- The nodes, each at the place of its last occurrence. -/
def ordered (g : Graph) : List String := (distinct g.nodes.reverse).reverse

/-! ### The search -/

/-- A node on the way. -/
structure Visit where
  node : String
  number : Nat
  /-- The least number that was met from it. -/
  low : Nat
  /-- Its successors that are left to look at. -/
  left : List String
  deriving DecidableEq, Repr

/-- How far the search is. -/
structure Search where
  /-- The nodes that have a number. The next number is how many they are. -/
  found : List String
  /-- The nodes that have no component yet, with their numbers, the last one first. -/
  stack : List (String × Nat)
  components : List (List String)
  deriving DecidableEq, Repr

def visit (g : Graph) (s : Search) (node : String) : Visit :=
  ⟨node, s.found.length, s.found.length, g.successors node⟩

namespace Search

def push (s : Search) (node : String) : Search :=
  { s with found := node :: s.found, stack := (node, s.found.length) :: s.stack }

/-- The names on a stack down to a node, and what stands below. -/
def popTo (node : String) : List (String × Nat) → List String × List (String × Nat)
  | [] => ([], [])
  | (name, _) :: rest =>
    if name = node then ([name], rest)
    else
      let (names, below) := popTo node rest
      (name :: names, below)

/-- What stands on the stack down to a node becomes a component. -/
def close (s : Search) (node : String) : Search :=
  let (component, below) := popTo node s.stack
  { s with stack := below, components := s.components ++ [component] }

/-- What meeting a node leaves of the least number: only a node on the stack counts. -/
def meet (s : Search) (node : String) (low : Nat) : Nat :=
  match s.stack.lookup node with
  | some number => min low number
  | none => low

@[simp] theorem found_close (s : Search) (node : String) : (s.close node).found = s.found := rfl

end Search

/-- Hands the least number of a visit to the one around it. -/
def lower (low : Nat) : List Visit → List Visit
  | [] => []
  | v :: outer => { v with low := min v.low low } :: outer

/-- What the visits on a way have left to do. -/
def leftover : List Visit → Nat
  | [] => 0
  | v :: outer => leftover outer + v.left.length + 1

theorem leftover_lower (low : Nat) (way : List Visit) : leftover (lower low way) = leftover way := by
  cases way <;> rfl

/-- Ends the visits on the way, the innermost first. -/
def run (g : Graph) : List Visit → Search → Search
  | [], s => s
  | ⟨node, number, low, []⟩ :: outer, s =>
    have : leftover (lower low outer) < leftover (⟨node, number, low, []⟩ :: outer) := by
      rw [leftover_lower]
      simp [leftover]
    if low = number then run g (lower low outer) (s.close node)
    else run g (lower low outer) s
  | ⟨node, number, low, target :: left⟩ :: outer, s =>
    if h : target ∈ g.nodes ∧ ¬ s.found.contains target = true then
      have := unseen_cons_lt h.1 h.2
      run g (g.visit s target :: ⟨node, number, low, left⟩ :: outer) (s.push target)
    else
      run g (⟨node, number, s.meet target low, left⟩ :: outer) s
termination_by way s => (unseen g.nodes s.found, leftover way)
decreasing_by
  · exact Prod.Lex.right _ this
  · exact Prod.Lex.right _ this
  · exact Prod.Lex.left _ _ this
  · exact Prod.Lex.right _ (by simp [leftover])

/-- The search from a node, unless it has been found from another. -/
def searchFrom (g : Graph) (s : Search) (node : String) : Search :=
  if s.found.contains node then s else g.run [g.visit s node] (s.push node)

def components (g : Graph) : List (List String) :=
  (g.nodes.foldl g.searchFrom ⟨[], [], []⟩).components

/-! ### The cycles -/

/-- Has a component more than one member, or one that is its own successor? -/
def isCyclic (g : Graph) (component : List String) : Bool :=
  decide (1 < component.length) || component.head?.any fun node => (g.successors node).contains node

/-- The cycles in the order of their first members, the members in the order of the nodes. -/
def cycles (g : Graph) : List (List String) :=
  let place := g.ordered.idxOf
  sortOn (fun cycle => (cycle.head?.map place).getD 0)
    ((g.components.filter g.isCyclic).map (sortOn place))

end Graph

end CrateHeader
