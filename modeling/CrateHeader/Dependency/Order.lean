import CrateHeader.Dependency.Plan

/-!
# Declaration order

Types come first, each as soon as everything it waits for has been placed, and of those that are ready the
one declared earliest. A forward declaration stands right in front of the first definition that needs it.
Constants follow, then statics and functions, all in declaration order.
-/

namespace CrateHeader

inductive EventKind where
  | forwardDeclare
  | defineType
  | declareConstant
  | declareStatic
  | declareFunction
  deriving DecidableEq, Repr

namespace EventKind

def name : EventKind → String
  | forwardDeclare => "forward_declare"
  | defineType => "define_type"
  | declareConstant => "declare_constant"
  | declareStatic => "declare_static"
  | declareFunction => "declare_function"

def all : List EventKind :=
  [forwardDeclare, defineType, declareConstant, declareStatic, declareFunction]

end EventKind

/-- One thing that a header says about an entity. -/
structure Event where
  kind : EventKind
  entity : Entity
  deriving DecidableEq, Repr

def Event.text (e : Event) : String := e.kind.name ++ "(" ++ e.entity.exportName ++ ")"

namespace DependencyGraph

/-- Forward declarations of the names that are planned and not yet declared, in order. -/
def forwardEvents (g : DependencyGraph) (forward declared : List String) (names : List String) :
    List Event :=
  (distinctFrom declared (names.filter forward.contains)).filterMap fun name =>
    (g.library.get? name).map fun e => ⟨.forwardDeclare, e⟩

/-- What placing a type says: an opaque type is only declared, and once. -/
def eventsOf (g : DependencyGraph) (forward declared : List String) (e : Entity) : List Event :=
  if e.kind = .opaqueType then
    if declared.contains e.name then [] else [⟨.forwardDeclare, e⟩]
  else g.forwardEvents forward declared (e.name :: g.pointerTargets e.name) ++ [⟨.defineType, e⟩]

def declaredBy (events : List Event) : List String :=
  events.filterMap fun e => if e.kind = .forwardDeclare then some e.entity.name else none

end DependencyGraph

/-- A type that waits for others, with how many of them are still missing. -/
structure Waiter where
  entity : Entity
  targets : List String
  missing : Nat
  deriving DecidableEq, Repr

/-- A type of some name has been placed, so it is missing no longer. -/
def Waiter.see (name : String) (w : Waiter) : Waiter :=
  if w.targets.contains name then { w with missing := w.missing - 1 } else w

/-- The types that are not placed yet: those that nothing is missing for, earliest first, and the others. -/
structure Agenda where
  ready : List Entity
  waiting : List Waiter
  deriving DecidableEq, Repr

namespace Agenda

/-- Types that nothing is missing for take their places among those that are ready. -/
def release (ready : List Entity) (waiters : List Waiter) : Agenda where
  ready := ((waiters.filter fun w => w.missing = 0).map (·.entity)).foldl
    (fun ready e => insertBy Entity.before e ready) ready
  waiting := waiters.filter fun w => w.missing ≠ 0

/-- A type of some name has been placed, and what missed only that joins the rest of those that are ready. -/
def next (name : String) (rest : List Entity) (waiting : List Waiter) : Agenda :=
  release rest (waiting.map (Waiter.see name))

def size (a : Agenda) : Nat := a.ready.length + a.waiting.length

theorem length_foldl_insertBy (es ready : List Entity) :
    (es.foldl (fun ready e => insertBy Entity.before e ready) ready).length = ready.length + es.length := by
  induction es generalizing ready with
  | nil => rfl
  | cons e rest ih =>
    rw [List.foldl_cons, ih, (insertBy_perm Entity.before e ready).length_eq, List.length_cons, List.length_cons]
    omega

theorem size_release (ready : List Entity) (waiters : List Waiter) :
    (release ready waiters).size = ready.length + waiters.length := by
  have hsplit : waiters.length = (waiters.filter fun w => w.missing = 0).length +
      (waiters.filter fun w => w.missing ≠ 0).length := by
    simpa [List.countP_eq_length_filter] using
      List.length_eq_countP_add_countP (l := waiters) fun w => decide (w.missing = 0)
  have hready : (release ready waiters).ready.length =
      ready.length + (waiters.filter fun w => w.missing = 0).length := by
    rw [release, length_foldl_insertBy, List.length_map]
  have hwaiting : (release ready waiters).waiting = waiters.filter fun w => w.missing ≠ 0 := rfl
  rw [size, hready, hwaiting]
  omega

theorem size_next (name : String) (rest : List Entity) (waiting : List Waiter) :
    (next name rest waiting).size = rest.length + waiting.length := by
  rw [next, size_release, List.length_map]

end Agenda

namespace DependencyGraph

/-- All types with what they wait for, of which nothing is placed. -/
def waiters (g : DependencyGraph) (forward : List String) : List Waiter :=
  g.nodes.map fun e =>
    let targets := g.waitsFor forward e.name
    ⟨e, targets, targets.length⟩

/-- Places the earliest type that is ready, and so on, or says which types are never ready. -/
def place (g : DependencyGraph) (forward declared : List String) (a : Agenda) : Except OrderError (List Event) :=
  match h : a.ready with
  | [] =>
    if a.waiting.isEmpty then .ok []
    else .error (.noOrder (sortTexts (a.waiting.map (·.entity.name))))
  | e :: rest =>
    have : (Agenda.next e.name rest a.waiting).size < a.size := by
      rw [Agenda.size_next, Agenda.size, h, List.length_cons]
      omega
    let events := g.eventsOf forward declared e
    (g.place forward (declaredBy events ++ declared) (Agenda.next e.name rest a.waiting)).map (events ++ ·)
termination_by a.size

/-- The types in order, given those to forward-declare. -/
def orderTypes (g : DependencyGraph) (forward : List String) : Except OrderError (List Event) :=
  g.place forward [] (Agenda.release [] (g.waiters forward))

end DependencyGraph

namespace Library

def constantEvents (lib : Library) : List Event :=
  (sortBy Entity.before (lib.ofKind .constant)).map fun e => ⟨.declareConstant, e⟩

def valueEvents (lib : Library) : List Event :=
  (sortBy Entity.before (lib.ofKind .static ++ lib.ofKind .function)).map fun e =>
    ⟨if e.kind = .static then .declareStatic else .declareFunction, e⟩

/-- Everything that a header says about a library, in order. -/
def order (lib : Library) : Logged OrderError (List Event) := do
  let g := DependencyGraph.ofLibrary lib
  let forward ← g.plan
  let types ← Logged.ofExcept (g.orderTypes forward)
  let events := types ++ lib.constantEvents ++ lib.valueEvents
  Logged.note (Log.info ("Ordered " ++ toString events.length ++ " events (" ++
    toString forward.length ++ " forward declaration(s))"))
  pure events

end Library

end CrateHeader
