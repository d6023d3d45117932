import CrateHeader.Library
import CrateHeader.Log
import CrateHeader.Sorting
import CrateHeader.Ty.Mangle
import CrateHeader.Unseen

/-!
# Specialization

Starting from what is exported and concrete, a walk follows every outer path. A path with arguments to a
generic entity selects an instance: a copy with the parameters substituted, under a mangled name, made once
for each key. What the walk never reaches is dropped in the end, every template with it, and the paths of
the rest are renamed to the instances they select.

The walk goes on as long as there is something to visit. It ends because an instance is made only within the
ceiling on depth, and whatever existed before can be reached only once: `Walk.Rank` goes down with every
visit.
-/

namespace CrateHeader

/-- How deep instances may nest, and how their names are written. -/
structure Ceiling where
  maxDepth : Int
  dropUnderscores : Bool
  deriving DecidableEq, Repr

inductive SpecializationError where
  | argumentCount (template : String) (expected given : Nat)
  | tooDeep (template label : String) (maxDepth : Int)
  | collision (template label name owner : String)
  | argumentsMissing (target owner : String)
  | argumentsUnwanted (target owner : String)
  deriving DecidableEq, Repr

/-- A library in which instances are made. -/
structure Workshop where
  library : Library
  nextSeq : Nat
  log : Log

namespace Workshop

/-- What a name that is taken stands for. -/
def ownerText (e : Entity) : String :=
  match e.instanceOf with
  | some key => key.text
  | none => "the " ++ e.kind.name ++ " declared as " ++ e.name

/-- A copy of a template with its parameters replaced by arguments. -/
def makeInstance (template : Entity) (args : List Ty) (name : String) (seq : Nat) : Entity :=
  { template.mapTypes (Ty.substitute (Ty.bindings template.generics args)) with
    name
    exportName := name
    generics := []
    instanceOf := some ⟨template.name, args⟩
    seq }

/-- Lists a new instance in the table and remembers its key. -/
def list (w : Workshop) (e : Entity) (key : InstanceKey) : Workshop :=
  { library := { w.library with
      entities := w.library.entities ++ [e]
      instances := w.library.instances ++ [⟨key, e, none⟩] }
    nextSeq := w.nextSeq + 1
    log := w.log ++ Log.debug ("Instantiated " ++ key.text ++ " as " ++ e.name) }

/-- The instance of a template at some arguments, made when it is asked for first. -/
def instantiate (ceiling : Ceiling) (template : Entity) (args : List Ty) (depth : Int)
    (w : Workshop) : Except SpecializationError (Entity × Workshop) :=
  let key : InstanceKey := ⟨template.name, args⟩
  match w.library.instance? key with
  | some i => .ok (w.library.entityOf i, w)
  | none =>
    if args.length ≠ template.generics.length then
      .error (.argumentCount template.name template.generics.length args.length)
    else if depth > ceiling.maxDepth ∨ args.any fun a => a.depth > ceiling.maxDepth then
      .error (.tooDeep template.name key.text ceiling.maxDepth)
    else
      let name := Ty.mangledName template.name args ceiling.dropUnderscores
      match w.library.get? name with
      | some existing => .error (.collision template.name key.text name (ownerText existing))
      | none =>
        let e := makeInstance template args name w.nextSeq
        .ok (e, w.list e key)

/-- The entity that a path of an owner leads to, if it is one of the library that is not left out. -/
def follow (ceiling : Ceiling) (excluded : List String) (owner : Entity) (m : Ty.Mention)
    (depth : Nat) (w : Workshop) : Except SpecializationError (Option Entity × Workshop) :=
  match w.library.get? m.name with
  | none => .ok (none, w)
  | some target =>
    if excluded.contains m.name then .ok (none, w)
    else if target.isGeneric then
      if m.args.isEmpty then .error (.argumentsMissing target.name owner.name)
      else (instantiate ceiling target m.args (depth + 1) w).map fun (e, w) => (some e, w)
    else if m.args.isEmpty then .ok (some target, w)
    else .error (.argumentsUnwanted target.name owner.name)

end Workshop

/-- A walk through a library: what it has reached, and what it has still to visit, each with the number of
instances on the way to it. -/
structure Walk where
  workshop : Workshop
  reached : List String
  queue : List (Entity × Nat)

/-- A failure, with the workshop as it then was. -/
structure WalkFailure where
  error : SpecializationError
  workshop : Workshop

namespace Walk

/-- Goes on to what a path leads to. -/
def reach (depth : Nat) (w : Walk) : Option Entity × Workshop → Walk
  | (none, _) => w
  | (some e, workshop) =>
    if w.reached.contains e.name then { w with workshop }
    else
      { workshop
        reached := e.name :: w.reached
        queue := w.queue ++ [(e, if e.instanceOf.isSome then depth + 1 else depth)] }

/-- Follows the paths of an entity in order. -/
def visit (ceiling : Ceiling) (excluded : List String) (owner : Entity) (depth : Nat) :
    List Ty.Mention → Walk → Except WalkFailure Walk
  | [], w => .ok w
  | m :: rest, w =>
    match w.workshop.follow ceiling excluded owner m depth with
    | .error e => .error ⟨e, w.workshop⟩
    | .ok found => visit ceiling excluded owner depth rest (w.reach depth found)

/-! ### Why the walk ends -/

/-- The names under which something exists. -/
def known (lib : Library) : List String :=
  lib.names ++ lib.instances.map fun i => (i.withdrawn.getD i.made).name

/-- How much of what exists has not been reached. -/
def unreached (w : Walk) : Nat :=
  unseen (known w.workshop.library) w.reached

/-- Of two counts by depth, the one that is less at the first of `n` depths where they differ. -/
def Below (n : Nat) (f g : Nat → Nat) : Prop := ∃ d < n, f d < g d ∧ ∀ i < d, f i = g i

theorem below_wf (n : Nat) : WellFounded (Below n) := by
  induction n with
  | zero => exact ⟨fun f => ⟨_, fun _ ⟨_, h, _⟩ => absurd h (Nat.not_lt_zero _)⟩⟩
  | succ n ih =>
    let wf := (Prod.lex Nat.lt_wfRel ⟨Below n, ih⟩).wf
    refine Subrelation.wf ?_ (InvImage.wf (fun f : Nat → Nat => (f 0, fun i => f (i + 1))) wf)
    rintro f g ⟨d, hd, hlt, heq⟩
    cases d with
    | zero => exact Prod.Lex.left _ _ hlt
    | succ d =>
      show Prod.Lex _ _ (f 0, _) (g 0, _)
      rw [heq 0 (Nat.succ_pos d)]
      exact Prod.Lex.right _ ⟨d, by omega, hlt, fun i hi => heq (i + 1) (by omega)⟩

/-- What a visit lowers: how much is unreached, then how much waits at each of `n` depths. -/
structure Rank (n : Nat) where
  unreached : Nat
  pending : Nat → Nat

instance (n : Nat) : WellFoundedRelation (Rank n) where
  rel a b := Prod.Lex (· < ·) (Below n) (a.unreached, a.pending) (b.unreached, b.pending)
  wf := InvImage.wf (fun a : Rank n => (a.unreached, a.pending))
    (Prod.lex Nat.lt_wfRel ⟨Below n, below_wf n⟩).wf

/-- How many entities of a queue wait at a depth; all depths beyond the ceiling count as one. -/
def pendingAt (ceiling : Ceiling) (queue : List (Entity × Nat)) (d : Nat) : Nat :=
  queue.countP fun e => min e.2 (ceiling.maxDepth.toNat + 1) == d

def rank (ceiling : Ceiling) (w : Walk) : Rank (ceiling.maxDepth.toNat + 2) :=
  ⟨w.unreached, pendingAt ceiling w.queue⟩

/-- A step adds to the queue, and what it adds was unreached before or is an instance within the ceiling. -/
def Extends (ceiling : Ceiling) (depth : Nat) (w w' : Walk) : Prop :=
  ∃ pushed, w'.queue = w.queue ++ pushed ∧
    (w'.unreached < w.unreached ∨ w'.unreached = w.unreached ∧
      ∀ e ∈ pushed, e.2 = depth + 1 ∧ depth + 1 ≤ ceiling.maxDepth.toNat)

theorem Extends.refl (ceiling : Ceiling) (depth : Nat) (w : Walk) : Extends ceiling depth w w :=
  ⟨[], by simp, Or.inr ⟨rfl, by simp⟩⟩

theorem Extends.trans {ceiling : Ceiling} {depth : Nat} {u v w : Walk}
    (h : Extends ceiling depth u v) (h' : Extends ceiling depth v w) :
    Extends ceiling depth u w := by
  obtain ⟨p, hp, hu⟩ := h
  obtain ⟨q, hq, hv⟩ := h'
  refine ⟨p ++ q, by rw [hq, hp, List.append_assoc], ?_⟩
  rcases hu with hu | ⟨hu, hpd⟩ <;> rcases hv with hv | ⟨hv, hqd⟩
  · exact Or.inl (by omega)
  · exact Or.inl (by omega)
  · exact Or.inl (by omega)
  · refine Or.inr ⟨by omega, fun e he => ?_⟩
    rcases List.mem_append.1 he with he | he
    · exact hpd e he
    · exact hqd e he

theorem known_list (w : Workshop) (e : Entity) (key : InstanceKey) (p : String → Bool) :
    (known (w.list e key).library).countP p =
      (known w.library).countP p + 2 * if p e.name then 1 else 0 := by
  simp only [known, Workshop.list, Library.names, List.map_append, List.countP_append, List.map_cons,
    List.map_nil, List.countP_cons, List.countP_nil, Option.getD_none]
  omega

theorem name_mem_known {lib : Library} {name : String} {e : Entity} (h : lib.get? name = some e) :
    e.name ∈ known lib :=
  List.mem_append_left _ (List.mem_map_of_mem (Library.mem_of_get? h))

theorem entityOf_name_mem_known {lib : Library} {i : Instance} (h : i ∈ lib.instances) :
    (lib.entityOf i).name ∈ known lib := by
  refine List.mem_append_right _ (List.mem_map.2 ⟨i, h, ?_⟩)
  unfold Library.entityOf
  cases i.withdrawn with
  | some e => rfl
  | none =>
    cases hg : lib.get? i.name with
    | none => rfl
    | some e => exact (Library.name_of_get? hg).symm

/-- What asking for an instance gives: one that exists, or a new one within the ceiling. -/
theorem instantiate_cases {ceiling : Ceiling} {template e : Entity} {args : List Ty} {depth : Int}
    {w w' : Workshop} (h : w.instantiate ceiling template args depth = .ok (e, w')) :
    (w' = w ∧ ∃ i ∈ w.library.instances, e = w.library.entityOf i) ∨
      (∃ key, w' = w.list e key) ∧ e.instanceOf.isSome ∧ depth ≤ ceiling.maxDepth := by
  unfold Workshop.instantiate at h
  dsimp only at h
  split at h
  · next i hi =>
    cases h
    exact Or.inl ⟨rfl, i, List.mem_of_find?_eq_some hi, rfl⟩
  · split at h
    · cases h
    · split at h
      · cases h
      · next hdepth =>
        split at h
        · cases h
        · cases h
          exact Or.inr ⟨⟨_, rfl⟩, rfl, by omega⟩

/-- What following a path gives: an entity that exists, or a new instance within the ceiling. -/
theorem follow_cases {ceiling : Ceiling} {excluded : List String} {owner e : Entity} {m : Ty.Mention}
    {depth : Nat} {w w' : Workshop}
    (h : w.follow ceiling excluded owner m depth = .ok (some e, w')) :
    (w' = w ∧ e.name ∈ known w.library) ∨
      (∃ key, w' = w.list e key) ∧ e.instanceOf.isSome ∧ depth + 1 ≤ ceiling.maxDepth.toNat := by
  unfold Workshop.follow at h
  split at h
  · cases h
  · next target ht =>
    split at h
    · cases h
    · split at h
      · split at h
        · cases h
        · cases hi : w.instantiate ceiling target m.args (depth + 1) with
          | error err => rw [hi] at h; cases h
          | ok made =>
            obtain ⟨made, after⟩ := made
            rw [hi] at h
            cases h
            rcases instantiate_cases hi with ⟨rfl, i, hmem, rfl⟩ | hnew
            · exact Or.inl ⟨rfl, entityOf_name_mem_known hmem⟩
            · exact Or.inr ⟨hnew.1, hnew.2.1, by omega⟩
      · split at h
        · cases h
          exact Or.inl ⟨rfl, name_mem_known ht⟩
        · cases h

theorem extends_reach {ceiling : Ceiling} {excluded : List String} {owner : Entity} {m : Ty.Mention}
    {depth : Nat} {w : Walk} {found : Option Entity × Workshop}
    (h : w.workshop.follow ceiling excluded owner m depth = .ok found) :
    Extends ceiling depth w (w.reach depth found) := by
  rcases found with ⟨_ | e, w'⟩
  · exact .refl ..
  · rcases follow_cases h with ⟨rfl, hmem⟩ | ⟨⟨key, rfl⟩, hsome, hdepth⟩
    · simp only [reach]
      split
      · exact .refl ..
      · next hr => exact ⟨_, rfl, Or.inl (unseen_cons_lt hmem hr)⟩
    · simp only [reach]
      split
      · next hr =>
        refine ⟨[], by simp, Or.inr ⟨?_, by simp⟩⟩
        simp only [unreached, unseen, known_list]
        simp at hr
        simp [hr]
      · refine ⟨_, rfl, ?_⟩
        have hle := unseen_cons_le (known w.workshop.library) w.reached e.name
        simp only [unreached, unseen, known_list]
        simp [unseen, hdepth] at hle ⊢
        omega

theorem extends_visit {ceiling : Ceiling} {excluded : List String} {owner : Entity} {depth : Nat}
    {ms : List Ty.Mention} {w w' : Walk} (h : visit ceiling excluded owner depth ms w = .ok w') :
    Extends ceiling depth w w' := by
  induction ms generalizing w with
  | nil => simp only [visit, Except.ok.injEq] at h; exact h ▸ .refl ..
  | cons m rest ih =>
    simp only [visit] at h
    split at h
    · simp at h
    · next found hf => exact (extends_reach hf).trans (ih h)

theorem rank_lt_of_extends {ceiling : Ceiling} {w w' : Walk} {e : Entity} {depth : Nat}
    {rest : List (Entity × Nat)} (hq : w.queue = (e, depth) :: rest)
    (h : Extends ceiling depth { w with queue := rest } w') :
    WellFoundedRelation.rel (rank ceiling w') (rank ceiling w) := by
  obtain ⟨pushed, hp, hu⟩ := h
  rcases hu with hu | ⟨hu, hd⟩
  · exact Prod.Lex.left _ _ hu
  · show Prod.Lex _ _ (w'.unreached, _) (w.unreached, _)
    have hu' : w'.unreached = w.unreached := hu
    rw [hu']
    refine Prod.Lex.right _ ⟨min depth (ceiling.maxDepth.toNat + 1), by omega, ?_, fun i hi => ?_⟩
    · have hz : pendingAt ceiling pushed (min depth (ceiling.maxDepth.toNat + 1)) = 0 := by
        simp only [pendingAt, List.countP_eq_zero]
        intro x hx
        obtain ⟨h₁, h₂⟩ := hd x hx
        simp only [h₁, beq_iff_eq]
        omega
      simp only [rank, pendingAt] at hz ⊢
      rw [hp, hq]
      simp only [List.countP_append, List.countP_cons, beq_self_eq_true, if_true]
      omega
    · have hz : pendingAt ceiling pushed i = 0 := by
        simp only [pendingAt, List.countP_eq_zero]
        intro x hx
        obtain ⟨h₁, h₂⟩ := hd x hx
        simp only [h₁, beq_iff_eq]
        omega
      simp only [rank, pendingAt] at hz ⊢
      rw [hp, hq]
      have : (min depth (ceiling.maxDepth.toNat + 1) == i) = false := by simp; omega
      simp only [List.countP_append, List.countP_cons, this, Bool.false_eq_true, if_false]
      omega

/-- Visits what waits, first come first served, until nothing does. -/
def run (ceiling : Ceiling) (excluded : List String) (w : Walk) : Except WalkFailure Walk :=
  match hq : w.queue with
  | [] => .ok w
  | (e, depth) :: rest =>
    match hv : visit ceiling excluded e depth e.mentions { w with queue := rest } with
    | .error failure => .error failure
    | .ok w' =>
      have : WellFoundedRelation.rel (rank ceiling w') (rank ceiling w) :=
        rank_lt_of_extends hq (extends_visit hv)
      run ceiling excluded w'
termination_by rank ceiling w
decreasing_by assumption

end Walk

namespace Library

/-- Where the walk starts: concrete entities that are exported or asked for, and not left out. -/
def roots (included excluded : List String) (lib : Library) : List Entity :=
  lib.entities.filter fun e =>
    !excluded.contains e.name && !e.isGeneric && (e.exported || included.contains e.name)

def rootsLog (included excluded : List String) (lib : Library) : Log :=
  let names := (lib.roots included excluded).map (·.name)
  ((sortTexts (distinct included)).filter fun name => !names.contains name).flatMap fun name =>
    Log.warning ("Included name '" ++ name ++ "' is not a concrete entity; ignoring it")

/-- The entities that a walk did not reach. -/
def dropped (reached : List String) (lib : Library) : List Entity :=
  lib.entities.filter fun e => !reached.contains e.name

def dropLog (e : Entity) : Log :=
  if e.isGeneric then
    Log.debug ("Dropped generic " ++ e.name ++ ": never instantiated from the exported surface")
  else Log.debug ("Dropped " ++ e.name ++ ": not reachable from the exported surface")

/-- Leaves a name to an included header. -/
def makeExternal (lib : Library) (name : String) : Library :=
  let without := ((lib.remove? name).map Prod.snd).getD lib
  if without.external.contains name then without
  else { without with external := without.external ++ [name] }

/-- The name of the instance that a path selects. -/
def instanceName? (lib : Library) (name : String) (args : List Ty) : Option String :=
  (lib.instance? ⟨name, args⟩).map Instance.name

/-- Every path that selects an instance is renamed to it. -/
def renameInstances (lib : Library) : Library :=
  lib.mapEntities (Entity.mapTypes (Ty.replacePaths lib.instanceName?))

/-- What is left after a walk: the entities it reached, those left out given up to included headers. -/
def keepReached (reached excluded : List String) (lib : Library) : Library :=
  (excluded.foldl makeExternal ((lib.dropped reached).foldl erase lib)).renameInstances

end Library

namespace Workshop

/-- Specialises a library. After a failure the instances made before it stay. -/
def specialize (ceiling : Ceiling) (included excluded : List String) (w : Workshop) :
    Workshop × Except SpecializationError Unit :=
  let roots := w.library.roots included excluded
  let start := { w with log := w.log ++ w.library.rootsLog included excluded }
  match Walk.run ceiling excluded ⟨start, roots.map (·.name), roots.map fun e => (e, 0)⟩ with
  | .error failure => (failure.workshop, .error failure.error)
  | .ok walk =>
    let lib := walk.workshop.library
    let kept := lib.keepReached walk.reached excluded
    ({ walk.workshop with
        library := kept
        log := walk.workshop.log ++ (lib.dropped walk.reached).flatMap Library.dropLog ++
          Log.info ("Specialized: " ++ toString kept.instances.length ++ " instantiation(s), " ++
            toString kept.entities.length ++ " entities reachable") },
      .ok ())

end Workshop

end CrateHeader
