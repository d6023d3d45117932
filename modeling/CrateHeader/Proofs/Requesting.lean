import CrateHeader.Proofs.AlikeArguments
import CrateHeader.Proofs.Stages

/-!
# Asking for instances

Beside the walk, a program may ask for instances of templates one by one, with any arguments and at any depth. Here a
request is carried out step by step, in an order in which what is done before a refusal stays done; that a refused
request changes nothing is because every check stands in front of the first step. The instances that requests leave
are the entries of a cache: the same key gives the same entity, different keys never give one name, and what was
declared stays as it is.
-/

namespace CrateHeader

/-- A request for the instance of a template at some arguments. -/
structure Request where
  template : Entity
  args : List Ty
  depth : Int

/-- Why a request is refused; the table may also have an entity of the name that is to be added. -/
inductive Refusal where
  | unmade (error : SpecializationError)
  | present (name : String)
  deriving DecidableEq, Repr

/-- Steps in a workshop. What is done before a refusal stays done. -/
abbrev Steps := EStateM Refusal Workshop

namespace Steps

/-- Takes the next number for an instance. -/
def takeSeq : Steps Nat := modifyGet fun w => (w.nextSeq, { w with nextSeq := w.nextSeq + 1 })

/-- Adds an entity to the table, which must not have one of its name. -/
def add (e : Entity) : Steps Unit := do
  if (← get).library.contains e.name then throw (.present e.name)
  modify fun w => { w with library := w.library.push e }

/-- Lists the instance that was made for a key. -/
def remember (key : InstanceKey) (e : Entity) : Steps Unit :=
  modify fun w => { w with library := { w.library with
    instances := w.library.instances ++ [⟨key, e, none⟩] } }

def note (log : Log) : Steps Unit := modify fun w => { w with log := w.log ++ log }

end Steps

namespace Request

/-- Makes the instance that is asked for, unless it is there. -/
def steps (ceiling : Ceiling) (r : Request) : Steps Entity := do
  let lib := (← get).library
  let key : InstanceKey := ⟨r.template.name, r.args⟩
  match lib.instance? key with
  | some i => return lib.entityOf i
  | none =>
    if r.args.length ≠ r.template.generics.length then
      throw (.unmade (.argumentCount r.template.name r.template.generics.length r.args.length))
    if r.depth > ceiling.maxDepth ∨ r.args.any fun a => a.depth > ceiling.maxDepth then
      throw (.unmade (.tooDeep r.template.name key.text ceiling.maxDepth))
    let name := Ty.mangledName r.template.name r.args ceiling.dropUnderscores
    if let some existing := lib.get? name then
      throw (.unmade (.collision r.template.name key.text name (Workshop.ownerText existing)))
    let e := Workshop.makeInstance r.template r.args name (← Steps.takeSeq)
    Steps.add e
    Steps.remember key e
    Steps.note (Log.debug ("Instantiated " ++ key.text ++ " as " ++ e.name))
    return e

/-- The workshop that a request leaves, also where it is refused. -/
def left (ceiling : Ceiling) (r : Request) (w : Workshop) : Workshop :=
  match (r.steps ceiling).run w with
  | .ok _ after => after
  | .error _ after => after

/-- The workshop after some requests. -/
def runAll (ceiling : Ceiling) (rs : List Request) (w : Workshop) : Workshop :=
  rs.foldl (fun w r => r.left ceiling w) w

variable {ceiling : Ceiling} {w : Workshop} {base : Library} {firstSeq : Nat} {r : Request} {rs : List Request}

/-- A request is answered as by `instantiate`. Where it is refused, nothing has been done yet. -/
theorem run_steps (ceiling : Ceiling) (r : Request) (w : Workshop) : (r.steps ceiling).run w =
    match w.instantiate ceiling r.template r.args r.depth with
    | .ok (e, after) => .ok e after
    | .error error => .error (.unmade error) w := by
  cases hfound : w.library.instance? ⟨r.template.name, r.args⟩ with
  | some i => simp [steps, Workshop.instantiate, hfound]
  | none =>
    by_cases hcount : r.args.length = r.template.generics.length
    · by_cases hdeep : ceiling.maxDepth < r.depth ∨ ∃ a ∈ r.args, ceiling.maxDepth < (a.depth : Int)
      · simp [steps, Workshop.instantiate, hfound, hcount, hdeep]
      · cases htaken : w.library.get? (Ty.mangledName r.template.name r.args ceiling.dropUnderscores) with
        | some existing => simp [steps, Workshop.instantiate, hfound, hcount, hdeep, htaken]
        | none =>
          have hfree : w.library.contains (Workshop.makeInstance r.template r.args
              (Ty.mangledName r.template.name r.args ceiling.dropUnderscores) w.nextSeq).name = false := by
            simp [Library.contains, Workshop.makeInstance, htaken]
          simp [steps, Workshop.instantiate, hfound, hcount, hdeep, htaken, Steps.takeSeq, Steps.add, hfree,
            Steps.remember, Steps.note, Workshop.list, Library.push]
    · simp [steps, Workshop.instantiate, hfound, hcount]

theorem instantiate_of_run {e : Entity} {after : Workshop} (h : (r.steps ceiling).run w = .ok e after) :
    w.instantiate ceiling r.template r.args r.depth = .ok (e, after) := by
  rw [run_steps] at h
  split at h
  · next hmade =>
    cases h
    exact hmade
  · cases h

theorem left_eq (ceiling : Ceiling) (r : Request) (w : Workshop) : r.left ceiling w =
    match w.instantiate ceiling r.template r.args r.depth with
    | .ok (_, after) => after
    | .error _ => w := by
  unfold left
  rw [run_steps]
  cases w.instantiate ceiling r.template r.args r.depth <;> rfl

/-! ### What requests leave -/

theorem grown_left (hw : Workshop.Grown base firstSeq ceiling.dropUnderscores w)
    (hr : r.template ∈ base.entities ∧ r.template.isGeneric = true) :
    Workshop.Grown base firstSeq ceiling.dropUnderscores (r.left ceiling w) := by
  rw [left_eq]
  cases hmade : w.instantiate ceiling r.template r.args r.depth with
  | error error => exact hw
  | ok made => exact (hw.instantiate hr.1 hr.2 rfl hmade).1

theorem grown_runAll (hw : Workshop.Grown base firstSeq ceiling.dropUnderscores w)
    (hrs : ∀ r ∈ rs, r.template ∈ base.entities ∧ r.template.isGeneric = true) :
    Workshop.Grown base firstSeq ceiling.dropUnderscores (runAll ceiling rs w) := by
  induction rs generalizing w with
  | nil => exact hw
  | cons r rest ih =>
    rw [List.forall_mem_cons] at hrs
    exact ih (grown_left hw hrs.1) hrs.2

/-- The entry of an instance is the entity that the table has under the mangled name of the key, a copy of the
template with the arguments in place of the parameters. -/
structure IsEntry (lib : Library) (dropUnderscores : Bool) (i : Instance) (t : Entity) : Prop where
  named : lib.get? (Ty.mangledName i.key.template i.key.args dropUnderscores) = some (lib.entityOf i)
  template : i.key.template = t.name
  instanceOf : (lib.entityOf i).instanceOf = some i.key
  generics : (lib.entityOf i).generics = []
  body : (lib.entityOf i).body = t.body.mapTypes (Ty.substitute (Ty.bindings t.generics i.key.args))
  references : List.Forall₂ (Ty.Instantiates t.generics i.key.args) t.body.types (lib.entityOf i).body.types

theorem isEntry_of_grown (hw : Workshop.Grown base firstSeq ceiling.dropUnderscores w) {i : Instance}
    (hi : i ∈ w.library.instances) :
    ∃ t ∈ base.entities, t.isGeneric = true ∧ IsEntry w.library ceiling.dropUnderscores i t := by
  obtain ⟨t, hcopy⟩ := hw.copies i hi
  have hentity := hw.entityOf_eq hi
  have hbody : (w.library.entityOf i).body =
      t.body.mapTypes (Ty.substitute (Ty.bindings t.generics i.key.args)) := by
    rw [hentity, hcopy.made]
    rfl
  refine ⟨t, hcopy.mem, hcopy.generic, ⟨?_, hcopy.template, ?_, ?_, hbody, ?_⟩⟩
  · rw [hentity, ← hw.name_eq_of_key hi]
    exact Library.get?_of_mem hw.table (hw.mem_entities.2 (Or.inr ⟨i, hi, rfl⟩))
  · rw [hentity, hw.instanceOf_made hi]
  · rw [hentity, hcopy.made]
    rfl
  · rw [hbody]
    exact Body.instantiates_types t.generics i.key.args t.body

/-- Instances have different keys and names, and their numbers rise in the order of their making. -/
theorem pairwise_instances (hw : Workshop.Grown base firstSeq ceiling.dropUnderscores w) :
    w.library.instances.Pairwise fun i j => i.key ≠ j.key ∧
      (w.library.entityOf i).name ≠ (w.library.entityOf j).name ∧
      (w.library.entityOf i).seq < (w.library.entityOf j).seq := by
  have hkeys : w.library.instances.Pairwise fun i j => i.key ≠ j.key := List.pairwise_map.1 hw.keys
  have hnames : w.library.instances.Pairwise fun i j => i.name ≠ j.name := List.pairwise_map.1 hw.nodup_names
  have hseqs : w.library.instances.Pairwise fun i j => i.made.seq < j.made.seq := by
    have hrising : (List.range' firstSeq w.library.instances.length).Pairwise (· < ·) := List.pairwise_lt_range'
    rw [← hw.seqs] at hrising
    exact List.pairwise_map.1 hrising
  refine (hkeys.and (hnames.and hseqs)).imp_of_mem fun {i j} hi hj h => ?_
  rw [hw.entityOf_eq hi, hw.entityOf_eq hj]
  exact h

/-- After any requests for instances of what was built, its entities are as they were, with the instances behind
them in the order of their making, each at a key, under a name and with a number of its own. A request that was
answered before is answered in the same way and changes nothing, and neither does one that is refused. -/
theorem runAll_consistent {external : List String} {ds : List Declaration} {lib : Library}
    (hbuilt : (Library.build external ds).result = .ok lib) (ceiling : Ceiling) (nextSeq : Nat) (log : Log)
    (hrs : ∀ r ∈ rs, r.template ∈ lib.entities ∧ r.template.isGeneric = true) :
    let w := runAll ceiling rs ⟨lib, nextSeq, log⟩
    (∀ i ∈ w.library.instances, ∃ t ∈ lib.entities, t.isGeneric = true ∧
      IsEntry w.library ceiling.dropUnderscores i t) ∧
    (w.library.instances.Pairwise fun i j => i.key ≠ j.key ∧
      (w.library.entityOf i).name ≠ (w.library.entityOf j).name ∧
      (w.library.entityOf i).seq < (w.library.entityOf j).seq) ∧
    w.library.entities = lib.entities ++ w.library.instances.map w.library.entityOf ∧
    ∀ r : Request,
      (∀ i, w.library.instance? ⟨r.template.name, r.args⟩ = some i →
        (r.steps ceiling).run w = .ok (w.library.entityOf i) w) ∧
      (r.template ∈ lib.entities ∧ r.template.isGeneric = true → ∀ e after,
        (r.steps ceiling).run w = .ok e after →
        ∃ i ∈ after.library.instances, i.key = ⟨r.template.name, r.args⟩ ∧ after.library.entityOf i = e) ∧
      ∀ refusal after, (r.steps ceiling).run w = .error refusal after →
        after = w ∧ ∃ error, refusal = .unmade error := by
  intro w
  have hfresh := Library.isFresh_build hbuilt
  have hstart : Workshop.Grown lib nextSeq ceiling.dropUnderscores ⟨lib, nextSeq, log⟩ :=
    Workshop.grown_start (w := ⟨lib, nextSeq, log⟩) hfresh.table hfresh.unused
  have hw : Workshop.Grown lib nextSeq ceiling.dropUnderscores w := grown_runAll hstart hrs
  refine ⟨fun i hi => isEntry_of_grown hw hi, pairwise_instances hw, ?_,
    fun r => ⟨fun i hi => ?_, fun hr e after h => ?_, fun refusal after h => ?_⟩⟩
  · rw [hw.entities]
    congr 1
    exact List.map_congr_left fun i hi => (hw.entityOf_eq hi).symm
  · rw [run_steps]
    simp [Workshop.instantiate, hi]
  · obtain ⟨hgrown, i, hi, hkey, hmade, _⟩ := hw.instantiate hr.1 hr.2 rfl (instantiate_of_run h)
    exact ⟨i, hi, hkey, (hgrown.entityOf_eq hi).trans hmade⟩
  · rw [run_steps] at h
    split at h
    · cases h
    · cases h
      exact ⟨rfl, _, rfl⟩

def binTemplate : Entity :=
  { Entity.bare "Bin" 0 (.struct [.bare "item" (.path "T" [])]) with generics := ["T"] }

/-- A template and a struct that has the name of one of its instances. -/
def binLibrary : Library := ⟨[binTemplate, .bare "Bin_u8" 1 (.struct [])], [], []⟩

def binDeclarations : List Declaration := [
  ⟨"Bin", [], ["T"], "crate", true, [], .struct [⟨"item", .path "T" [], []⟩]⟩,
  ⟨"Bin_u8", [], [], "crate", true, [], .struct []⟩]

def binRequest (args : List Ty) (depth : Int) : Request := ⟨binTemplate, args, depth⟩

/-- Of these, the second repeats the first, and the next three are refused: no argument, a name that is taken and
a depth beyond the ceiling. -/
def binRequests : List Request := [
  binRequest [.primitive .i32] 1, binRequest [.primitive .i32] 9, binRequest [] 1, binRequest [.primitive .u8] 1,
  binRequest [.primitive .bool] 9, binRequest [.primitive .bool] 1]

theorem runAll_consistent_bin : (Library.build [] binDeclarations).result = .ok binLibrary ∧
    (∀ r ∈ binRequests, r.template ∈ binLibrary.entities ∧ r.template.isGeneric = true) ∧
    (runAll ⟨4, false⟩ binRequests ⟨binLibrary, 1, []⟩).library.entities.map (fun e => (e.name, e.body.types)) =
      [("Bin", [.path "T" []]), ("Bin_u8", []), ("Bin_i32", [.primitive .i32]), ("Bin_bool", [.primitive .bool])] ∧
    ∀ i ∈ (runAll ⟨4, false⟩ binRequests ⟨binLibrary, 1, []⟩).library.instances,
      ∃ t ∈ binLibrary.entities, t.isGeneric = true ∧
        IsEntry (runAll ⟨4, false⟩ binRequests ⟨binLibrary, 1, []⟩).library false i t := by
  have hbuilt : (Library.build [] binDeclarations).result = .ok binLibrary := by cbv
  have hrs : ∀ r ∈ binRequests, r.template ∈ binLibrary.entities ∧ r.template.isGeneric = true := by decide
  exact ⟨hbuilt, hrs, by cbv, (runAll_consistent hbuilt ⟨4, false⟩ 1 [] hrs).1⟩

end Request

end CrateHeader
