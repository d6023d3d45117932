import CrateHeader.Library.Naming
import CrateHeader.Library.Pruning
import CrateHeader.Library.Specialization
import CrateHeader.Proofs.Walking

/-!
# New places for the entities of a library

An entity knows its place among all declarations. Pruning, specialization and naming only carry it along:
what they make of a library in which every entity has been given another place is what they make of the
library, with the other places.
-/

namespace CrateHeader

variable {move : Nat → Nat}

namespace Entity

/-- The entity at another place. -/
def renumber (move : Nat → Nat) (e : Entity) : Entity := { e with index := move e.index }

variable (e : Entity)

@[simp] theorem renumber_name : (e.renumber move).name = e.name := rfl
@[simp] theorem renumber_exportName : (e.renumber move).exportName = e.exportName := rfl
@[simp] theorem renumber_generics : (e.renumber move).generics = e.generics := rfl
@[simp] theorem renumber_docs : (e.renumber move).docs = e.docs := rfl
@[simp] theorem renumber_annotations : (e.renumber move).annotations = e.annotations := rfl
@[simp] theorem renumber_exported : (e.renumber move).exported = e.exported := rfl
@[simp] theorem renumber_instanceOf : (e.renumber move).instanceOf = e.instanceOf := rfl
@[simp] theorem renumber_body : (e.renumber move).body = e.body := rfl
@[simp] theorem renumber_kind : (e.renumber move).kind = e.kind := rfl
@[simp] theorem renumber_isType : (e.renumber move).isType = e.isType := rfl
@[simp] theorem renumber_isGeneric : (e.renumber move).isGeneric = e.isGeneric := rfl
@[simp] theorem renumber_mentions : (e.renumber move).mentions = e.mentions := rfl

end Entity

def Instance.renumber (move : Nat → Nat) (i : Instance) : Instance :=
  ⟨i.key, i.made.renumber move, i.withdrawn.map (Entity.renumber move)⟩

@[simp] theorem Instance.renumber_key (i : Instance) : (i.renumber move).key = i.key := rfl
@[simp] theorem Instance.renumber_made (i : Instance) : (i.renumber move).made = i.made.renumber move := rfl
@[simp] theorem Instance.renumber_withdrawn (i : Instance) :
    (i.renumber move).withdrawn = i.withdrawn.map (Entity.renumber move) := rfl
@[simp] theorem Instance.renumber_name (i : Instance) : (i.renumber move).name = i.name := rfl

namespace Library

/-- The library with its entities at other places. -/
def renumber (move : Nat → Nat) (lib : Library) : Library :=
  ⟨lib.entities.map (Entity.renumber move), lib.instances.map (Instance.renumber move), lib.external⟩

variable (lib : Library)

/-! ### Tables -/

@[simp] theorem renumber_entities :
    (lib.renumber move).entities = lib.entities.map (Entity.renumber move) := rfl
@[simp] theorem renumber_instances :
    (lib.renumber move).instances = lib.instances.map (Instance.renumber move) := rfl
@[simp] theorem renumber_external : (lib.renumber move).external = lib.external := rfl

@[simp] theorem renumber_names : (lib.renumber move).names = lib.names := by
  simp [names, Function.comp_def]

@[simp] theorem renumber_get? (name : String) :
    (lib.renumber move).get? name = (lib.get? name).map (Entity.renumber move) := by
  simp only [get?, renumber_entities, List.find?_map]
  rfl

@[simp] theorem renumber_contains (name : String) : (lib.renumber move).contains name = lib.contains name := by
  simp [contains]

@[simp] theorem renumber_instance? (key : InstanceKey) :
    (lib.renumber move).instance? key = (lib.instance? key).map (Instance.renumber move) := by
  simp only [instance?, renumber_instances, List.find?_map]
  rfl

@[simp] theorem renumber_instanceName? : (lib.renumber move).instanceName? = lib.instanceName? := by
  funext name args
  simp [instanceName?, Function.comp_def]

@[simp] theorem renumber_entityOf (i : Instance) :
    (lib.renumber move).entityOf (i.renumber move) = (lib.entityOf i).renumber move := by
  cases hwithdrawn : i.withdrawn with
  | some e => simp [entityOf, hwithdrawn]
  | none => cases hget : lib.get? i.name <;> simp [entityOf, hwithdrawn, hget]

/-- What is asked of entities without their places is true of the same ones. -/
theorem renumber_filter {p : Entity → Bool} (hp : ∀ e : Entity, p (e.renumber move) = p e) :
    (lib.renumber move).entities.filter p = (lib.entities.filter p).map (Entity.renumber move) := by
  rw [renumber_entities, List.filter_map]
  exact congrArg _ (List.filter_congr fun e _ => hp e)

theorem renumber_push (e : Entity) :
    (lib.renumber move).push (e.renumber move) = (lib.push e).renumber move := by
  simp [push, renumber]

theorem renumber_withdraw (e : Entity) :
    (lib.renumber move).withdraw (e.renumber move) = (lib.withdraw e).renumber move := by
  simp only [withdraw, renumber, List.map_map, Library.mk.injEq, true_and, and_true]
  refine List.map_congr_left fun i _ => ?_
  by_cases hi : i.name = e.name ∧ i.withdrawn = none
  · have hi' : (i.renumber move).name = (e.renumber move).name ∧ (i.renumber move).withdrawn = none := by
      simpa using hi
    rw [Function.comp_apply, Function.comp_apply, if_pos hi', if_pos hi]
    rfl
  · have hi' : ¬ ((i.renumber move).name = (e.renumber move).name ∧ (i.renumber move).withdrawn = none) := by
      simpa using hi
    rw [Function.comp_apply, Function.comp_apply, if_neg hi', if_neg hi]

theorem renumber_erase (e : Entity) :
    (lib.renumber move).erase (e.renumber move) = (lib.erase e).renumber move := by
  unfold erase
  rw [renumber_withdraw, renumber_entities, List.filter_map]
  rfl

theorem renumber_replace (old new : Entity) : (lib.renumber move).replace (old.renumber move)
    (new.renumber move) = (lib.replace old new).renumber move := by
  unfold replace
  rw [renumber_withdraw]
  simp only [renumber, List.map_map, Library.mk.injEq, and_self, and_true]
  refine List.map_congr_left fun x _ => ?_
  by_cases hx : x.name = old.name <;> simp [hx]

theorem renumber_mapEntities {f : Entity → Entity} (hf : ∀ e : Entity, f (e.renumber move) = (f e).renumber move) :
    (lib.renumber move).mapEntities f = (lib.mapEntities f).renumber move := by
  simp [mapEntities, renumber, Function.comp_def, hf]

/-- What is done for one entity after the other can be done before or after they get other places. -/
theorem renumber_foldl {f : Library → Entity → Library}
    (hf : ∀ lib e, f (lib.renumber move) (e.renumber move) = (f lib e).renumber move) (es : List Entity) :
    (es.map (Entity.renumber move)).foldl f (lib.renumber move) = (es.foldl f lib).renumber move := by
  induction es generalizing lib with
  | nil => rfl
  | cons e rest ih => rw [List.map_cons, List.foldl_cons, List.foldl_cons, hf, ih]

/-! ### Pruning -/

theorem renumber_pruneEntities (env : Environment) :
    (lib.renumber move).pruneEntities env = (lib.pruneEntities env).renumber move := by
  unfold pruneEntities
  dsimp only
  have hdisabled : (lib.renumber move).entities.filter (fun e => !e.isEnabled env) =
      (lib.entities.filter fun e => !e.isEnabled env).map (Entity.renumber move) := renumber_filter lib fun _ => rfl
  rw [hdisabled, renumber_foldl _ fun lib e => renumber_erase lib e, renumber_mapEntities (f := Entity.prune env) _ fun _ => rfl]

theorem renumber_markOpaque (marks : List String) :
    (lib.renumber move).markOpaque marks = (lib.markOpaque marks).renumber move := by
  unfold markOpaque
  have hmarked : (lib.renumber move).entities.filter (fun e => isMarkedOpaque marks e && e.isType) =
      (lib.entities.filter fun e => isMarkedOpaque marks e && e.isType).map (Entity.renumber move) :=
    renumber_filter lib fun _ => rfl
  rw [hmarked, renumber_foldl _ fun lib e => renumber_replace lib e e.asOpaque]

theorem renumber_stubMentions (removed : List Entity) :
    (lib.renumber move).stubMentions (removed.map (Entity.renumber move)) =
      (lib.stubMentions removed).map fun p => (p.1.renumber move, p.2.1, p.2.2.renumber move) := by
  unfold stubMentions
  rw [renumber_entities, List.flatMap_map, List.map_flatMap]
  congr 1
  funext e
  rw [List.map_filterMap]
  congr 1
  funext m
  rw [List.find?_map]
  cases hfind : removed.find? fun r => r.name == m.name with
  | none =>
    rw [show removed.find? ((fun r => r.name == m.name) ∘ Entity.renumber move) = none from hfind]
    rfl
  | some r =>
    rw [show removed.find? ((fun r => r.name == m.name) ∘ Entity.renumber move) = some r from hfind]
    dsimp only [Option.map_some]
    split <;> rfl

theorem renumber_addStub (e : Entity) :
    (lib.renumber move).addStub (e.renumber move) = (lib.addStub e).renumber move := by
  unfold addStub
  rw [Entity.renumber_name, renumber_contains]
  split
  · rfl
  · exact renumber_push lib e.stub

theorem renumber_prune (env : Environment) (marks : List String) :
    ((lib.renumber move).prune env marks).library = (lib.prune env marks).library.renumber move := by
  have hremoved : (lib.renumber move).entities.filter (fun e => !e.isEnabled env) =
      (lib.entities.filter fun e => !e.isEnabled env).map (Entity.renumber move) := renumber_filter lib fun _ => rfl
  unfold prune
  dsimp only
  rw [renumber_pruneEntities, renumber_markOpaque, hremoved, renumber_stubMentions, List.foldl_map]
  exact List.foldl_hom _ fun lib p => renumber_addStub lib p.2.2

/-! ### Naming -/

theorem renumber_assignNames (settings : Settings) :
    (lib.renumber move).assignNames settings = (lib.assignNames settings).renumber move :=
  renumber_mapEntities lib fun _ => rfl

end Library

/-! ### Specialization -/

namespace Workshop

def renumber (move : Nat → Nat) (w : Workshop) : Workshop := { w with library := w.library.renumber move }

variable (w : Workshop)

@[simp] theorem renumber_library : (w.renumber move).library = w.library.renumber move := rfl
@[simp] theorem renumber_nextSeq : (w.renumber move).nextSeq = w.nextSeq := rfl
@[simp] theorem renumber_log : (w.renumber move).log = w.log := rfl

theorem renumber_makeInstance (template : Entity) (args : List Ty) (name : String) (seq : Nat) :
    makeInstance (template.renumber move) args name seq = (makeInstance template args name seq).renumber move :=
  rfl

theorem renumber_list (e : Entity) (key : InstanceKey) :
    (w.renumber move).list (e.renumber move) key = (w.list e key).renumber move := by
  simp [list, renumber, Library.renumber, Instance.renumber]

theorem renumber_instantiate (ceiling : Ceiling) (template : Entity) (args : List Ty) (depth : Int) :
    instantiate ceiling (template.renumber move) args depth (w.renumber move) =
      (instantiate ceiling template args depth w).map fun p => (p.1.renumber move, p.2.renumber move) := by
  unfold instantiate
  simp only [Entity.renumber_name, Entity.renumber_generics, renumber_library, Library.renumber_instance?,
    Library.renumber_get?, renumber_nextSeq, renumber_makeInstance, renumber_list]
  cases hinstance : w.library.instance? ⟨template.name, args⟩ with
  | some i => simp [Except.map]
  | none =>
    dsimp only [Option.map_none]
    split
    · rfl
    · split
      · rfl
      · cases w.library.get? (Ty.mangledName template.name args ceiling.dropUnderscores) <;> rfl

theorem renumber_follow (move : Nat → Nat) (ceiling : Ceiling) (excluded : List String) (owner : Entity) (m : Ty.Mention)
    (depth : Nat) : (w.renumber move).follow ceiling excluded (owner.renumber move) m depth =
      (w.follow ceiling excluded owner m depth).map fun p =>
        (p.1.map (Entity.renumber move), p.2.renumber move) := by
  unfold follow
  simp only [renumber_library, Library.renumber_get?]
  cases w.library.get? m.name with
  | none => rfl
  | some target =>
    simp only [Option.map_some, renumber_instantiate, Entity.renumber_isGeneric, Entity.renumber_name]
    cases excluded.contains m.name with
    | true => rfl
    | false =>
      cases target.isGeneric with
      | true =>
        cases m.args.isEmpty with
        | true => rfl
        | false => cases instantiate ceiling target m.args (depth + 1) w <;> rfl
      | false => cases m.args.isEmpty <;> rfl

end Workshop

def WalkFailure.renumber (move : Nat → Nat) (f : WalkFailure) : WalkFailure :=
  ⟨f.error, f.workshop.renumber move⟩

namespace Walk

def renumber (move : Nat → Nat) (w : Walk) : Walk :=
  ⟨w.workshop.renumber move, w.reached, w.queue.map fun p => (p.1.renumber move, p.2)⟩

variable (w : Walk)

theorem renumber_reach (depth : Nat) (found : Option Entity × Workshop) :
    (w.renumber move).reach depth (found.1.map (Entity.renumber move), found.2.renumber move) =
      (w.reach depth found).renumber move := by
  obtain ⟨found, shop⟩ := found
  cases found with
  | none => rfl
  | some e =>
    cases hreached : w.reached.contains e.name with
    | true => simp only [reach, renumber, Option.map_some, Entity.renumber_name, hreached, if_true]
    | false =>
      simp only [reach, renumber, Option.map_some, Entity.renumber_name, hreached, Bool.false_eq_true, if_false,
        List.map_append, List.map_cons, List.map_nil]
      rfl

theorem renumber_visit (move : Nat → Nat) (ceiling : Ceiling) (excluded : List String) (owner : Entity) (depth : Nat)
    (ms : List Ty.Mention) : visit ceiling excluded (owner.renumber move) depth ms (w.renumber move) =
      ((visit ceiling excluded owner depth ms w).map (renumber move)).mapError (WalkFailure.renumber move) := by
  induction ms generalizing w with
  | nil => rfl
  | cons m rest ih =>
    have hfollow := w.workshop.renumber_follow move ceiling excluded owner m depth
    simp only [visit]
    rw [show (w.renumber move).workshop = w.workshop.renumber move from rfl, hfollow]
    cases w.workshop.follow ceiling excluded owner m depth with
    | error e => rfl
    | ok found =>
      dsimp only [Except.map]
      rw [renumber_reach, ih]
      rfl

/-- A walk through entities at other places is the same walk. -/
theorem renumber_run (ceiling : Ceiling) (excluded : List String) :
    run ceiling excluded (w.renumber move) =
      ((run ceiling excluded w).map (renumber move)).mapError (WalkFailure.renumber move) := by
  induction w using run.induct ceiling excluded with
  | case1 w hq =>
    have hq' : (w.renumber move).queue = [] := by rw [renumber, hq, List.map_nil]
    rw [run_of_nil hq, run_of_nil hq']
    rfl
  | case2 w e depth rest hq failure hv =>
    have hq' : (w.renumber move).queue =
        (e.renumber move, depth) :: rest.map fun p => (p.1.renumber move, p.2) := by
      rw [renumber, hq, List.map_cons]
    have hv' := renumber_visit { w with queue := rest } move ceiling excluded e depth e.mentions
    rw [hv] at hv'
    rw [run_of_failure hq hv, run_of_failure hq' hv']
    rfl
  | case3 w e depth rest hq w' hv hrank ih =>
    have hq' : (w.renumber move).queue =
        (e.renumber move, depth) :: rest.map fun p => (p.1.renumber move, p.2) := by
      rw [renumber, hq, List.map_cons]
    have hv' := renumber_visit { w with queue := rest } move ceiling excluded e depth e.mentions
    rw [hv] at hv'
    rw [run_of_visit hq hv, run_of_visit hq' hv', ih]

end Walk

namespace Library

variable (lib : Library)

theorem renumber_makeExternal (name : String) :
    (lib.renumber move).makeExternal name = (lib.makeExternal name).renumber move := by
  have hwithout : (((lib.renumber move).remove? name).map Prod.snd).getD (lib.renumber move) =
      (((lib.remove? name).map Prod.snd).getD lib).renumber move := by
    simp only [remove?, renumber_get?]
    cases lib.get? name with
    | none => rfl
    | some e => exact renumber_erase lib e
  unfold makeExternal
  dsimp only
  rw [hwithout, renumber_external]
  split <;> rfl

theorem renumber_roots (included excluded : List String) : (lib.renumber move).roots included excluded =
    (lib.roots included excluded).map (Entity.renumber move) := renumber_filter lib fun _ => rfl

theorem renumber_dropped (reached : List String) :
    (lib.renumber move).dropped reached = (lib.dropped reached).map (Entity.renumber move) :=
  renumber_filter lib fun _ => rfl

@[simp] theorem renumber_dropLog (e : Entity) : dropLog (e.renumber move) = dropLog e := rfl

theorem renumber_keepReached (reached excluded : List String) :
    (lib.renumber move).keepReached reached excluded = (lib.keepReached reached excluded).renumber move := by
  have hexternal : ∀ (names : List String) (lib : Library), names.foldl makeExternal (lib.renumber move) =
      (names.foldl makeExternal lib).renumber move :=
    fun names lib => List.foldl_hom (renumber move) fun lib name => renumber_makeExternal lib name
  unfold keepReached renameInstances
  rw [renumber_dropped, renumber_foldl _ fun lib e => renumber_erase lib e, hexternal, renumber_instanceName?]
  exact renumber_mapEntities _ fun _ => rfl

end Library

namespace Workshop

variable (w : Workshop)

/-- The walk that a specialization starts with. -/
theorem renumber_start (included excluded : List String) :
    (⟨⟨w.library.renumber move, w.nextSeq, w.log ++ (w.library.renumber move).rootsLog included excluded⟩,
        ((w.library.renumber move).roots included excluded).map (·.name),
        ((w.library.renumber move).roots included excluded).map fun e => (e, 0)⟩ : Walk) =
      Walk.renumber move ⟨⟨w.library, w.nextSeq, w.log ++ w.library.rootsLog included excluded⟩,
        (w.library.roots included excluded).map (·.name),
        (w.library.roots included excluded).map fun e => (e, 0)⟩ := by
  simp [Library.rootsLog, Library.renumber_roots, Walk.renumber, renumber, Function.comp_def]

/-- Specialization does the same wherever the entities stand. -/
theorem renumber_specialize (move : Nat → Nat) (ceiling : Ceiling) (included excluded : List String) :
    (w.renumber move).specialize ceiling included excluded =
      ((w.specialize ceiling included excluded).1.renumber move, (w.specialize ceiling included excluded).2) := by
  unfold specialize
  dsimp only
  rw [renumber_library, renumber_nextSeq, renumber_log, renumber_start, Walk.renumber_run]
  cases Walk.run ceiling excluded ⟨⟨w.library, w.nextSeq, w.log ++ w.library.rootsLog included excluded⟩,
    (w.library.roots included excluded).map (·.name),
    (w.library.roots included excluded).map fun e => (e, 0)⟩ with
  | error failure => rfl
  | ok walk =>
    simp [Except.map, Except.mapError, Walk.renumber, renumber, Library.renumber_keepReached,
      Library.renumber_dropped, List.flatMap_map]

end Workshop

end CrateHeader
