import CrateHeader.Proofs.Coherence
import CrateHeader.Proofs.Failing
import CrateHeader.Proofs.Preserving

/-!
# Declarations that are refused

A declaration is refused if its crate has declared the name before, if it cannot be converted, or if the table has an
entity of the name that no declaration has put there, which is an instance or an opaque type. The first two leave the
builder as it was. The last does not: the declaration has claimed the name and its place when the table refuses it,
so a later declaration of the name is a second one, and all later ones stand one place further on.
`Session.add_refused_run` says this of every state that a session reaches.
-/

namespace CrateHeader

/-- Does an entity have a name that is claimed, or is it an instance or an opaque type? -/
def Entity.IsAccountedFor (claimed : List String) (e : Entity) : Prop :=
  e.name ∈ claimed ∨ e.instanceOf ≠ none ∨ e.kind = .opaqueType

theorem Entity.IsAccountedFor.mono {claimed claimed' : List String} {e : Entity} (h : e.IsAccountedFor claimed)
    (hsub : claimed ⊆ claimed') : e.IsAccountedFor claimed' := h.imp_left fun hname => hsub hname

/-- Nothing but name, kind and origin counts. -/
theorem Entity.IsAccountedFor.congr {claimed : List String} {e e' : Entity} (h : e.IsAccountedFor claimed)
    (hname : e'.name = e.name) (hinstance : e'.instanceOf = e.instanceOf) (hkind : e'.kind = e.kind) :
    e'.IsAccountedFor claimed := by
  unfold IsAccountedFor
  rwa [hname, hinstance, hkind]

/-- Every entity of a table is accounted for. -/
def Library.IsAccountedFor (claimed : List String) (lib : Library) : Prop :=
  ∀ e ∈ lib.entities, e.IsAccountedFor claimed

namespace Builder

variable {b : Builder} {d : Declaration}

/-- The table refuses what no declaration has claimed, what can be converted, and what it has already. -/
theorem add_taken {e : Entity} (hnew : d.ident ∉ b.declared.map Prod.fst)
    (hconvert : (d.convert b.nextIndex).result = .ok e) (htaken : d.ident ∈ b.library.names) :
    (b.add d).2.result = .error (.taken d.ident) := by
  unfold add
  rw [lookup_eq_none_iff.2 hnew]
  dsimp only
  rw [hconvert]
  dsimp only
  rw [if_pos (Library.contains_iff.2 htaken)]

/-- Once it has claimed its name, a declaration is a second one. -/
theorem add_claim (b : Builder) (d : Declaration) :
    ((b.claim d).add d).2.result = .error (.duplicate d.ident d.crate) := by
  have hlookup : (b.claim d).declared.lookup d.ident = some d.crate := by simp [claim]
  unfold add
  rw [hlookup]
  dsimp only
  rw [if_pos rfl]
  rfl

theorem addAll_singleton (b : Builder) (d : Declaration) : (b.addAll [d]).2.result = (b.add d).2.result := by
  unfold addAll
  cases hadd : (b.add d).2.result <;> simp [hadd, addAll]

section Refused

variable {error : BuildError} (h : (b.add d).2.result = .error error)
include h

/-- Only what the table refuses leaves the builder changed. -/
theorem add_eq_self_or_taken : error ≠ .taken d.ident ∧ (b.add d).1 = b ∨
    error = .taken d.ident ∧ (b.add d).1 = b.claim d := by
  rcases add_refused h with ⟨rfl, _, hsame⟩ | ⟨harises, _, hsame⟩ | ⟨htaken, _, _, _, hclaim⟩
  · exact .inl ⟨nofun, hsame⟩
  · refine .inl ⟨?_, hsame⟩
    rintro rfl
    cases harises
  · exact .inr ⟨htaken, hclaim⟩

theorem add_library_eq : (b.add d).1.library = b.library := by
  rcases add_eq_self_or_taken h with ⟨_, hsame⟩ | ⟨_, hclaim⟩
  · rw [hsame]
  · rw [hclaim]
    rfl

theorem add_eq_self_iff : (b.add d).1 = b ↔ error ≠ .taken d.ident := by
  rcases add_eq_self_or_taken h with ⟨hnot, hsame⟩ | ⟨htaken, hclaim⟩
  · exact iff_of_true hsame hnot
  · refine iff_of_false (fun heq => ?_) (not_not.2 htaken)
    have hnext : b.nextIndex + 1 = b.nextIndex := congrArg nextIndex (hclaim.symm.trans heq)
    exact Nat.succ_ne_self _ hnext

/-- To try the declaration once more tells the builders apart if anything does. -/
theorem addAll_add_iff :
    (∀ later, ((b.add d).1.addAll later).2 = (b.addAll later).2) ↔ error ≠ .taken d.ident := by
  refine ⟨fun hsame htaken => ?_, fun hnot later => by rw [(add_eq_self_iff h).2 hnot]⟩
  rcases add_eq_self_or_taken h with ⟨hnot, _⟩ | ⟨_, hclaim⟩
  · exact hnot htaken
  · have hagain := congrArg Logged.result (hsame [d])
    rw [hclaim, addAll_singleton, addAll_singleton, add_claim, h, htaken] at hagain
    cases hagain

theorem eq_taken_iff : error = .taken d.ident ↔ d.ident ∉ b.declared.map Prod.fst ∧
    (∃ e, (d.convert b.nextIndex).result = .ok e) ∧ d.ident ∈ b.library.names := by
  constructor
  · rintro rfl
    rcases add_refused h with ⟨hduplicate, _, _⟩ | ⟨harises, _, _⟩ | ⟨_, hnew, hconvert, htaken, _⟩
    · cases hduplicate
    · cases harises
    · exact ⟨hnew, hconvert, htaken⟩
  · rintro ⟨hnew, ⟨e, hconvert⟩, htaken⟩
    have hrefused := add_taken hnew hconvert htaken
    rw [h] at hrefused
    cases hrefused
    rfl

end Refused

theorem isAccountedFor_add (h : b.library.IsAccountedFor (b.declared.map Prod.fst)) (d : Declaration) :
    (b.add d).1.library.IsAccountedFor ((b.add d).1.declared.map Prod.fst) := by
  have hmore : b.library.IsAccountedFor (d.ident :: b.declared.map Prod.fst) := fun e he =>
    (h e he).mono (List.subset_cons_self _ _)
  cases hadd : (b.add d).2.result with
  | error error =>
    rcases add_refused hadd with ⟨_, _, hsame⟩ | ⟨_, _, hsame⟩ | ⟨_, _, _, _, hclaim⟩
    · rwa [hsame]
    · rwa [hsame]
    · rw [hclaim]
      exact hmore
  | ok _ =>
    rcases add_ok hadd with ⟨_, hsame⟩ | ⟨_, e, hconvert, hnext⟩
    · rwa [hsame]
    · rw [hnext]
      intro x hx
      rcases List.mem_append.1 hx with hx | hx
      · exact hmore x hx
      · obtain ⟨_, _, _, _, _, _, rfl⟩ := Declaration.convert_ok hconvert
        rw [List.mem_singleton.1 hx]
        exact .inl List.mem_cons_self

end Builder

/-! ### Operations that declare nothing -/

namespace Workshop

variable {ceiling : Ceiling} {claimed included excluded : List String} {w w' : Workshop} {template e : Entity}
  {args : List Ty}

theorem isAccountedFor_instantiate {depth : Int} (hw : w.library.IsAccountedFor claimed)
    (h : w.instantiate ceiling template args depth = .ok (e, w')) : w'.library.IsAccountedFor claimed := by
  rcases instantiate_ok h with ⟨_, _, _, rfl⟩ | ⟨_, _, _, _, _, rfl, rfl⟩
  · exact hw
  · intro x hx
    rcases List.mem_append.1 hx with hx | hx
    · exact hw x hx
    · rw [List.mem_singleton.1 hx]
      exact .inr (.inl (by simp [makeInstance]))

theorem isAccountedFor_specialize (hw : w.library.IsAccountedFor claimed) :
    (w.specialize ceiling included excluded).1.library.IsAccountedFor claimed := by
  have hrun : Library.IsAccountedFor claimed
      (Walk.workshopOf (Walk.run ceiling excluded (w.start included excluded))).library :=
    Walk.workshopOf_run (P := fun shop => shop.library.IsAccountedFor claimed)
      (fun _ _ _ _ _ _ hshop h => by
        rcases follow_workshop h with rfl | ⟨_, _, _, _, _, _, hmade⟩
        · exact hshop
        · exact isAccountedFor_instantiate hshop hmade) hw
  cases hwalk : Walk.run ceiling excluded (w.start included excluded) with
  | error failure =>
    rw [hwalk] at hrun
    rw [specialize_of_failure hwalk]
    exact hrun
  | ok walk =>
    rw [hwalk] at hrun
    intro x hx
    rw [(specialize_of_walk hwalk).2, Library.entities_keepReached] at hx
    obtain ⟨kept, hkept, rfl⟩ := List.mem_map.1 hx
    exact (hrun kept (Library.mem_survivors.1 hkept).1).congr rfl rfl (Body.kind_mapTypes _ _)

end Workshop

theorem Library.isAccountedFor_prune {claimed : List String} {lib : Library} (env : Environment) (marks : List String)
    (h : lib.IsAccountedFor claimed) : (lib.prune env marks).library.IsAccountedFor claimed :=
  forall_prune (fun _ he => he.congr rfl rfl kind_prune) (fun _ => .inr (.inr rfl)) (fun _ => .inr (.inr rfl))
    marks h

/-! ### Sessions -/

namespace Session

variable {ceiling : Ceiling} {s : Session}

theorem isAccountedFor_step (h : s.library.IsAccountedFor (s.builder.declared.map Prod.fst)) (op : Operation) :
    (s.step ceiling op).library.IsAccountedFor ((s.step ceiling op).builder.declared.map Prod.fst) := by
  -- only an addition claims names
  cases op with
  | add d => exact Builder.isAccountedFor_add h d
  | prune env marks => exact Library.isAccountedFor_prune env marks h
  | instantiate template args depth =>
    simp only [step]
    split
    · exact h
    · next made => exact Workshop.isAccountedFor_instantiate (w := s.workshop) h made
  | specialize included excluded => exact Workshop.isAccountedFor_specialize (w := s.workshop) h
  | assignNames settings =>
    intro x hx
    obtain ⟨e, he, rfl⟩ := List.mem_map.1 hx
    exact (h e he).congr rfl rfl (e.kind_assignNames settings)
  | remove name =>
    simp only [step]
    split
    · exact h
    · next hremoved =>
      obtain ⟨_, _, heq⟩ := Option.map_eq_some_iff.1 hremoved
      cases heq
      exact fun e he => h e (List.mem_filter.1 he).1

/-- In a session the table has nothing but what was declared, instances and opaque types. -/
theorem isAccountedFor_run (ceiling : Ceiling) (external : List String) (ops : List Operation) :
    ((start external).run ceiling ops).library.IsAccountedFor
      (((start external).run ceiling ops).builder.declared.map Prod.fst) := by
  induction ops using List.reverseRecOn with
  | nil => exact fun _ h => nomatch h
  | append_singleton ops op ih =>
    rw [run_append]
    exact isAccountedFor_step ih op

/-- In every session a declaration that is refused leaves the table as it is. It leaves the builder as it is, and later
declarations have the answers that they would have had, unless the table refuses it: then the name is claimed and the
place counted. That happens to what can be converted under a name that no declaration has claimed and that an
instance or an opaque type of the table has. -/
theorem add_refused_run (ceiling : Ceiling) (external : List String) (ops : List Operation) (d : Declaration)
    {error : BuildError} (h : (((start external).run ceiling ops).builder.add d).2.result = .error error) :
    let b := ((start external).run ceiling ops).builder
    (b.add d).1.library = b.library ∧
      ((b.add d).1 = b ↔ error ≠ .taken d.ident) ∧
      ((∀ later, ((b.add d).1.addAll later).2 = (b.addAll later).2) ↔ error ≠ .taken d.ident) ∧
      (error = .taken d.ident → (b.add d).1 = b.claim d) ∧
      (error = .taken d.ident ↔ d.ident ∉ b.declared.map Prod.fst ∧ (∃ e, (d.convert b.nextIndex).result = .ok e) ∧
        ∃ e ∈ b.library.entities, e.name = d.ident ∧ (e.instanceOf ≠ none ∨ e.kind = .opaqueType)) := by
  intro b
  have hclaim : error = .taken d.ident → (b.add d).1 = b.claim d := fun htaken =>
    (Builder.add_eq_self_or_taken h).elim (fun hsame => absurd htaken hsame.1) And.right
  refine ⟨Builder.add_library_eq h, Builder.add_eq_self_iff h, Builder.addAll_add_iff h, hclaim, ?_⟩
  rw [Builder.eq_taken_iff h]
  refine and_congr_right fun hnew => and_congr_right fun _ => ⟨fun htaken => ?_, ?_⟩
  · obtain ⟨e, he, hname⟩ := List.mem_map.1 htaken
    have haccounted := isAccountedFor_run ceiling external ops e he
    exact ⟨e, he, hname, haccounted.resolve_left (hname ▸ hnew)⟩
  · rintro ⟨e, he, hname, _⟩
    exact List.mem_map.2 ⟨e, he, hname⟩

/-- An instance is made, and then something is declared under its name. -/
def makingSteps : List Operation := [
  .add ⟨"Slot", [], ["T"], "crate", true, [], .struct [⟨"item", .path "T" [], []⟩]⟩,
  .instantiate slot [.primitive .i32] 1]

def namesake : Declaration := .bare .struct "Slot_i32" "crate"

theorem add_namesake : (((start []).run ⟨4, false⟩ makingSteps).builder.add namesake).2.result =
    .error (.taken "Slot_i32") := by cbv

/-- What is refused because an instance has its name is remembered as declared. -/
theorem add_refused_run_namesake :
    (((start []).run ⟨4, false⟩ makingSteps).builder.add namesake).2.result = .error (.taken "Slot_i32") ∧
      (((start []).run ⟨4, false⟩ makingSteps).builder.add namesake).1 =
        ((start []).run ⟨4, false⟩ makingSteps).builder.claim namesake ∧
      (((start []).run ⟨4, false⟩ makingSteps).builder.add namesake).1 ≠
        ((start []).run ⟨4, false⟩ makingSteps).builder := by
  obtain ⟨_, hsame, _, hclaim, _⟩ := add_refused_run ⟨4, false⟩ [] makingSteps namesake add_namesake
  exact ⟨add_namesake, hclaim rfl, fun heq => hsame.1 heq rfl⟩

/-- The name that the table refuses is a duplicate when it is tried again. -/
theorem not_add_refused_unchanged :
    ¬ ∀ (ceiling : Ceiling) (external : List String) (ops : List Operation) (d : Declaration) (error : BuildError),
      (((start external).run ceiling ops).builder.add d).2.result = .error error →
        (((start external).run ceiling ops).builder.add d).1 = ((start external).run ceiling ops).builder := by
  intro h
  have hsame := h ⟨4, false⟩ [] makingSteps namesake _ add_namesake
  exact (Builder.add_eq_self_iff add_namesake).1 hsame rfl

end Session

end CrateHeader
