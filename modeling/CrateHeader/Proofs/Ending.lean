import Mathlib
import CrateHeader.Proofs.Specializing

/-!
# Specialization ends

However many instances the templates ask for, only finitely many turns of the walk follow each other: a turn
reaches something that was there before, or it puts in the place of one entity of the queue finitely many
instances that are deeper, and none is deeper than the ceiling. The depth that the queue has for an entity counts at
least the instances that were made out of each other on the way to it, so on success no instance is farther
than the ceiling from where the walk started.
-/

namespace CrateHeader

/-- A way to a member of the surface, with the number of times that it leads to an instance. -/
inductive Chain (lib : Library) (included excluded : List String) : Nat → Member → Prop
  | root {e : Entity} (he : e ∈ lib.entities) (hconcrete : e.isGeneric = false)
      (hkept : e.name ∉ excluded) (hwanted : e.exported = true ∨ e.name ∈ included) :
      Chain lib included excluded 0 (.declared e)
  | concrete {n : Nat} {s : Member} {m : Ty.Mention} {t : Entity} (hs : Chain lib included excluded n s)
      (hm : m ∈ s.mentions) (hkept : m.name ∉ excluded) (ht : lib.get? m.name = some t)
      (hconcrete : t.isGeneric = false) : Chain lib included excluded n (.declared t)
  | generic {n : Nat} {s : Member} {m : Ty.Mention} {t : Entity} (hs : Chain lib included excluded n s)
      (hm : m ∈ s.mentions) (hkept : m.name ∉ excluded) (ht : lib.get? m.name = some t)
      (hgeneric : t.isGeneric = true) : Chain lib included excluded (n + 1) (.made t m.args)

/-- An instance at the end of a chain, neither the chain nor the arguments deeper than the ceiling. -/
def IsWithin (lib : Library) (ceiling : Ceiling) (included excluded : List String) (i : Instance) : Prop :=
  ∃ t args n, Chain lib included excluded n (.made t args) ∧ (n : Int) ≤ ceiling.maxDepth ∧
    (∀ a ∈ args, (a.depth : Int) ≤ ceiling.maxDepth) ∧ i.key = ⟨t.name, args⟩ ∧
    i.made = (Member.made t args).entity ceiling.dropUnderscores i.made.seq

namespace Walk

variable {base : Library} {ceiling : Ceiling} {included excluded : List String} {w w' : Walk} {shop : Workshop}
  {owner e : Entity} {m : Ty.Mention} {left : List Ty.Mention} {depth firstSeq n : Nat} {s : Member}

/-! ### Turns -/

/-- A walk comes to its end after some turns: nothing is left to visit, or the last visit fails. -/
inductive EndsAfter (ceiling : Ceiling) (excluded : List String) : Nat → Walk → Except WalkFailure Walk → Prop
  | done {w : Walk} (hq : w.queue = []) : EndsAfter ceiling excluded 0 w (.ok w)
  | failed {w : Walk} {e : Entity} {depth : Nat} {rest : List (Entity × Nat)} {failure : WalkFailure}
      (hq : w.queue = (e, depth) :: rest)
      (hv : visit ceiling excluded e depth e.mentions { w with queue := rest } = .error failure) :
      EndsAfter ceiling excluded 1 w (.error failure)
  | turn {n : Nat} {w w' : Walk} {result : Except WalkFailure Walk} (hturn : Turn ceiling excluded w w')
      (hrest : EndsAfter ceiling excluded n w' result) : EndsAfter ceiling excluded (n + 1) w result

/-- Turns do not follow each other forever, whatever the walk. -/
theorem wellFounded_turn (ceiling : Ceiling) (excluded : List String) :
    WellFounded fun w' w => Turn ceiling excluded w w' := by
  refine Subrelation.wf ?_ (InvImage.wf (rank ceiling) WellFoundedRelation.wf)
  rintro w' w ⟨e, depth, rest, hq, hv⟩
  exact rank_lt_of_extends hq (extends_visit hv)

theorem exists_endsAfter (ceiling : Ceiling) (excluded : List String) (w : Walk) :
    ∃ n, EndsAfter ceiling excluded n w (run ceiling excluded w) := by
  induction w using (wellFounded_turn ceiling excluded).induction with
  | _ w ih =>
    cases hq : w.queue with
    | nil => exact ⟨0, run_of_nil hq ▸ .done hq⟩
    | cons x rest =>
      obtain ⟨e, depth⟩ := x
      cases hv : visit ceiling excluded e depth e.mentions { w with queue := rest } with
      | error failure => exact ⟨1, run_of_failure hq hv ▸ .failed hq hv⟩
      | ok w' =>
        have hturn : Turn ceiling excluded w w' := ⟨e, depth, rest, hq, hv⟩
        obtain ⟨n, hn⟩ := ih w' hturn
        exact ⟨n + 1, run_of_visit hq hv ▸ .turn hturn hn⟩

/-! ### Depth -/

/-- What waits is no farther from the start than the queue has it, and what is made is within the ceiling. -/
structure Bounded (base : Library) (ceiling : Ceiling) (included excluded : List String) (w : Walk) : Prop where
  waiting : ∀ x ∈ w.queue, ∃ s n seq, Chain base included excluded n s ∧ n ≤ x.2 ∧
    x.1 = s.entity ceiling.dropUnderscores seq
  made : ∀ i ∈ w.workshop.library.instances, IsWithin base ceiling included excluded i

theorem Bounded.reach (hw : Bounded base ceiling included excluded w)
    (hmade : ∀ i ∈ shop.library.instances, IsWithin base ceiling included excluded i)
    (hnew : e.name ∉ w.reached → ∃ s n seq, Chain base included excluded n s ∧
      n ≤ (if e.instanceOf.isSome then depth + 1 else depth) ∧ e = s.entity ceiling.dropUnderscores seq) :
    Bounded base ceiling included excluded (w.reach depth (some e, shop)) where
  waiting := by
    intro x hx
    by_cases hseen : e.name ∈ w.reached
    · have hcontains : w.reached.contains e.name = true := by simpa using hseen
      simp only [Walk.reach, hcontains, if_true] at hx
      exact hw.waiting x hx
    · have hcontains : w.reached.contains e.name = false := by simpa using hseen
      simp only [Walk.reach, hcontains, Bool.false_eq_true, if_false] at hx
      rcases List.mem_append.1 hx with hx | hx
      · exact hw.waiting x hx
      · rw [List.mem_singleton.1 hx]
        exact hnew hseen
  made := by rwa [workshop_reach]

/-- Following a path of an entity at the end of a chain makes the chain longer by one at most. -/
theorem Bounded.step {found : Option Entity × Workshop} (hw : Bounded base ceiling included excluded w)
    (hinv : Inv base firstSeq ceiling.dropUnderscores included excluded owner (m :: left) w)
    (hs : Chain base included excluded n s) (hn : n ≤ depth) (hm : m ∈ s.mentions)
    (h : w.workshop.follow ceiling excluded owner m depth = .ok found) :
    Bounded base ceiling included excluded (w.reach depth found) := by
  obtain ⟨found, shop⟩ := found
  have hbase : ∀ t ∈ base.entities, w.workshop.library.get? m.name = some t → base.get? m.name = some t := by
    intro t ht hget
    exact (Library.get?_eq_some_iff hinv.grown.isTable_base).2 ⟨ht, Library.name_of_get? hget⟩
  rcases Workshop.follow_ok h with ⟨rfl, rfl, _⟩ | ⟨t, ht, hkept, hconcrete, _, rfl, rfl⟩ |
    ⟨t, e, ht, hkept, hgeneric, _, rfl, hmade⟩
  · exact hw
  · refine hw.reach hw.made fun hnew => ?_
    rcases hinv.grown.mem_entities.1 (Library.mem_of_get? ht) with hmem | ⟨i, hi, rfl⟩
    · refine ⟨.declared t, n, 0, .concrete hs hm hkept (hbase t hmem ht) hconcrete, ?_, rfl⟩
      split <;> omega
    · -- an instance is reached as soon as it is made
      exact absurd (hinv.made i hi) hnew
  · have hmem := hinv.grown.mem_base_of_isGeneric (Library.mem_of_get? ht) hgeneric
    have hchain := Chain.generic hs hm hkept (hbase t hmem ht) hgeneric
    rcases Workshop.instantiate_ok hmade with ⟨i, hi, rfl, rfl⟩ | ⟨_, _, hdepth, hargs, _, rfl, rfl⟩
    · have hi := List.mem_of_find?_eq_some hi
      refine hw.reach hw.made fun hnew => ?_
      rw [hinv.grown.entityOf_eq hi] at hnew
      exact absurd (hinv.made i hi) hnew
    · refine hw.reach ?_ fun _ => ⟨.made t m.args, n + 1, _, hchain, Nat.succ_le_succ hn, rfl⟩
      intro i hi
      rcases List.mem_append.1 hi with hi | hi
      · exact hw.made i hi
      · rw [List.mem_singleton.1 hi]
        exact ⟨t, m.args, n + 1, hchain, by omega, hargs, rfl, rfl⟩

theorem Bounded.turn (hw : Bounded base ceiling included excluded w)
    (hinv : Inv base firstSeq ceiling.dropUnderscores included excluded owner [] w)
    (h : Turn ceiling excluded w w') : Bounded base ceiling included excluded w' := by
  obtain ⟨e, depth, rest, hq, hv⟩ := h
  obtain ⟨s, n, seq, hs, hn, rfl⟩ := hw.waiting _ (hq ▸ List.mem_cons_self)
  have hrest : Bounded base ceiling included excluded { w with queue := rest } :=
    ⟨fun x hx => hw.waiting x (hq ▸ List.mem_cons_of_mem _ hx), hw.made⟩
  refine (visit_induction (P := fun left w => Visiting base firstSeq ceiling.dropUnderscores included excluded
    (s.entity ceiling.dropUnderscores seq) left w ∧ Bounded base ceiling included excluded w)
    ?_ ⟨hinv.visiting hq, hrest⟩ hv).2
  rintro m left w found ⟨hvisiting, hw⟩ hfound
  have hm := hvisiting.own m List.mem_cons_self
  rw [Member.mentions_entity] at hm
  exact ⟨hvisiting.step rfl hfound, hw.step hvisiting.inv hs hn hm hfound⟩

theorem Bounded.run (hw : Bounded base ceiling included excluded w)
    (hinv : Inv base firstSeq ceiling.dropUnderscores included excluded owner [] w)
    (h : run ceiling excluded w = .ok w') : Bounded base ceiling included excluded w' := by
  refine (run_induction (P := fun w => (∃ owner, Inv base firstSeq ceiling.dropUnderscores included excluded
    owner [] w) ∧ Bounded base ceiling included excluded w) ?_ ⟨⟨owner, hinv⟩, hw⟩ h).1.2
  rintro w w' ⟨⟨owner, hinv⟩, hw⟩ hturn
  exact ⟨hinv.turn rfl hturn, hw.turn hinv hturn⟩

end Walk

namespace Workshop

variable {ceiling : Ceiling} {included excluded : List String} {w w' : Workshop}

theorem bounded_start (hfresh : w.library.instances = []) :
    Walk.Bounded w.library ceiling included excluded (w.start included excluded) where
  waiting := by
    intro x hx
    obtain ⟨e, he, rfl⟩ := List.mem_map.1 hx
    obtain ⟨hmem, hroot⟩ := List.mem_filter.1 he
    have hroot : e.name ∉ excluded ∧ e.isGeneric = false ∧ (e.exported = true ∨ e.name ∈ included) := by
      simpa [and_assoc] using hroot
    exact ⟨.declared e, 0, 0, .root hmem hroot.2.1 hroot.1 hroot.2.2, le_rfl, rfl⟩
  made := by
    intro i hi
    rw [show (w.start included excluded).workshop.library.instances = [] from hfresh] at hi
    cases hi

theorem specialize_result (ceiling : Ceiling) (included excluded : List String) (w : Workshop) :
    (w.specialize ceiling included excluded).2 =
      ((Walk.run ceiling excluded (w.start included excluded)).map fun _ => ()).mapError (·.error) := by
  unfold specialize start
  dsimp only
  split
  · next failure hrun =>
    rw [hrun]
    rfl
  · next walk hrun =>
    rw [hrun]
    rfl

/-- Specialization ends after finitely many turns, with success or with an error, even where templates ask for
instances without end. Each instance that a success has made is reached from where the walk started through no
more instances than the ceiling allows, at arguments that nest no deeper. -/
theorem specialize_ends (htable : w.library.IsTable) (hfresh : w.library.instances = []) :
    (∃ turns result, Walk.EndsAfter ceiling excluded turns (w.start included excluded) result ∧
        (w.specialize ceiling included excluded).2 = (result.map fun _ => ()).mapError (·.error)) ∧
      ∀ w', w.specialize ceiling included excluded = (w', .ok ()) →
        ∀ i ∈ w'.library.instances, IsWithin w.library ceiling included excluded i := by
  constructor
  · obtain ⟨turns, hends⟩ := Walk.exists_endsAfter ceiling excluded (w.start included excluded)
    exact ⟨turns, _, hends, specialize_result ceiling included excluded w⟩
  · intro w' h i hi
    obtain ⟨walk, hrun, hlib⟩ := specialize_run h
    have hbounded := (bounded_start hfresh).run (inv_start_start htable hfresh) hrun
    have hrecorded : (i.key, i.made) ∈ walk.workshop.library.recorded := by
      rw [← Library.recorded_keepReached, ← hlib]
      exact List.mem_map_of_mem hi
    obtain ⟨made, hmade, heq⟩ := List.mem_map.1 hrecorded
    obtain ⟨hkey, hentity⟩ := Prod.mk.inj heq
    have hwithin := hbounded.made made hmade
    unfold IsWithin at hwithin ⊢
    rwa [hkey, hentity] at hwithin

/-- A template that asks for an instance of itself at ever deeper arguments. -/
def nest : Workshop where
  library := {
    entities := [
      { Entity.bare "Nest" 0 (.struct [.bare "next"
          (.pointer (.path "Nest" [.path "Nest" [.path "T" []]]) true true)]) with generics := ["T"] },
      .bare "Root" 1 (.struct [.bare "nest" (.path "Nest" [.primitive .i32])])]
    instances := []
    external := [] }
  nextSeq := 1
  log := []

theorem specialize_ends_nest : nest.library.IsTable ∧ nest.library.instances = [] ∧
    (nest.specialize ⟨1, false⟩ [] []).2 = .error (.tooDeep "Nest" "Nest<Nest<i32>>" 1) ∧
    (∃ turns result, Walk.EndsAfter ⟨1, false⟩ [] turns (nest.start [] []) result ∧
      (nest.specialize ⟨1, false⟩ [] []).2 = (result.map fun _ => ()).mapError (·.error)) ∧
    shelf.library.IsTable ∧ shelf.library.instances = [] ∧
    ∃ w', shelf.specialize ⟨4, false⟩ [] [] = (w', .ok ()) ∧ w'.library.instances.length = 1 ∧
      ∀ i ∈ w'.library.instances, IsWithin shelf.library ⟨4, false⟩ [] [] i := by
  have hnest : nest.library.IsTable := by unfold Library.IsTable; decide
  have hdeep : (nest.specialize ⟨1, false⟩ [] []).2 = .error (.tooDeep "Nest" "Nest<Nest<i32>>" 1) := by cbv
  have hok : (shelf.specialize ⟨4, false⟩ [] []).2 = .ok () := by cbv
  have hmade : (shelf.specialize ⟨4, false⟩ [] []).1.library.instances.length = 1 := by cbv
  exact ⟨hnest, rfl, hdeep, (specialize_ends hnest rfl).1, isTable_shelf, rfl, _, Prod.ext rfl hok, hmade,
    (specialize_ends isTable_shelf rfl).2 _ (Prod.ext rfl hok)⟩

end Workshop

end CrateHeader
