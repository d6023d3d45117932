import CrateHeader.Proofs.Instances
import CrateHeader.Proofs.Substituting

/-!
# Walking the surface

The surface of a library is the least set that has every concrete entity that is exported or asked for and
is closed under following outer paths: to the concrete entity of a name, or to the instance of a template
at the arguments of the path. A path may also spell the name of an instance that is made already; it then
leads to a member that the surface has anyway, so it needs no rule.

A walk reaches what is on the surface and nothing else. Each step keeps `Walk.Inv`: what is reached stands
for a member of the surface, and the paths of what is reached are followed unless it still waits in the
queue.
-/

namespace CrateHeader

/-- What a walk may reach: an entity of the library as it is, or a template at some arguments. -/
inductive Member where
  | declared (e : Entity)
  | made (template : Entity) (args : List Ty)

namespace Member

def name (dropUnderscores : Bool) : Member → String
  | declared e => e.name
  | made t args => Ty.mangledName t.name args dropUnderscores

/-- The outer paths of a member; an instance has those of its template with the parameters replaced. -/
def mentions : Member → List Ty.Mention
  | declared e => e.mentions
  | made t args => (t.mapTypes (Ty.substitute (Ty.bindings t.generics args))).mentions

def entity (dropUnderscores : Bool) (seq : Nat) : Member → Entity
  | declared e => e
  | made t args => Workshop.makeInstance t args (Ty.mangledName t.name args dropUnderscores) seq

/-- The references of a member are those that were declared; in an instance they are those of the template, with
every parameter replaced by its argument. -/
def HasReferences : Member → List Ty → Prop
  | declared e, types => types = e.body.types
  | made t args, types => List.Forall₂ (Ty.Instantiates t.generics args) t.body.types types

@[simp] theorem name_entity (dropUnderscores : Bool) (seq : Nat) (s : Member) :
    (s.entity dropUnderscores seq).name = s.name dropUnderscores := by
  cases s <;> rfl

@[simp] theorem mentions_entity (dropUnderscores : Bool) (seq : Nat) (s : Member) :
    (s.entity dropUnderscores seq).mentions = s.mentions := by
  cases s <;> rfl

theorem hasReferences_entity (dropUnderscores : Bool) (seq : Nat) (s : Member) :
    s.HasReferences (s.entity dropUnderscores seq).body.types := by
  cases s with
  | declared e => rfl
  | made t args => exact Body.instantiates_types t.generics args t.body

/-- The outer paths of a member are those of its references. -/
theorem exists_references (s : Member) : ∃ types, s.HasReferences types ∧ s.mentions = types.flatMap Ty.paths := by
  refine ⟨_, s.hasReferences_entity false 0, ?_⟩
  rw [← mentions_entity false 0]
  rfl

end Member

/-- The surface of a library. -/
inductive OnSurface (lib : Library) (included excluded : List String) : Member → Prop where
  | root {e : Entity} (he : e ∈ lib.entities) (hconcrete : e.isGeneric = false)
      (hkept : e.name ∉ excluded) (hwanted : e.exported = true ∨ e.name ∈ included) :
      OnSurface lib included excluded (.declared e)
  | concrete {s : Member} {m : Ty.Mention} {t : Entity} (hs : OnSurface lib included excluded s)
      (hm : m ∈ s.mentions) (hkept : m.name ∉ excluded) (ht : lib.get? m.name = some t)
      (hconcrete : t.isGeneric = false) : OnSurface lib included excluded (.declared t)
  | generic {s : Member} {m : Ty.Mention} {t : Entity} (hs : OnSurface lib included excluded s)
      (hm : m ∈ s.mentions) (hkept : m.name ∉ excluded) (ht : lib.get? m.name = some t)
      (hgeneric : t.isGeneric = true) : OnSurface lib included excluded (.made t m.args)

namespace Walk

variable {base : Library} {ceiling : Ceiling} {included excluded : List String} {w w' : Walk}
  {shop : Workshop} {owner owner' e : Entity} {m : Ty.Mention} {left : List Ty.Mention} {depth : Nat}
  {firstSeq : Nat} {dropUnderscores : Bool}

/-- Nothing that a path leads to on the surface is missing from a walk. -/
def Followed (base : Library) (excluded : List String) (w : Walk) (m : Ty.Mention) : Prop :=
  m.name ∉ excluded → ∀ t, base.get? m.name = some t →
    (t.isGeneric = false → t.name ∈ w.reached) ∧
    (t.isGeneric = true → ∃ i ∈ w.workshop.library.instances, i.key = ⟨t.name, m.args⟩)

/-- A walk in the middle of a visit; of the owner, the paths that are left may not be followed yet. -/
structure Inv (base : Library) (firstSeq : Nat) (dropUnderscores : Bool) (included excluded : List String)
    (owner : Entity) (left : List Ty.Mention) (w : Walk) : Prop where
  grown : Workshop.Grown base firstSeq dropUnderscores w.workshop
  listed : ∀ name ∈ w.reached, name ∈ w.workshop.library.names
  declared : ∀ e ∈ base.entities, e.name ∈ w.reached → OnSurface base included excluded (.declared e)
  copied : ∀ i ∈ w.workshop.library.instances, ∃ t args, OnSurface base included excluded (.made t args) ∧
    i.made = (Member.made t args).entity dropUnderscores i.made.seq
  made : ∀ i ∈ w.workshop.library.instances, i.name ∈ w.reached
  waiting : ∀ x ∈ w.queue, x.1 ∈ w.workshop.library.entities ∧ x.1.name ∈ w.reached
  roots : ∀ e ∈ base.roots included excluded, e.name ∈ w.reached
  followed : ∀ e ∈ w.workshop.library.entities, e.name ∈ w.reached →
    (∃ d, (e, d) ∈ w.queue) ∨
      ∀ m ∈ e.mentions, Followed base excluded w m ∨ (e = owner ∧ m ∈ left)

theorem Inv.sound (hw : Inv base firstSeq dropUnderscores included excluded owner left w)
    (he : e ∈ w.workshop.library.entities) (hreached : e.name ∈ w.reached) :
    ∃ s seq, OnSurface base included excluded s ∧ e = s.entity dropUnderscores seq := by
  rcases hw.grown.mem_entities.1 he with hbase | ⟨i, hi, rfl⟩
  · exact ⟨.declared e, 0, hw.declared e hbase hreached, rfl⟩
  · obtain ⟨t, args, hs, hmade⟩ := hw.copied i hi
    exact ⟨.made t args, i.made.seq, hs, hmade⟩

/-! ### One step -/

theorem workshop_reach : (w.reach depth (some e, shop)).workshop = shop := by
  simp only [reach]
  split <;> rfl

theorem workshop_reach_eq (found : Option Entity × Workshop)
    (h : w.workshop.follow ceiling excluded owner m depth = .ok found) :
    (w.reach depth found).workshop = found.2 := by
  obtain ⟨_ | e, shop⟩ := found
  · rcases Workshop.follow_ok h with ⟨_, rfl, _⟩ | ⟨_, _, _, _, _, hfound, _⟩ | ⟨_, _, _, _, _, _, hfound, _⟩
    · rfl
    · cases hfound
    · cases hfound
  · exact workshop_reach

theorem mem_reached_reach {name : String} :
    name ∈ (w.reach depth (some e, shop)).reached ↔ name = e.name ∨ name ∈ w.reached := by
  simp only [reach]
  split
  · next h =>
    have hmem : e.name ∈ w.reached := by simpa using h
    constructor
    · exact Or.inr
    · rintro (rfl | h)
      · exact hmem
      · exact h
  · exact List.mem_cons

theorem subset_queue_reach {x : Entity × Nat} (hx : x ∈ w.queue) :
    x ∈ (w.reach depth (some e, shop)).queue := by
  simp only [reach]
  split
  · exact hx
  · exact List.mem_append_left _ hx

theorem of_mem_queue_reach {x : Entity × Nat} (hx : x ∈ (w.reach depth (some e, shop)).queue) :
    x ∈ w.queue ∨ x.1 = e := by
  simp only [reach] at hx
  split at hx
  · exact Or.inl hx
  · rcases List.mem_append.1 hx with hx | hx
    · exact Or.inl hx
    · rw [List.mem_singleton.1 hx]
      exact Or.inr rfl

theorem exists_mem_queue_reach (hnew : e.name ∉ w.reached) :
    ∃ d, (e, d) ∈ (w.reach depth (some e, shop)).queue := by
  have hcontains : w.reached.contains e.name = false := by simpa using hnew
  simp only [reach, hcontains, Bool.false_eq_true, if_false]
  exact ⟨_, List.mem_append_right _ (List.mem_singleton.2 rfl)⟩

theorem Followed.mono (h : Followed base excluded w m) (hreached : ∀ n ∈ w.reached, n ∈ w'.reached)
    (hmade : ∀ i ∈ w.workshop.library.instances, i ∈ w'.workshop.library.instances) :
    Followed base excluded w' m := by
  intro hkept t ht
  obtain ⟨hconcrete, hgeneric⟩ := h hkept t ht
  refine ⟨fun h => hreached _ (hconcrete h), fun h => ?_⟩
  obtain ⟨i, hi, hkey⟩ := hgeneric h
  exact ⟨i, hmade i hi, hkey⟩

namespace Inv

variable (hw : Inv base firstSeq dropUnderscores included excluded owner (m :: left) w)
include hw

/-- Where a path leads nowhere new, it is followed. -/
theorem skip (hm : Followed base excluded w m) :
    Inv base firstSeq dropUnderscores included excluded owner left w := by
  refine { hw with followed := fun e he hreached => ?_ }
  rcases hw.followed e he hreached with hqueue | hfollowed
  · exact Or.inl hqueue
  · refine Or.inr fun m' hm' => ?_
    rcases hfollowed m' hm' with h | ⟨howner, hleft⟩
    · exact Or.inl h
    · rcases List.mem_cons.1 hleft with rfl | hleft
      · exact Or.inl hm
      · exact Or.inr ⟨howner, hleft⟩

/-- A walk arrives at an entity that stands for a member of the surface. -/
theorem arrive (hgrown : Workshop.Grown base firstSeq dropUnderscores shop)
    (hold : ∀ i ∈ w.workshop.library.instances, i ∈ shop.library.instances)
    (hnew : ∀ i ∈ shop.library.instances, i ∈ w.workshop.library.instances ∨ i.made = e)
    (he : e ∈ shop.library.entities)
    (hdeclared : e ∈ base.entities → OnSurface base included excluded (.declared e))
    (hcopied : ∀ i ∈ shop.library.instances, i.made = e →
      ∃ t args, OnSurface base included excluded (.made t args) ∧
        i.made = (Member.made t args).entity dropUnderscores i.made.seq)
    (hm : Followed base excluded (w.reach depth (some e, shop)) m) :
    Inv base firstSeq dropUnderscores included excluded owner left (w.reach depth (some e, shop)) := by
  have hkeep : ∀ x ∈ w.workshop.library.entities, x ∈ shop.library.entities := by
    intro x hx
    rcases hw.grown.mem_entities.1 hx with hbase | ⟨i, hi, hmade⟩
    · exact hgrown.mem_entities.2 (Or.inl hbase)
    · exact hgrown.mem_entities.2 (Or.inr ⟨i, hold i hi, hmade⟩)
  have hcases : ∀ x ∈ shop.library.entities, x = e ∨ x ∈ w.workshop.library.entities := by
    intro x hx
    rcases hgrown.mem_entities.1 hx with hbase | ⟨i, hi, hmade⟩
    · exact Or.inr (hw.grown.mem_entities.2 (Or.inl hbase))
    · rcases hnew i hi with hi | hi
      · exact Or.inr (hw.grown.mem_entities.2 (Or.inr ⟨i, hi, hmade⟩))
      · exact Or.inl (hmade.symm.trans hi)
  -- an entity whose name the walk had reached is one of the table that it had
  have hbefore : ∀ x ∈ shop.library.entities, x.name ∈ w.reached → x ∈ w.workshop.library.entities := by
    intro x hx hreached
    obtain ⟨y, hy, hname⟩ := List.mem_map.1 (hw.listed _ hreached)
    rwa [← Library.eq_of_name_eq hgrown.table (hkeep y hy) hx hname]
  have hreach : ∀ n ∈ w.reached, n ∈ (w.reach depth (some e, shop)).reached :=
    fun n hn => mem_reached_reach.2 (Or.inr hn)
  constructor
  case grown => rwa [workshop_reach]
  case listed =>
    intro n hn
    rw [workshop_reach]
    rcases mem_reached_reach.1 hn with rfl | hn
    · exact List.mem_map_of_mem he
    · obtain ⟨y, hy, rfl⟩ := List.mem_map.1 (hw.listed n hn)
      exact List.mem_map_of_mem (hkeep y hy)
  case declared =>
    intro x hx hn
    rcases mem_reached_reach.1 hn with hname | hn
    · have hmem := hgrown.mem_entities.2 (Or.inl hx)
      obtain rfl := Library.eq_of_name_eq hgrown.table hmem he hname
      exact hdeclared hx
    · exact hw.declared x hx hn
  case copied =>
    intro i hi
    rw [workshop_reach] at hi
    rcases hnew i hi with hold | hmade
    · exact hw.copied i hold
    · exact hcopied i hi hmade
  case made =>
    intro i hi
    rw [workshop_reach] at hi
    rcases hnew i hi with hi | rfl
    · exact hreach _ (hw.made i hi)
    · exact mem_reached_reach.2 (Or.inl rfl)
  case waiting =>
    intro x hx
    rw [workshop_reach]
    rcases of_mem_queue_reach hx with hx | hx
    · obtain ⟨hmem, hn⟩ := hw.waiting x hx
      exact ⟨hkeep _ hmem, hreach _ hn⟩
    · rw [hx]
      exact ⟨he, mem_reached_reach.2 (Or.inl rfl)⟩
  case roots => exact fun x hx => hreach _ (hw.roots x hx)
  case followed =>
    intro x hx hn
    rw [workshop_reach] at hx
    by_cases hseen : x.name ∈ w.reached
    · rcases hw.followed x (hbefore x hx hseen) hseen with ⟨d, hd⟩ | hfollowed
      · exact Or.inl ⟨d, subset_queue_reach hd⟩
      · refine Or.inr fun m' hm' => ?_
        rcases hfollowed m' hm' with h | ⟨howner, hleft⟩
        · exact Or.inl (h.mono hreach (by rwa [workshop_reach]))
        · rcases List.mem_cons.1 hleft with rfl | hleft
          · exact Or.inl hm
          · exact Or.inr ⟨howner, hleft⟩
    · have hname : x.name = e.name := (mem_reached_reach.1 hn).resolve_right hseen
      obtain rfl := Library.eq_of_name_eq hgrown.table hx he hname
      exact Or.inl (exists_mem_queue_reach hseen)

/-- Following one path of an owner that is reached keeps the invariant. -/
theorem step {found : Option Entity × Workshop} (howner : owner ∈ w.workshop.library.entities)
    (hreached : owner.name ∈ w.reached) (hm : m ∈ owner.mentions)
    (hdrop : ceiling.dropUnderscores = dropUnderscores)
    (h : w.workshop.follow ceiling excluded owner m depth = .ok found) :
    Inv base firstSeq dropUnderscores included excluded owner left (w.reach depth found) := by
  obtain ⟨found, shop⟩ := found
  obtain ⟨s, seq, hs, rfl⟩ := hw.sound howner hreached
  rw [Member.mentions_entity] at hm
  have hget : ∀ t, base.get? m.name = some t → w.workshop.library.get? m.name = some t := by
    intro t ht
    rw [← Library.name_of_get? ht]
    exact hw.grown.get?_of_mem_base (Library.mem_of_get? ht)
  rcases Workshop.follow_ok h with ⟨rfl, rfl, hnone⟩ | ⟨t, ht, hkept, hconcrete, _, rfl, rfl⟩ |
    ⟨t, e, ht, hkept, hgeneric, _, rfl, hmade⟩
  · refine hw.skip fun hkept t ht => ?_
    rcases hnone with hnone | hexcluded
    · rw [hget t ht] at hnone
      cases hnone
    · exact absurd hexcluded hkept
  · have hmem := Library.mem_of_get? ht
    have hfollowed : Followed base excluded (w.reach depth (some t, w.workshop)) m := by
      intro _ t' ht'
      obtain rfl : t = t' := Option.some.inj (ht.symm.trans (hget t' ht'))
      refine ⟨fun _ => mem_reached_reach.2 (Or.inl rfl), fun hgeneric => ?_⟩
      rw [hconcrete] at hgeneric
      cases hgeneric
    refine hw.arrive hw.grown (fun _ hi => hi) (fun _ hi => Or.inl hi) hmem ?_
      (fun i hi _ => hw.copied i hi) hfollowed
    intro hbase
    have hfind : base.get? m.name = some t :=
      (Library.get?_eq_some_iff hw.grown.isTable_base).2 ⟨hbase, Library.name_of_get? ht⟩
    exact .concrete hs hm hkept hfind hconcrete
  · have hbase := hw.grown.mem_base_of_isGeneric (Library.mem_of_get? ht) hgeneric
    have hfind : base.get? m.name = some t :=
      (Library.get?_eq_some_iff hw.grown.isTable_base).2 ⟨hbase, Library.name_of_get? ht⟩
    obtain ⟨hgrown, i, hi, hkey, rfl, hinstances⟩ := hw.grown.instantiate hbase hgeneric hdrop hmade
    have hmem : i.made ∈ shop.library.entities := hgrown.mem_entities.2 (Or.inr ⟨i, hi, rfl⟩)
    refine hw.arrive hgrown ?_ ?_ hmem (fun h => absurd h (hgrown.not_mem_base_of_instance hi)) ?_ ?_
    · intro x hx
      rcases hinstances with rfl | hinstances
      · exact hx
      · rw [hinstances]
        exact List.mem_append_left _ hx
    · intro x hx
      rcases hinstances with rfl | hinstances
      · exact Or.inl hx
      · rw [hinstances, List.mem_append, List.mem_singleton] at hx
        rcases hx with hx | rfl
        · exact Or.inl hx
        · exact Or.inr rfl
    · intro i' _ hmade'
      refine ⟨t, m.args, .generic hs hm hkept hfind hgeneric, ?_⟩
      rw [hmade']
      exact hgrown.made_eq hi hbase hkey
    · intro _ t' ht'
      obtain rfl : t = t' := Option.some.inj (hfind.symm.trans ht')
      refine ⟨fun hconcrete => ?_, fun _ => ⟨i, by rwa [workshop_reach], hkey⟩⟩
      rw [hgeneric] at hconcrete
      cases hconcrete

end Inv

/-! ### A visit and a whole walk -/

/-- What each path that is followed keeps, a visit keeps. -/
theorem visit_induction {P : List Ty.Mention → Walk → Prop}
    (hstep : ∀ m left w found, P (m :: left) w → w.workshop.follow ceiling excluded owner m depth = .ok found →
      P left (w.reach depth found))
    (hw : P left w) (h : visit ceiling excluded owner depth left w = .ok w') : P [] w' := by
  induction left generalizing w with
  | nil =>
    simp only [visit, Except.ok.injEq] at h
    rwa [← h]
  | cons m rest ih =>
    simp only [visit] at h
    split at h
    · cases h
    · next found hfound => exact ih (hstep m rest w found hw hfound) h

/-- A walk in the middle of a visit to an entity that it has reached. -/
structure Visiting (base : Library) (firstSeq : Nat) (dropUnderscores : Bool) (included excluded : List String)
    (owner : Entity) (left : List Ty.Mention) (w : Walk) : Prop where
  inv : Inv base firstSeq dropUnderscores included excluded owner left w
  present : owner ∈ w.workshop.library.entities
  reached : owner.name ∈ w.reached
  own : ∀ m ∈ left, m ∈ owner.mentions

theorem Visiting.step {found : Option Entity × Workshop} (hdrop : ceiling.dropUnderscores = dropUnderscores)
    (hw : Visiting base firstSeq dropUnderscores included excluded owner (m :: left) w)
    (h : w.workshop.follow ceiling excluded owner m depth = .ok found) :
    Visiting base firstSeq dropUnderscores included excluded owner left (w.reach depth found) := by
  have hinv := hw.inv.step hw.present hw.reached (hw.own m List.mem_cons_self) hdrop h
  have hown : ∀ m ∈ left, m ∈ owner.mentions := fun m' hm' => hw.own m' (List.mem_cons_of_mem _ hm')
  obtain ⟨found, shop⟩ := found
  have hkept := Workshop.mem_entities_of_follow h hw.present
  cases found with
  | none => exact ⟨hinv, hw.present, hw.reached, hown⟩
  | some e => exact ⟨hinv, by rwa [workshop_reach], mem_reached_reach.2 (Or.inr hw.reached), hown⟩

theorem Visiting.visit (hdrop : ceiling.dropUnderscores = dropUnderscores)
    (hw : Visiting base firstSeq dropUnderscores included excluded owner left w)
    (h : visit ceiling excluded owner depth left w = .ok w') :
    Visiting base firstSeq dropUnderscores included excluded owner [] w' :=
  visit_induction (fun _ _ _ _ hw => hw.step hdrop) hw h

/-- Taking the next entity from the queue opens a visit of it. -/
theorem Inv.next {rest : List (Entity × Nat)}
    (hw : Inv base firstSeq dropUnderscores included excluded owner' [] w)
    (hq : w.queue = (owner, depth) :: rest) :
    Inv base firstSeq dropUnderscores included excluded owner owner.mentions
      { w with queue := rest } where
  grown := hw.grown
  listed := hw.listed
  declared := hw.declared
  copied := hw.copied
  made := hw.made
  waiting := fun x hx => hw.waiting x (by rw [hq]; exact List.mem_cons_of_mem _ hx)
  roots := hw.roots
  followed := by
    intro e he hreached
    rcases hw.followed e he hreached with ⟨d, hd⟩ | hfollowed
    · rw [hq] at hd
      rcases List.mem_cons.1 hd with hd | hd
      · cases hd
        exact Or.inr fun m hm => Or.inr ⟨rfl, hm⟩
      · exact Or.inl ⟨d, hd⟩
    · refine Or.inr fun m hm => Or.inl ?_
      exact (hfollowed m hm).resolve_right fun h => absurd h.2 List.not_mem_nil

/-- An entity that waits is one that the walk has reached. -/
theorem Inv.visiting {rest : List (Entity × Nat)}
    (hw : Inv base firstSeq dropUnderscores included excluded owner' [] w)
    (hq : w.queue = (owner, depth) :: rest) :
    Visiting base firstSeq dropUnderscores included excluded owner owner.mentions { w with queue := rest } := by
  obtain ⟨hpresent, hreached⟩ := hw.waiting (owner, depth) (hq ▸ List.mem_cons_self)
  exact ⟨hw.next hq, hpresent, hreached, fun _ hm => hm⟩

/-- One turn of a walk: the first entity of the queue is visited. -/
def Turn (ceiling : Ceiling) (excluded : List String) (w w' : Walk) : Prop :=
  ∃ e depth rest, w.queue = (e, depth) :: rest ∧
    visit ceiling excluded e depth e.mentions { w with queue := rest } = .ok w'

theorem Inv.turn (hw : Inv base firstSeq dropUnderscores included excluded owner [] w)
    (hdrop : ceiling.dropUnderscores = dropUnderscores) (h : Turn ceiling excluded w w') :
    ∃ owner, Inv base firstSeq dropUnderscores included excluded owner [] w' := by
  obtain ⟨e, depth, rest, hq, hv⟩ := h
  exact ⟨e, ((hw.visiting hq).visit hdrop hv).inv⟩

theorem run_of_nil (hq : w.queue = []) : run ceiling excluded w = .ok w := by
  rw [Walk.run]
  split
  · rfl
  · next hcons =>
    rw [hq] at hcons
    cases hcons

theorem run_of_visit {rest : List (Entity × Nat)} (hq : w.queue = (e, depth) :: rest)
    (hv : visit ceiling excluded e depth e.mentions { w with queue := rest } = .ok w') :
    run ceiling excluded w = run ceiling excluded w' := by
  rw [Walk.run]
  split
  · next hnil =>
    rw [hq] at hnil
    cases hnil
  · next hcons =>
    rw [hq] at hcons
    cases hcons
    split
    · next hfailed =>
      rw [hv] at hfailed
      cases hfailed
    · next hafter =>
      rw [hv] at hafter
      cases hafter
      rfl

theorem run_of_failure {rest : List (Entity × Nat)} {failure : WalkFailure} (hq : w.queue = (e, depth) :: rest)
    (hv : visit ceiling excluded e depth e.mentions { w with queue := rest } = .error failure) :
    run ceiling excluded w = .error failure := by
  rw [Walk.run]
  split
  · next hnil =>
    rw [hq] at hnil
    cases hnil
  · next hcons =>
    rw [hq] at hcons
    cases hcons
    split
    · next hfailed =>
      rw [hv] at hfailed
      cases hfailed
      rfl
    · next hafter =>
      rw [hv] at hafter
      cases hafter

/-- What each turn keeps, a walk keeps, and it ends with nothing left to visit. -/
theorem run_induction {P : Walk → Prop} (hturn : ∀ w w', P w → Turn ceiling excluded w w' → P w') (hw : P w)
    (h : run ceiling excluded w = .ok w') : P w' ∧ w'.queue = [] := by
  induction w using Walk.run.induct ceiling excluded with
  | case1 w hq =>
    rw [run_of_nil hq] at h
    cases h
    exact ⟨hw, hq⟩
  | case2 w e depth rest hq failure hv =>
    rw [run_of_failure hq hv] at h
    cases h
  | case3 w e depth rest hq after hv _ ih =>
    rw [run_of_visit hq hv] at h
    exact ih (hturn w after hw ⟨e, depth, rest, hq, hv⟩) h

/-- The workshop that a walk leaves behind, ended or failed. -/
def workshopOf : Except WalkFailure Walk → Workshop
  | .ok w => w.workshop
  | .error failure => failure.workshop

section

variable {P : Workshop → Prop} (hfollow : ∀ shop shop' owner m depth found, P shop →
  Workshop.follow ceiling excluded owner m depth shop = .ok (found, shop') → P shop')
include hfollow

/-- What following a path keeps of a workshop, a visit keeps, even if it fails. -/
theorem workshopOf_visit (hw : P w.workshop) : P (workshopOf (visit ceiling excluded owner depth left w)) := by
  induction left generalizing w with
  | nil => exact hw
  | cons m rest ih =>
    rw [visit]
    split
    · exact hw
    · next found hfound =>
      refine ih ?_
      rw [workshop_reach_eq found hfound]
      exact hfollow w.workshop found.2 owner m depth found.1 hw hfound

theorem workshopOf_run (hw : P w.workshop) : P (workshopOf (run ceiling excluded w)) := by
  induction w using Walk.run.induct ceiling excluded with
  | case1 w hq =>
    rw [run_of_nil hq]
    exact hw
  | case2 w e depth rest hq failure hv =>
    have hvisit : P (workshopOf (visit ceiling excluded e depth e.mentions { w with queue := rest })) :=
      workshopOf_visit hfollow hw
    rw [hv] at hvisit
    rwa [run_of_failure hq hv]
  | case3 w e depth rest hq after hv _ ih =>
    have hvisit : P (workshopOf (visit ceiling excluded e depth e.mentions { w with queue := rest })) :=
      workshopOf_visit hfollow hw
    rw [hv] at hvisit
    rw [run_of_visit hq hv]
    exact ih hvisit

end

/-- A walk that ends has nothing left to visit. -/
theorem Inv.run (hw : Inv base firstSeq dropUnderscores included excluded owner [] w)
    (hdrop : ceiling.dropUnderscores = dropUnderscores) (h : run ceiling excluded w = .ok w') :
    (∃ owner, Inv base firstSeq dropUnderscores included excluded owner [] w') ∧ w'.queue = [] := by
  refine run_induction (P := fun w => ∃ owner, Inv base firstSeq dropUnderscores included excluded owner [] w)
    ?_ ⟨owner, hw⟩ h
  rintro w w' ⟨owner, hw⟩ hturn
  exact hw.turn hdrop hturn

/-! ### What a walk reaches -/

theorem inv_start {start : Workshop} (htable : start.library.IsTable)
    (hfresh : start.library.instances = []) :
    Inv start.library start.nextSeq dropUnderscores included excluded owner []
      ⟨start, (start.library.roots included excluded).map (·.name),
        (start.library.roots included excluded).map fun e => (e, 0)⟩ where
  grown := Workshop.grown_start htable hfresh
  listed := by
    intro n hn
    obtain ⟨e, he, rfl⟩ := List.mem_map.1 hn
    exact List.mem_map_of_mem (List.mem_filter.1 he).1
  declared := by
    intro e he hn
    obtain ⟨r, hr, hname⟩ := List.mem_map.1 hn
    have hroot := List.mem_filter.1 hr
    obtain rfl := Library.eq_of_name_eq htable hroot.1 he hname
    have h : r.name ∉ excluded ∧ r.isGeneric = false ∧ (r.exported = true ∨ r.name ∈ included) := by
      simpa [and_assoc] using hroot.2
    exact .root he h.2.1 h.1 h.2.2
  copied := by simp [hfresh]
  made := by simp [hfresh]
  waiting := by
    intro x hx
    obtain ⟨e, he, rfl⟩ := List.mem_map.1 hx
    exact ⟨(List.mem_filter.1 he).1, List.mem_map_of_mem he⟩
  roots := fun e he => List.mem_map_of_mem he
  followed := by
    intro e he hn
    obtain ⟨r, hr, hname⟩ := List.mem_map.1 hn
    obtain rfl := Library.eq_of_name_eq htable (List.mem_filter.1 hr).1 he hname
    exact Or.inl ⟨0, List.mem_map.2 ⟨r, hr, rfl⟩⟩

/-- With nothing left to visit, the paths of all that is reached are followed. -/
theorem Inv.followed_of_reached (hw : Inv base firstSeq dropUnderscores included excluded owner [] w)
    (hq : w.queue = []) (he : e ∈ w.workshop.library.entities) (hreached : e.name ∈ w.reached)
    (hm : m ∈ e.mentions) : Followed base excluded w m := by
  rcases hw.followed e he hreached with ⟨d, hd⟩ | h
  · rw [hq] at hd
    exact absurd hd List.not_mem_nil
  · exact (h m hm).resolve_right fun h => absurd h.2 List.not_mem_nil

/-- With nothing left to visit, every member of the surface is reached. -/
theorem Inv.reached_of_onSurface (hw : Inv base firstSeq dropUnderscores included excluded owner [] w)
    (hq : w.queue = []) {s : Member} (hs : OnSurface base included excluded s) :
    ∃ e ∈ w.workshop.library.entities, e.name ∈ w.reached ∧ ∃ seq, e = s.entity dropUnderscores seq := by
  induction hs with
  | @root e he hconcrete hkept hwanted =>
    refine ⟨e, hw.grown.mem_entities.2 (Or.inl he), hw.roots e ?_, 0, rfl⟩
    refine List.mem_filter.2 ⟨he, ?_⟩
    simpa [and_assoc] using ⟨hkept, hconcrete, hwanted⟩
  | @concrete s m t _ hm hkept ht hconcrete ih =>
    obtain ⟨e, he, hreached, seq, rfl⟩ := ih
    have hm' : m ∈ (s.entity dropUnderscores seq).mentions := by rwa [Member.mentions_entity]
    have hname := (hw.followed_of_reached hq he hreached hm' hkept t ht).1 hconcrete
    exact ⟨t, hw.grown.mem_entities.2 (Or.inl (Library.mem_of_get? ht)), hname, 0, rfl⟩
  | @generic s m t _ hm hkept ht hgeneric ih =>
    obtain ⟨e, he, hreached, seq, rfl⟩ := ih
    have hm' : m ∈ (s.entity dropUnderscores seq).mentions := by rwa [Member.mentions_entity]
    obtain ⟨i, hi, hkey⟩ := (hw.followed_of_reached hq he hreached hm' hkept t ht).2 hgeneric
    exact ⟨i.made, hw.grown.mem_entities.2 (Or.inr ⟨i, hi, rfl⟩), hw.made i hi, i.made.seq,
      hw.grown.made_eq hi (Library.mem_of_get? ht) hkey⟩

/-- With nothing left to visit, what is reached is the surface. -/
theorem Inv.mem_reached (hw : Inv base firstSeq dropUnderscores included excluded owner [] w)
    (hq : w.queue = []) {name : String} :
    name ∈ w.reached ↔ ∃ s, OnSurface base included excluded s ∧ s.name dropUnderscores = name := by
  constructor
  · intro hn
    obtain ⟨e, he, rfl⟩ := List.mem_map.1 (hw.listed name hn)
    obtain ⟨s, seq, hs, rfl⟩ := hw.sound he hn
    exact ⟨s, hs, (Member.name_entity ..).symm⟩
  · rintro ⟨s, hs, rfl⟩
    obtain ⟨e, _, hn, seq, rfl⟩ := hw.reached_of_onSurface hq hs
    rwa [Member.name_entity] at hn

end Walk

end CrateHeader
