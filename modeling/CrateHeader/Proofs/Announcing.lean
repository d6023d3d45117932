import CrateHeader.Proofs.Placing

/-!
# What is said along an order

Types that are placed in some order are each defined once, or declared once if they are opaque, and what is
planned is declared in front of the first definition that needs it. Whatever a definition mentions is
available in front of it: the definition of what it waited for, a declaration of the rest.
-/

namespace CrateHeader

/-- A place in two lists, one behind the other, is a place in one of them. -/
theorem append_eq_append_cons {α : Type} {xs ys before after : List α} {x : α}
    (h : xs ++ ys = before ++ x :: after) :
    (∃ later, xs = before ++ x :: later ∧ after = later ++ ys) ∨
      ∃ front, before = xs ++ front ∧ ys = front ++ x :: after := by
  rcases List.append_eq_append_iff.1 h with ⟨front, hbefore, hys⟩ | ⟨rest, hxs, hrest⟩
  · exact Or.inr ⟨front, hbefore, hys⟩
  · cases rest with
    | nil => exact Or.inr ⟨[], by simp [hxs], hrest.symm⟩
    | cons first later =>
      obtain ⟨rfl, hafter⟩ := List.cons.inj hrest
      exact Or.inl ⟨later, hxs, hafter⟩

namespace DependencyGraph

open Relation (TransGen)

variable {g : DependencyGraph} {forward declared names : List String} {order : List Entity}
  {e t : Entity} {event : Event} {name : String}

/-! ### One type -/

theorem mem_declaredBy {events : List Event} :
    name ∈ declaredBy events ↔ ∃ t, t.name = name ∧ ⟨.forwardDeclare, t⟩ ∈ events := by
  simp only [declaredBy, List.mem_filterMap, Option.ite_none_right_eq_some, Option.some.injEq]
  constructor
  · rintro ⟨⟨kind, t⟩, hmem, rfl, rfl⟩
    exact ⟨t, rfl, hmem⟩
  · rintro ⟨t, rfl, hmem⟩
    exact ⟨_, hmem, rfl, rfl⟩

theorem mem_forwardEvents : event ∈ g.forwardEvents forward declared names ↔
    event.kind = .forwardDeclare ∧ g.library.get? event.entity.name = some event.entity ∧
      event.entity.name ∈ names ∧ event.entity.name ∈ forward ∧ event.entity.name ∉ declared := by
  simp only [forwardEvents, List.mem_filterMap, mem_distinctFrom, List.mem_filter, List.contains_iff_mem,
    Option.map_eq_some_iff]
  constructor
  · rintro ⟨name, ⟨⟨hname, hforward⟩, hnot⟩, t, ht, rfl⟩
    obtain rfl := Library.name_of_get? ht
    exact ⟨rfl, ht, hname, hforward, hnot⟩
  · obtain ⟨kind, t⟩ := event
    rintro ⟨rfl, ht, hname, hforward, hnot⟩
    exact ⟨t.name, ⟨⟨hname, hforward⟩, hnot⟩, t, ht, rfl⟩

theorem nodup_forwardEvents : (g.forwardEvents forward declared names).Nodup := by
  refine List.Nodup.filterMap ?_ (nodup_distinctFrom _ _)
  intro a b event ha hb
  simp only [Option.mem_def, Option.map_eq_some_iff] at ha hb
  obtain ⟨t, ht, rfl⟩ := ha
  obtain ⟨t', ht', heq⟩ := hb
  cases heq
  exact (Library.name_of_get? ht).symm.trans (Library.name_of_get? ht')

theorem define_not_mem_forwardEvents : ⟨.defineType, t⟩ ∉ g.forwardEvents forward declared names := by
  rw [mem_forwardEvents]
  rintro ⟨h, _⟩
  cases h

/-- What placing a type can say. -/
theorem eventsOf_cases (g : DependencyGraph) (forward declared : List String) (e : Entity) :
    (e.kind = .opaqueType ∧ e.name ∈ declared ∧ g.eventsOf forward declared e = []) ∨
      (e.kind = .opaqueType ∧ e.name ∉ declared ∧ g.eventsOf forward declared e = [⟨.forwardDeclare, e⟩]) ∨
      (e.kind ≠ .opaqueType ∧ g.eventsOf forward declared e =
        g.forwardEvents forward declared (e.name :: g.pointerTargets e.name) ++ [⟨.defineType, e⟩]) := by
  by_cases hop : e.kind = .opaqueType
  · by_cases hdeclared : e.name ∈ declared
    · exact Or.inl ⟨hop, hdeclared, by simp [eventsOf, hop, hdeclared]⟩
    · exact Or.inr (Or.inl ⟨hop, hdeclared, by simp [eventsOf, hop, hdeclared]⟩)
  · exact Or.inr (Or.inr ⟨hop, by simp [eventsOf, hop]⟩)

theorem define_mem_eventsOf :
    ⟨.defineType, t⟩ ∈ g.eventsOf forward declared e ↔ t = e ∧ e.kind ≠ .opaqueType := by
  rcases eventsOf_cases g forward declared e with ⟨h, _, heq⟩ | ⟨h, _, heq⟩ | ⟨h, heq⟩
  · simp [heq, h]
  · simp [heq, h]
  · simp [heq, h, define_not_mem_forwardEvents]

theorem nodup_eventsOf : (g.eventsOf forward declared e).Nodup := by
  rcases eventsOf_cases g forward declared e with ⟨_, _, heq⟩ | ⟨_, _, heq⟩ | ⟨_, heq⟩
  · simp [heq]
  · simp [heq]
  · rw [heq]
    refine List.Nodup.append nodup_forwardEvents (List.nodup_singleton _) ?_
    simpa using define_not_mem_forwardEvents

/-- What is declared when a type is placed was not declared before, and is the type itself, if opaque, or
planned. -/
theorem of_forward_mem_eventsOf (h : ⟨.forwardDeclare, t⟩ ∈ g.eventsOf forward declared e) :
    t.name ∉ declared ∧ ((t = e ∧ t.kind = .opaqueType) ∨
      (t.name ∈ forward ∧ g.library.get? t.name = some t)) := by
  rcases eventsOf_cases g forward declared e with ⟨_, _, heq⟩ | ⟨hop, hnot, heq⟩ | ⟨_, heq⟩
  · simp [heq] at h
  · obtain rfl : t = e := by simpa [heq] using h
    exact ⟨hnot, Or.inl ⟨rfl, hop⟩⟩
  · have hmem : ⟨.forwardDeclare, t⟩ ∈
        g.forwardEvents forward declared (e.name :: g.pointerTargets e.name) := by
      simpa [heq] using h
    obtain ⟨_, hget, _, hforward, hnot⟩ := mem_forwardEvents.1 hmem
    exact ⟨hnot, Or.inr ⟨hforward, hget⟩⟩

theorem kind_of_mem_eventsOf (h : event ∈ g.eventsOf forward declared e) :
    event.kind = .forwardDeclare ∨ event.kind = .defineType := by
  rcases eventsOf_cases g forward declared e with ⟨_, _, heq⟩ | ⟨_, _, heq⟩ | ⟨_, heq⟩
  · simp [heq] at h
  · rw [heq, List.mem_singleton] at h
    exact Or.inl (h ▸ rfl)
  · rw [heq] at h
    rcases List.mem_append.1 h with h | h
    · exact Or.inl (mem_forwardEvents.1 h).1
    · exact Or.inr (List.mem_singleton.1 h ▸ rfl)

/-! ### An order of types -/

theorem mem_declaredAfter : name ∈ g.declaredAfter forward declared order ↔
    name ∈ declared ∨ ∃ t, t.name = name ∧ ⟨.forwardDeclare, t⟩ ∈ g.eventsAlong forward declared order := by
  induction order generalizing declared with
  | nil => simp [declaredAfter, eventsAlong]
  | cons e rest ih =>
    simp only [declaredAfter, eventsAlong, ih, List.mem_append, mem_declaredBy]
    constructor
    · rintro ((⟨t, ht, hmem⟩ | hdeclared) | ⟨t, ht, hmem⟩)
      · exact Or.inr ⟨t, ht, Or.inl hmem⟩
      · exact Or.inl hdeclared
      · exact Or.inr ⟨t, ht, Or.inr hmem⟩
    · rintro (hdeclared | ⟨t, ht, hmem | hmem⟩)
      · exact Or.inl (Or.inr hdeclared)
      · exact Or.inl (Or.inl ⟨t, ht, hmem⟩)
      · exact Or.inr ⟨t, ht, hmem⟩

theorem define_mem_eventsAlong :
    ⟨.defineType, t⟩ ∈ g.eventsAlong forward declared order ↔ t ∈ order ∧ t.kind ≠ .opaqueType := by
  induction order generalizing declared with
  | nil => simp [eventsAlong]
  | cons e rest ih =>
    rw [eventsAlong, List.mem_append, define_mem_eventsOf, ih, List.mem_cons]
    constructor
    · rintro (⟨rfl, hkind⟩ | ⟨hmem, hkind⟩)
      · exact ⟨Or.inl rfl, hkind⟩
      · exact ⟨Or.inr hmem, hkind⟩
    · rintro ⟨rfl | hmem, hkind⟩
      · exact Or.inl ⟨rfl, hkind⟩
      · exact Or.inr ⟨hmem, hkind⟩

theorem of_forward_mem_eventsAlong (h : ⟨.forwardDeclare, t⟩ ∈ g.eventsAlong forward declared order) :
    t.name ∉ declared ∧ ((t ∈ order ∧ t.kind = .opaqueType) ∨
      (t.name ∈ forward ∧ g.library.get? t.name = some t)) := by
  induction order generalizing declared with
  | nil => simp [eventsAlong] at h
  | cons e rest ih =>
    rw [eventsAlong, List.mem_append] at h
    rcases h with h | h
    · obtain ⟨hnot, ⟨rfl, hop⟩ | hplanned⟩ := of_forward_mem_eventsOf h
      · exact ⟨hnot, Or.inl ⟨List.mem_cons_self, hop⟩⟩
      · exact ⟨hnot, Or.inr hplanned⟩
    · obtain ⟨hnot, hwhy⟩ := ih h
      refine ⟨fun hin => hnot (List.mem_append_right _ hin), ?_⟩
      rcases hwhy with ⟨hmem, hop⟩ | hplanned
      · exact Or.inl ⟨List.mem_cons_of_mem _ hmem, hop⟩
      · exact Or.inr hplanned

theorem kind_of_mem_eventsAlong (h : event ∈ g.eventsAlong forward declared order) :
    event.kind = .forwardDeclare ∨ event.kind = .defineType := by
  induction order generalizing declared with
  | nil => simp [eventsAlong] at h
  | cons e rest ih =>
    rw [eventsAlong, List.mem_append] at h
    rcases h with h | h
    · exact kind_of_mem_eventsOf h
    · exact ih h

theorem nodup_eventsAlong (horder : order.Nodup) : (g.eventsAlong forward declared order).Nodup := by
  induction order generalizing declared with
  | nil => simp [eventsAlong]
  | cons e rest ih =>
    obtain ⟨he, hrest⟩ := List.nodup_cons.1 horder
    refine List.Nodup.append nodup_eventsOf (ih hrest) ?_
    rintro ⟨kind, t⟩ hhere hlater
    rcases kind_of_mem_eventsOf hhere with rfl | rfl
    · refine (of_forward_mem_eventsAlong hlater).1 (List.mem_append_left _ ?_)
      exact mem_declaredBy.2 ⟨t, rfl, hhere⟩
    · obtain ⟨rfl, _⟩ := define_mem_eventsOf.1 hhere
      exact he (define_mem_eventsAlong.1 hlater).1

/-- Opaque types are declared once they are placed. -/
theorem mem_declaredAfter_of_opaque (ht : t ∈ order) (hop : t.kind = .opaqueType) :
    t.name ∈ g.declaredAfter forward declared order := by
  induction order generalizing declared with
  | nil => simp at ht
  | cons e rest ih =>
    rcases List.mem_cons.1 ht with rfl | ht
    · rw [declaredAfter, mem_declaredAfter]
      refine Or.inl ?_
      rcases eventsOf_cases g forward declared t with ⟨_, hin, _⟩ | ⟨_, _, heq⟩ | ⟨hnot, _⟩
      · exact List.mem_append_right _ hin
      · exact List.mem_append_left _ (mem_declaredBy.2 ⟨t, rfl, by simp [heq]⟩)
      · exact absurd hop hnot
    · exact ih ht

/-- An event along an order is said when some type of it is placed. -/
theorem eventsAlong_split {before after : List Event}
    (h : g.eventsAlong forward declared order = before ++ event :: after) :
    ∃ front e rest, order = front ++ e :: rest ∧ ∃ here later,
      g.eventsOf forward (g.declaredAfter forward declared front) e = here ++ event :: later ∧
        before = g.eventsAlong forward declared front ++ here := by
  induction order generalizing declared before with
  | nil => simp [eventsAlong] at h
  | cons e rest ih =>
    rw [eventsAlong] at h
    rcases append_eq_append_cons h with ⟨later, hevents, _⟩ | ⟨here, hbefore, hlater⟩
    · exact ⟨[], e, rest, rfl, before, later, hevents, rfl⟩
    · obtain ⟨front, x, tail, horder, here', later, hof, hhere⟩ := ih hlater
      refine ⟨e :: front, x, tail, by rw [horder, List.cons_append], here', later, hof, ?_⟩
      rw [hbefore, hhere, eventsAlong, List.append_assoc]

/-- What stands in front of a definition: all that was said of the types placed before, and the declarations
that it needs. -/
theorem eventsAlong_before_define {before after : List Event}
    (h : g.eventsAlong forward declared order = before ++ ⟨.defineType, e⟩ :: after) :
    ∃ front rest, order = front ++ e :: rest ∧ before = g.eventsAlong forward declared front ++
      g.forwardEvents forward (g.declaredAfter forward declared front)
        (e.name :: g.pointerTargets e.name) := by
  obtain ⟨front, x, rest, rfl, here, later, hof, rfl⟩ := eventsAlong_split h
  obtain ⟨rfl, hkind⟩ := define_mem_eventsOf.1 (hof ▸ by simp :
    ⟨.defineType, e⟩ ∈ g.eventsOf forward (g.declaredAfter forward declared front) x)
  rcases eventsOf_cases g forward (g.declaredAfter forward declared front) e with
    ⟨hop, _⟩ | ⟨hop, _⟩ | ⟨_, heq⟩
  · exact absurd hop hkind
  · exact absurd hop hkind
  · rw [heq] at hof
    have hhere := (List.append_cons_inj_of_notMem define_not_mem_forwardEvents List.not_mem_nil).1 hof
    exact ⟨front, rest, rfl, by rw [hhere.1]⟩

end DependencyGraph

end CrateHeader
