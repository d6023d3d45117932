import CrateHeader.Proofs.Stages

/-!
# Streams that can be written

A mention is provided for by the events in front of it when the type it names is defined there, or declared
there and mentioned behind a pointer. `Stream.outstanding` looks for mentions that are not; of a stream that
a run makes it finds none, whatever the types refer to.
-/

namespace CrateHeader

namespace Stream

variable {lib : Library} {s : Stream} {declared defined : List String} {e t user : Entity} {m : Ty.Mention}
  {before after events : List Event} {event : Event} {forward : List String} {order : List Entity}

/-! ### What is outstanding -/

/-- The names of the entities that some events are about, by kind of event. -/
def namesOf (kinds : List EventKind) (events : List Event) : List String :=
  (events.filter fun e => kinds.contains e.kind).map (·.entity.name)

theorem mem_namesOf {kinds : List EventKind} {name : String} :
    name ∈ namesOf kinds events ↔ ∃ e ∈ events, e.kind ∈ kinds ∧ e.entity.name = name := by
  simp [namesOf, and_assoc]

/-- If a mention names another type of the library, then one that is defined or, behind a pointer, declared. -/
def Provided (lib : Library) (declared defined : List String) (user : Entity) (m : Ty.Mention) : Prop :=
  ∀ t, lib.get? m.name = some t → t.isType = true → t.name ≠ user.name →
    t.name ∈ defined ∨ (m.behindPointer = true ∧ t.name ∈ declared)

theorem missing?_eq_none_iff :
    missing? lib declared defined user m = none ↔ Provided lib declared defined user m := by
  unfold missing? Provided
  cases hget : lib.get? m.name with
  | none => simp
  | some t =>
    simp only [Option.some.injEq, forall_eq']
    by_cases htype : t.isType = true
    · by_cases hself : t.name = user.name
      · simp [htype, hself]
      · simp [htype, hself, or_iff_not_imp_left]
    · simp [htype]

theorem provided_congr {declared' defined' : List String} (hdeclared : ∀ n, n ∈ declared ↔ n ∈ declared')
    (hdefined : ∀ n, n ∈ defined ↔ n ∈ defined') :
    Provided lib declared defined user m ↔ Provided lib declared' defined' user m := by
  unfold Provided
  simp only [hdeclared, hdefined]

/-- The events in front of each provide for its mentions; a declaration needs nothing. -/
def Orderly (lib : Library) (declared defined : List String) (events : List Event) : Prop :=
  ∀ before event after, events = before ++ event :: after → event.kind ≠ .forwardDeclare →
    ∀ m ∈ event.entity.mentions,
      Provided lib (namesOf [.forwardDeclare, .defineType] before ++ declared)
        (namesOf [.defineType] before ++ defined) event.entity m

theorem namesOf_append (kinds : List EventKind) (front rest : List Event) :
    namesOf kinds (front ++ rest) = namesOf kinds front ++ namesOf kinds rest := by
  simp [namesOf]

theorem orderly_nil : Orderly lib declared defined [] := by
  intro before event after hsplit
  simp at hsplit

theorem orderly_cons : Orderly lib declared defined (event :: events) ↔
    (event.kind ≠ .forwardDeclare → ∀ m ∈ event.entity.mentions,
      Provided lib declared defined event.entity m) ∧
    Orderly lib (namesOf [.forwardDeclare, .defineType] [event] ++ declared)
      (namesOf [.defineType] [event] ++ defined) events := by
  have hmove : ∀ (kinds : List EventKind) (before : List Event) (rest : List String) (n : String),
      n ∈ namesOf kinds (event :: before) ++ rest ↔
        n ∈ namesOf kinds before ++ (namesOf kinds [event] ++ rest) := by
    intro kinds before rest n
    rw [← List.singleton_append, namesOf_append]
    simp only [List.mem_append]
    tauto
  constructor
  · intro h
    refine ⟨h [] event events rfl, fun before event' after hsplit hkind m hm => ?_⟩
    have hprovided := h (event :: before) event' after (by rw [hsplit, List.cons_append]) hkind m hm
    exact (provided_congr (hmove _ before declared) (hmove _ before defined)).1 hprovided
  · rintro ⟨hfirst, hrest⟩ before event' after hsplit hkind m hm
    cases before with
    | nil =>
      cases hsplit
      exact hfirst hkind m hm
    | cons first before =>
      rw [List.cons_append, List.cons.injEq] at hsplit
      obtain ⟨rfl, hsplit⟩ := hsplit
      have hprovided := hrest before event' after hsplit hkind m hm
      exact (provided_congr (hmove _ before declared) (hmove _ before defined)).2 hprovided

/-- Nothing is outstanding exactly when the events are orderly. -/
theorem outstandingAfter_eq_nil_iff :
    outstandingAfter lib declared defined events = [] ↔ Orderly lib declared defined events := by
  induction events generalizing declared defined with
  | nil => exact ⟨fun _ => orderly_nil, fun _ => rfl⟩
  | cons e rest ih =>
    rw [orderly_cons, ← ih]
    obtain ⟨kind, user⟩ := e
    by_cases hforward : kind = .forwardDeclare
    · subst hforward
      simp [outstandingAfter, namesOf]
    · have hhere : (user.mentions.filterMap (missing? lib declared defined user)) = [] ↔
          ∀ m ∈ user.mentions, Provided lib declared defined user m := by
        simp only [List.filterMap_eq_nil_iff, missing?_eq_none_iff]
      rw [outstandingAfter, if_neg hforward]
      dsimp only
      rw [List.append_eq_nil_iff, List.map_eq_nil_iff, hhere]
      by_cases hdefine : kind = .defineType
      · subst hdefine
        simp [namesOf]
      · have hnone : ∀ kinds ∈ [[EventKind.forwardDeclare, .defineType], [EventKind.defineType]],
            namesOf kinds [⟨kind, user⟩] = [] := by
          simp [namesOf, hforward, hdefine]
        simp [hforward, hdefine, hnone]

theorem outstanding_eq_nil_iff : s.outstanding = [] ↔ Orderly s.library [] [] s.events :=
  outstandingAfter_eq_nil_iff

/-! ### The entities of a stream -/

theorem mem_of_mem_firstByName {seen : List String} {es : List Entity} (h : e ∈ firstByName seen es) :
    e ∈ es := by
  induction es generalizing seen with
  | nil => exact h
  | cons x rest ih =>
    rw [firstByName] at h
    split at h
    · exact List.mem_cons_of_mem _ (ih h)
    · rcases List.mem_cons.1 h with rfl | h
      · exact List.mem_cons_self
      · exact List.mem_cons_of_mem _ (ih h)

/-- Where entities of one name are the same, none is missing. -/
theorem mem_firstByName {seen : List String} {es : List Entity} (he : e ∈ es)
    (hsame : ∀ x ∈ es, x.name = e.name → x = e) (hnew : e.name ∉ seen) : e ∈ firstByName seen es := by
  induction es generalizing seen with
  | nil => exact he
  | cons x rest ih =>
    have hrest : ∀ y ∈ rest, y.name = e.name → y = e := fun y hy => hsame y (List.mem_cons_of_mem _ hy)
    rw [firstByName]
    by_cases hx : x = e
    · subst hx
      rw [if_neg (by simpa using hnew)]
      exact List.mem_cons_self
    · have he : e ∈ rest := (List.mem_cons.1 he).resolve_left (Ne.symm hx)
      have hname : x.name ≠ e.name := fun h => hx (hsame x List.mem_cons_self h)
      split
      · exact ih he hrest hnew
      · refine List.mem_cons_of_mem _ (ih he hrest ?_)
        rw [List.mem_cons, not_or]
        exact ⟨Ne.symm hname, hnew⟩

namespace IsMade

variable (hs : s.IsMade forward order)
include hs

/-- The events are just what the library has to say. -/
theorem perm : s.events.Perm (s.library.announcements forward) := by
  rw [hs.events]
  exact Library.events_perm hs.table hs.concrete hs.schedule

theorem mem_library_of_mem_events (h : event ∈ s.events) : event.entity ∈ s.library.entities := by
  rw [hs.perm.mem_iff] at h
  simp only [Library.announcements, Library.types, Library.ofKind, List.mem_append, List.mem_map,
    List.mem_filter] at h
  obtain ((((⟨t, ⟨⟨ht, _⟩, _⟩, rfl⟩ | ⟨t, ⟨⟨ht, _⟩, _⟩, rfl⟩) | ⟨t, ⟨ht, _⟩, rfl⟩) | ⟨t, ⟨ht, _⟩, rfl⟩) |
    ⟨t, ⟨ht, _⟩, rfl⟩) := h
  all_goals exact ht

/-- Every entity of the library is emitted. -/
theorem exists_mem_events (he : e ∈ s.library.entities) : ∃ event ∈ s.events, event.entity = e := by
  have hsay : ∀ kind, ⟨kind, e⟩ ∈ s.library.announcements forward → ∃ event ∈ s.events, event.entity = e :=
    fun kind h => ⟨⟨kind, e⟩, hs.perm.mem_iff.2 h, rfl⟩
  by_cases htype : e.isType = true
  · by_cases hop : e.kind = .opaqueType
    · exact hsay .forwardDeclare (by simp [Library.announcements, Library.types, he, htype, hop])
    · exact hsay .defineType (by simp [Library.announcements, Library.types, he, htype, hop])
  · have hkind : e.kind = .constant ∨ e.kind = .static ∨ e.kind = .function := by
      unfold Entity.isType at htype
      cases hkind : e.kind <;> simp [hkind, EntityKind.isType] at htype ⊢
    rcases hkind with hkind | hkind | hkind
    · exact hsay .declareConstant (by simp [Library.announcements, Library.ofKind, he, hkind])
    · exact hsay .declareStatic (by simp [Library.announcements, Library.ofKind, he, hkind])
    · exact hsay .declareFunction (by simp [Library.announcements, Library.ofKind, he, hkind])

theorem mem_entities : e ∈ s.entities ↔ e ∈ s.library.entities := by
  constructor
  · intro h
    obtain ⟨event, hevent, rfl⟩ := List.mem_map.1 (mem_of_mem_firstByName h)
    exact hs.mem_library_of_mem_events hevent
  · intro h
    refine mem_firstByName ?_ ?_ List.not_mem_nil
    · obtain ⟨event, hevent, rfl⟩ := hs.exists_mem_events h
      exact List.mem_map_of_mem hevent
    · intro x hx hname
      obtain ⟨event, hevent, rfl⟩ := List.mem_map.1 hx
      exact Library.eq_of_name_eq hs.table (hs.mem_library_of_mem_events hevent) h hname

/-- What stands in front of an event for a type that it mentions. -/
theorem available (hsplit : s.events = before ++ event :: after) (hkind : event.kind ≠ .forwardDeclare)
    (hm : m ∈ event.entity.mentions) (hfound : s.library.get? m.name = some t)
    (htype : t.isType = true) :
    ⟨.defineType, t⟩ ∈ before ∨ (t.kind = .opaqueType ∧ ⟨.forwardDeclare, t⟩ ∈ before) ∨
      (m.behindPointer = true ∧ ⟨.forwardDeclare, t⟩ ∈ before) := by
  have ht : t ∈ s.library.types := List.mem_filter.2 ⟨Library.mem_of_get? hfound, htype⟩
  have hall : (∀ x ∈ s.library.typeEvents forward order, x ∈ before) →
      ⟨.defineType, t⟩ ∈ before ∨ (t.kind = .opaqueType ∧ ⟨.forwardDeclare, t⟩ ∈ before) := by
    intro hsub
    by_cases hop : t.kind = .opaqueType
    · exact Or.inr ⟨hop, hsub _
        ((Library.forward_mem_typeEvents hs.table hs.concrete hs.schedule).2 ⟨ht, Or.inl hop⟩)⟩
    · exact Or.inl (hsub _ ((Library.define_mem_typeEvents hs.concrete hs.schedule).2 ⟨ht, hop⟩))
  have hevents := hs.events
  rw [hsplit, List.append_assoc] at hevents
  rcases append_eq_append_cons hevents.symm with ⟨later, htypes, _⟩ | ⟨front, hbefore, _⟩
  · obtain ⟨kind, user⟩ := event
    have hmem : ⟨kind, user⟩ ∈ s.library.typeEvents forward order := by
      rw [htypes]
      exact List.mem_append_right _ List.mem_cons_self
    obtain rfl : kind = .defineType :=
      (DependencyGraph.kind_of_mem_eventsAlong hmem).resolve_left hkind
    exact Library.available_before_define hs.table hs.concrete hs.schedule htypes hm hfound htype
  · have hsub : ∀ x ∈ s.library.typeEvents forward order, x ∈ before := by
      intro x hx
      rw [hbefore]
      exact List.mem_append_left _ hx
    rcases hall hsub with h | h
    · exact Or.inl h
    · exact Or.inr (Or.inl h)

/-- A type that is mentioned is one of the library, and not opaque unless behind a pointer, or external. -/
theorem mention_cases (he : e ∈ s.library.entities) (hm : m ∈ e.mentions) :
    (s.library.get? m.name = none ∧ m.name ∈ s.library.external) ∨
      ∃ t, s.library.get? m.name = some t ∧ t.isType = true ∧
        (t.kind = .opaqueType → m.behindPointer = true) := by
  obtain ⟨external, hcheck⟩ := hs.mentions e (hs.mem_entities.2 he) m hm
  exact Library.checkMention_ok hcheck

theorem orderly : Orderly s.library [] [] s.events := by
  intro before event after hsplit hkind m hm t hfound htype _
  have hevent : event ∈ s.events := by simp [hsplit]
  have hpointer : t.kind = .opaqueType → m.behindPointer = true := by
    rcases hs.mention_cases (hs.mem_library_of_mem_events hevent) hm with ⟨hnone, _⟩ | ⟨t', ht', _, hop⟩
    · rw [hfound] at hnone
      cases hnone
    · obtain rfl : t = t' := Option.some.inj (hfound.symm.trans ht')
      exact hop
  simp only [List.append_nil]
  have hdeclared : ∀ kind, kind ∈ [EventKind.forwardDeclare, .defineType] → ⟨kind, t⟩ ∈ before →
      t.name ∈ namesOf [.forwardDeclare, .defineType] before :=
    fun kind hkind h => mem_namesOf.2 ⟨_, h, hkind, rfl⟩
  rcases hs.available hsplit hkind hm hfound htype with hdefined | ⟨hop, hforward⟩ | ⟨hbehind, hforward⟩
  · exact Or.inl (mem_namesOf.2 ⟨_, hdefined, by simp, rfl⟩)
  · exact Or.inr ⟨hpointer hop, hdeclared _ (by simp) hforward⟩
  · exact Or.inr ⟨hbehind, hdeclared _ (by simp) hforward⟩

end IsMade

/-! ### The main statement -/

/-- A stream that a run makes has nothing outstanding: in front of every event stands what its entity
mentions. Each mention of an emitted entity names an emitted type or an external one that the library does
not have, and outside pointers no opaque type. -/
theorem run_sound {settings : Settings} {ds : List Declaration}
    (h : (Pipeline.run settings ds).result = .ok s) :
    s.outstanding = [] ∧ Orderly s.library [] [] s.events ∧
    (∀ e ∈ s.entities, ∀ m ∈ e.mentions,
      (∃ t ∈ s.entities, t.name = m.name ∧ t.isType = true) ∨
        (m.name ∉ s.library.names ∧ m.name ∈ s.library.external)) ∧
    ∀ e ∈ s.entities, ∀ m ∈ e.mentions, m.behindPointer = false →
      ∀ t ∈ s.entities, t.name = m.name → t.kind ≠ .opaqueType := by
  obtain ⟨forward, order, hs⟩ := Pipeline.run_ok h
  refine ⟨outstanding_eq_nil_iff.2 hs.orderly, hs.orderly, ?_, ?_⟩
  · intro e he m hm
    rcases hs.mention_cases (hs.mem_entities.1 he) hm with ⟨hnone, hexternal⟩ | ⟨t, ht, htype, _⟩
    · exact Or.inr ⟨Library.get?_eq_none_iff.1 hnone, hexternal⟩
    · exact Or.inl ⟨t, hs.mem_entities.2 (Library.mem_of_get? ht), Library.name_of_get? ht, htype⟩
  · intro e he m hm hvalue t ht hname hop
    have hget : s.library.get? m.name = some t :=
      (Library.get?_eq_some_iff hs.table).2 ⟨hs.mem_entities.1 ht, hname⟩
    rcases hs.mention_cases (hs.mem_entities.1 he) hm with ⟨hnone, _⟩ | ⟨t', ht', _, hpointer⟩
    · rw [hget] at hnone
      cases hnone
    · obtain rfl : t = t' := Option.some.inj (hget.symm.trans ht')
      rw [hpointer hop] at hvalue
      cases hvalue

theorem run_sound_grove : (Pipeline.run .default grove).result = .ok groveStream ∧
    groveStream.outstanding = [] ∧ Orderly groveStream.library [] [] groveStream.events := by
  have hsound := run_sound run_grove
  exact ⟨run_grove, hsound.1, hsound.2.1⟩

end Stream

end CrateHeader
