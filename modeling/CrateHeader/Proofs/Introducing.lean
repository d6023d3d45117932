import CrateHeader.Proofs.Outlining
import CrateHeader.Proofs.Streaming
import Mathlib.Data.List.Pairwise

/-!
# Type names that a header introduces

An entity introduces its own name and, if it is a tagged enum, a name for its tags and one for each payload.
No two entities have such a name in common, and within an entity they differ as soon as its payload variants
do. So a definition leaves out only the name that a forward declaration of the same entity has introduced, and
every name has one `typedef`.
-/

namespace CrateHeader

namespace Entity

/-- The names of C that an entity takes. -/
def typeNames (e : Entity) : List String := e.exportName :: e.generatedNames

/-- The variants that get a struct of their own, by name. -/
def payloadNames (e : Entity) : List String :=
  match e.body with
  | .enum variants => (variants.filter Variant.hasPayload).map (·.name)
  | _ => []

variable {e : Entity} {v v' : Variant}

theorem tagName_ne_exportName : e.tagName ≠ e.exportName := by
  intro h
  have hlength := congrArg String.length h
  simp [tagName] at hlength

theorem bodyName_ne_exportName : e.bodyName v ≠ e.exportName := by
  intro h
  have hlength := congrArg String.length h
  have hsuffix : "_Body".length = 5 := by decide
  simp only [bodyName, String.length_append, hsuffix] at hlength
  omega

theorem bodyName_ne_tagName : e.bodyName v ≠ e.tagName := by
  intro h
  have hlast := congrArg (fun s : String => s.toList.getLast?) h
  simp only [bodyName, tagName, String.toList_append, List.getLast?_append] at hlast
  simp at hlast

theorem bodyName_inj (h : e.bodyName v = e.bodyName v') : v.name = v'.name := by
  simpa [bodyName, String.append_assoc] using h

/-- The names of an entity differ when its payload variants do. -/
theorem nodup_typeNames (h : e.payloadNames.Nodup) : e.typeNames.Nodup := by
  unfold typeNames generatedNames
  unfold payloadNames at h
  split
  · next variants hbody =>
    rw [hbody] at h
    split
    · have hbodies : ((variants.filter Variant.hasPayload).map e.bodyName).Nodup := by
        refine List.Nodup.map_on ?_ h.of_map
        intro v hv v' hv' hname
        exact List.inj_on_of_nodup_map h hv hv' (bodyName_inj hname)
      refine List.nodup_cons.2 ⟨?_, List.nodup_cons.2 ⟨?_, hbodies⟩⟩
      · rw [List.mem_cons, not_or]
        refine ⟨fun h => tagName_ne_exportName h.symm, fun hmem => ?_⟩
        obtain ⟨v, _, hname⟩ := List.mem_map.1 hmem
        exact bodyName_ne_exportName hname
      · intro hmem
        obtain ⟨v, _, hname⟩ := List.mem_map.1 hmem
        exact bodyName_ne_tagName hname
    · exact List.nodup_singleton _
  · exact List.nodup_singleton _

end Entity

namespace Library

theorem takenName?_eq_none_iff {owners : List (String × String)} {names : List String} :
    takenName? owners names = none ↔ ∀ n ∈ names, owners.lookup n = none := by
  simp [takenName?, List.findSome?_eq_none_iff]

theorem lookup_append_eq_none {owners : List (String × String)} {names : List String} {owner n : String}
    (h : (owners ++ names.map fun name => (name, owner)).lookup n = none) :
    owners.lookup n = none ∧ n ∉ names := by
  rw [List.lookup_eq_none_iff] at h ⊢
  refine ⟨fun p hp => h p (List.mem_append_left _ hp), fun hn => ?_⟩
  have hself := h (n, owner) (List.mem_append_right _ (List.mem_map_of_mem hn))
  simp at hself

/-- Names that pass the check belong to one entity each. -/
theorem checkNames_ok {owners : List (String × String)} {es : List Entity}
    (h : checkNames owners es = .ok ()) :
    (∀ e ∈ es, ∀ n ∈ e.typeNames, owners.lookup n = none) ∧
      es.Pairwise fun a b => a.typeNames.Disjoint b.typeNames := by
  induction es generalizing owners with
  | nil => simp
  | cons e rest ih =>
    rw [checkNames] at h
    split at h
    · cases h
    · next hfree =>
      obtain ⟨hrest, hpairs⟩ := ih h
      have hhere := takenName?_eq_none_iff.1 hfree
      refine ⟨?_, List.pairwise_cons.2 ⟨?_, hpairs⟩⟩
      · intro x hx n hn
        rcases List.mem_cons.1 hx with rfl | hx
        · exact hhere n hn
        · exact (lookup_append_eq_none (hrest x hx n hn)).1
      · intro x hx n hn hn'
        exact (lookup_append_eq_none (hrest x hx n hn')).2 hn

end Library

/-! ### Names along the events -/

namespace Header

variable {declared : List String} {events : List Event} {event : Event} {e t : Entity} {name : String}
  {p : List String × Event} {front back : List (List String × Event)}

/-- The type names that an event introduces when it is written. -/
def introduced (p : List String × Event) : List String :=
  (writtenFor p.1 p.2).flatMap Written.typedefs

/-- A definition introduces what no forward declaration has introduced for it. -/
theorem typedefs_definitions (htype : e.isType = true) (hkind : e.kind ≠ .opaqueType)
    (hgenerated : ∀ n ∈ e.generatedNames, n ∉ declared)
    (hplain : e.body.canForwardDeclare = false → e.exportName ∉ declared) :
    (definitions declared e).flatMap Written.typedefs =
      e.generatedNames ++ if e.exportName ∈ declared then [] else [e.exportName] := by
  unfold Entity.generatedNames at hgenerated ⊢
  unfold Entity.isType at htype
  unfold Entity.kind at htype hkind
  cases hbody : e.body with
  | enum variants =>
    rw [hbody] at hgenerated hplain
    by_cases htagged : (Body.enum variants).isTagged = true
    · have hfree : ∀ v ∈ variants.filter Variant.hasPayload, e.bodyName v ∉ declared := by
        intro v hv
        refine hgenerated _ ?_
        simp only [htagged, if_true]
        exact List.mem_cons_of_mem _ (List.mem_map_of_mem hv)
      have hbodies : ((variants.filter Variant.hasPayload).map fun v =>
          Written.record (!declared.contains (e.bodyName v)) "struct" "" (e.bodyName v)
            (v.fields.map .field)).flatMap Written.typedefs =
              (variants.filter Variant.hasPayload).map e.bodyName := by
        rw [List.flatMap_map, List.map_eq_flatMap]
        refine List.flatMap_congr fun v hv => ?_
        simp [Written.typedefs, hfree v hv]
      simp only [definitions, hbody, htagged, if_true, List.flatMap_append, List.flatMap_cons, hbodies]
      simp [Written.typedefs]
    · have hfree : e.exportName ∉ declared := hplain
        (by simpa [Body.isTagged, Body.canForwardDeclare] using htagged)
      simp [definitions, hbody, htagged, Written.typedefs, hfree]
  | struct fields => simp [definitions, hbody, Written.typedefs]
  | union fields => simp [definitions, hbody, Written.typedefs]
  | typeAlias target =>
    have hfree : e.exportName ∉ declared := hplain (by rw [hbody]; rfl)
    simp [definitions, hbody, Written.typedefs, hfree]
  | opaqueType => exact absurd (by rw [hbody]; rfl) hkind
  | function args ret never => simp [hbody, Body.kind, EntityKind.isType] at htype
  | constant ty value => simp [hbody, Body.kind, EntityKind.isType] at htype
  | static ty isMut => simp [hbody, Body.kind, EntityKind.isType] at htype

theorem map_snd_marked (declared : List String) (events : List Event) :
    (marked declared events).map Prod.snd = events := by
  induction events generalizing declared with
  | nil => rfl
  | cons e rest ih => rw [marked, List.map_cons, ih]

theorem mem_of_mem_marked (hp : p ∈ marked declared events) : p.2 ∈ events := by
  have h := List.mem_map_of_mem (f := Prod.snd) hp
  rwa [map_snd_marked] at h

/-- What stands in front of an event is marked as if nothing came behind it. -/
theorem marked_split (h : marked declared events = front ++ p :: back) :
    events = front.map Prod.snd ++ p.2 :: back.map Prod.snd ∧
      front = marked declared (front.map Prod.snd) := by
  constructor
  · have hevents := congrArg (List.map Prod.snd) h
    rwa [map_snd_marked, List.map_append, List.map_cons] at hevents
  · induction events generalizing declared front with
    | nil => simp [marked] at h
    | cons e rest ih =>
      cases front with
      | nil => rfl
      | cons q front =>
        rw [marked, List.cons_append, List.cons.injEq] at h
        obtain ⟨rfl, h⟩ := h
        rw [List.map_cons, marked, ← ih h]

theorem subset_of_mem_marked (hp : p ∈ marked declared events) (hname : name ∈ declared) : name ∈ p.1 := by
  induction events generalizing declared with
  | nil => simp [marked] at hp
  | cons e rest ih =>
    rcases List.mem_cons.1 hp with rfl | hp
    · exact hname
    · refine ih hp ?_
      split
      · exact List.mem_cons_of_mem _ hname
      · exact hname

/-- A name that an event is marked with has been introduced by a forward declaration. -/
theorem exists_forward_of_mem_marked (hp : p ∈ marked declared events) (hname : name ∈ p.1) :
    name ∈ declared ∨ ∃ t, ⟨.forwardDeclare, t⟩ ∈ events ∧ t.exportName = name := by
  induction events generalizing declared with
  | nil => simp [marked] at hp
  | cons e rest ih =>
    obtain ⟨kind, t⟩ := e
    rcases List.mem_cons.1 hp with rfl | hp
    · exact Or.inl hname
    · rcases ih hp with hin | ⟨t', ht', hname'⟩
      · split at hin
        · next hkind =>
          rcases List.mem_cons.1 hin with rfl | hin
          · cases hkind
            exact Or.inr ⟨t, List.mem_cons_self, rfl⟩
          · exact Or.inl hin
        · exact Or.inl hin
      · exact Or.inr ⟨t', List.mem_cons_of_mem _ ht', hname'⟩

/-- Marks hold what has been introduced beforehand. -/
theorem pairwise_marked {R : Event → Event → Prop} (h : events.Pairwise R) :
    (marked declared events).Pairwise fun p q =>
      R p.2 q.2 ∧ (p.2.kind = .forwardDeclare → p.2.entity.exportName ∈ q.1) := by
  induction events generalizing declared with
  | nil => exact List.Pairwise.nil
  | cons e rest ih =>
    obtain ⟨hhere, hrest⟩ := List.pairwise_cons.1 h
    refine List.pairwise_cons.2 ⟨fun q hq => ⟨hhere q.2 ?_, fun hkind => ?_⟩, ih hrest⟩
    · exact mem_of_mem_marked hq
    · rw [if_pos hkind] at hq
      exact subset_of_mem_marked hq List.mem_cons_self

end Header

/-! ### Names of a stream -/

/-- Of two that differ, not each comes before the other. -/
theorem not_sublist_swap {α : Type} {a b : α} {l : List α} (h : l.Nodup) (hab : [a, b].Sublist l) :
    ¬ [b, a].Sublist l := by
  induction l with
  | nil => cases hab
  | cons x rest ih =>
    obtain ⟨hx, hrest⟩ := List.nodup_cons.1 h
    intro hba
    have hin : ∀ {c d : α}, [c, d].Sublist rest → c ∈ rest ∧ d ∈ rest :=
      fun hs => ⟨hs.subset (by simp), hs.subset (by simp)⟩
    cases hab with
    | cons _ hab =>
      cases hba with
      | cons _ hba => exact ih hrest hab hba
      | cons_cons _ _ => exact hx (hin hab).2
    | cons_cons _ hb =>
      cases hba with
      | cons _ hba => exact hx (hin hba).2
      | cons_cons _ _ => exact hx (List.singleton_sublist.1 hb)

namespace Stream.IsMade

open Header

variable {s : Stream} {forward : List String} {order : List Entity} {e t : Entity} {event : Event}
  {name : String} {declared : List String} {p : List String × Event} (hs : s.IsMade forward order)
include hs

theorem define_mem_events : ⟨.defineType, t⟩ ∈ s.events ↔ t ∈ s.library.types ∧ t.kind ≠ .opaqueType := by
  rw [hs.perm.mem_iff]
  simp [Library.announcements]

theorem forward_mem_events : ⟨.forwardDeclare, t⟩ ∈ s.events ↔
    t ∈ s.library.types ∧ (t.kind = .opaqueType ∨ t.name ∈ forward) := by
  rw [hs.perm.mem_iff]
  simp [Library.announcements]

theorem nodup_events : s.events.Nodup :=
  hs.perm.nodup_iff.2 (Library.nodup_announcements hs.table forward)

/-- Only what C can be told of beforehand is forward-declared. -/
theorem canForwardDeclare_of_forward (h : ⟨.forwardDeclare, t⟩ ∈ s.events) :
    t.body.canForwardDeclare = true := by
  obtain ⟨ht, hop | hplanned⟩ := hs.forward_mem_events.1 h
  · rw [Entity.body_of_opaque hop]
    rfl
  · obtain ⟨t', ht', hname, _, hcan, _⟩ :=
      Library.exists_of_planned hs.table hs.concrete hs.schedule hplanned
    obtain rfl := Library.eq_of_name_eq hs.table (List.mem_filter.1 ht').1 (List.mem_filter.1 ht).1 hname
    exact hcan

/-- No entity is declared behind its definition, and nothing is said twice. -/
theorem pairwise_events : s.events.Pairwise fun a b =>
    a ≠ b ∧ (a.entity = b.entity → a.kind = .defineType → b.kind ≠ .forwardDeclare) := by
  rw [List.pairwise_iff_forall_sublist]
  intro a b hab
  refine ⟨List.pairwise_iff_forall_sublist.1 hs.nodup_events hab, fun hentity hdefine hforward => ?_⟩
  obtain ⟨kind, t⟩ := a
  obtain ⟨kind', t'⟩ := b
  cases hentity
  cases hdefine
  cases hforward
  have hkind := (hs.define_mem_events.1 (hab.subset List.mem_cons_self)).2
  obtain ⟨ht, hcases⟩ :=
    hs.forward_mem_events.1 (hab.subset (List.mem_cons_of_mem _ List.mem_cons_self))
  have hplanned := hcases.resolve_left hkind
  have hba := Library.sublist_of_planned hs.table hs.concrete hs.schedule ht hplanned
  refine not_sublist_swap hs.nodup_events hab (hba.trans ?_)
  rw [hs.events, List.append_assoc]
  exact List.sublist_append_left _ _

/-- Two entities have no type name in common. -/
theorem disjoint_typeNames (he : e ∈ s.library.entities) (ht : t ∈ s.library.entities) (hne : e ≠ t) :
    e.typeNames.Disjoint t.typeNames := by
  have hpairs := (Library.checkNames_ok hs.names).2
  have hsymm : Std.Symm fun a b : Entity => a.typeNames.Disjoint b.typeNames := ⟨fun _ _ h => h.symm⟩
  exact hpairs.forall (hs.mem_entities.2 he) (hs.mem_entities.2 ht) hne

theorem eq_of_mem_typeNames (he : e ∈ s.library.entities) (ht : t ∈ s.library.entities)
    (hname : name ∈ e.typeNames) (hname' : name ∈ t.typeNames) : e = t := by
  by_contra hne
  exact hs.disjoint_typeNames he ht hne hname hname'

variable (hpayloads : ∀ e ∈ s.entities, e.payloadNames.Nodup)
include hpayloads

/-- What a definition introduces in a stream. -/
theorem introduced_define (hp : (declared, ⟨.defineType, e⟩) ∈ marked [] s.events) :
    introduced (declared, ⟨.defineType, e⟩) =
      e.generatedNames ++ if e.exportName ∈ declared then [] else [e.exportName] := by
  obtain ⟨htypes, hkind⟩ := hs.define_mem_events.1 (mem_of_mem_marked hp)
  obtain ⟨he, htype⟩ := List.mem_filter.1 htypes
  -- A name that is introduced beforehand and belongs to the entity is its own.
  have hown : ∀ n ∈ e.typeNames, n ∈ declared → n = e.exportName ∧ ⟨.forwardDeclare, e⟩ ∈ s.events := by
    intro n hn hdeclared
    rcases exists_forward_of_mem_marked hp hdeclared with hnil | ⟨t, ht, rfl⟩
    · cases hnil
    · obtain rfl := hs.eq_of_mem_typeNames he (hs.mem_library_of_mem_events ht) hn List.mem_cons_self
      exact ⟨rfl, ht⟩
  refine typedefs_definitions htype hkind ?_ ?_
  · intro n hn hdeclared
    obtain ⟨rfl, _⟩ := hown n (List.mem_cons_of_mem _ hn) hdeclared
    exact (List.nodup_cons.1 (Entity.nodup_typeNames (hpayloads e (hs.mem_entities.2 he)))).1 hn
  · intro hplain hdeclared
    have hcan := hs.canForwardDeclare_of_forward (hown _ List.mem_cons_self hdeclared).2
    rw [hplain] at hcan
    cases hcan

theorem mem_introduced (hp : p ∈ marked [] s.events) : name ∈ introduced p ↔
    (p.2.kind = .forwardDeclare ∧ name = p.2.entity.exportName) ∨
      (p.2.kind = .defineType ∧ (name ∈ p.2.entity.generatedNames ∨
        (name = p.2.entity.exportName ∧ p.2.entity.exportName ∉ p.1))) := by
  obtain ⟨declared, kind, e⟩ := p
  cases kind with
  | forwardDeclare => simp [introduced, writtenFor, Written.typedefs]
  | defineType =>
    rw [hs.introduced_define hpayloads hp]
    by_cases hdeclared : e.exportName ∈ declared
    · simp [hdeclared]
    · simp [hdeclared]
  | declareConstant => simp [introduced, writtenFor]
  | declareStatic => simp [introduced, writtenFor]
  | declareFunction => simp [introduced, writtenFor]

/-- The names that an event introduces are those of its entity, which is a type. -/
theorem of_mem_introduced (hp : p ∈ marked [] s.events) (hname : name ∈ introduced p) :
    p.2.entity ∈ s.library.types ∧ name ∈ p.2.entity.typeNames := by
  have hmem := mem_of_mem_marked hp
  obtain ⟨declared, kind, e⟩ := p
  rcases (hs.mem_introduced hpayloads hp).1 hname with ⟨rfl, rfl⟩ | ⟨rfl, hgenerated | ⟨rfl, _⟩⟩
  · exact ⟨(hs.forward_mem_events.1 hmem).1, List.mem_cons_self⟩
  · exact ⟨(hs.define_mem_events.1 hmem).1, List.mem_cons_of_mem _ hgenerated⟩
  · exact ⟨(hs.define_mem_events.1 hmem).1, List.mem_cons_self⟩

theorem nodup_typeNames_of_mem_marked (hp : p ∈ marked [] s.events) : p.2.entity.typeNames.Nodup :=
  Entity.nodup_typeNames
    (hpayloads _ (hs.mem_entities.2 (hs.mem_library_of_mem_events (mem_of_mem_marked hp))))

theorem nodup_introduced (hp : p ∈ marked [] s.events) : (introduced p).Nodup := by
  have hnames := hs.nodup_typeNames_of_mem_marked hpayloads hp
  obtain ⟨declared, kind, e⟩ := p
  cases kind with
  | forwardDeclare => simp [introduced, writtenFor, Written.typedefs]
  | defineType =>
    obtain ⟨hown, hgenerated⟩ := List.nodup_cons.1 hnames
    rw [hs.introduced_define hpayloads hp]
    split
    · simpa using hgenerated
    · refine hgenerated.append (List.nodup_singleton _) ?_
      simpa using hown
  | declareConstant => exact List.nodup_nil
  | declareStatic => exact List.nodup_nil
  | declareFunction => exact List.nodup_nil

/-- No name is introduced twice. -/
theorem nodup_flatMap_introduced : ((marked [] s.events).flatMap introduced).Nodup := by
  refine List.nodup_flatMap.2 ⟨fun p hp => hs.nodup_introduced hpayloads hp, ?_⟩
  refine List.Pairwise.imp_of_mem ?_ (pairwise_marked hs.pairwise_events)
  rintro p q hp hq ⟨⟨hne, horder⟩, hintroduced⟩ n hn hn'
  obtain ⟨hte, hnp⟩ := hs.of_mem_introduced hpayloads hp hn
  obtain ⟨hte', hnq⟩ := hs.of_mem_introduced hpayloads hq hn'
  have hentity := hs.eq_of_mem_typeNames (List.mem_filter.1 hte).1 (List.mem_filter.1 hte').1 hnp hnq
  have hown := (List.nodup_cons.1 (hs.nodup_typeNames_of_mem_marked hpayloads hq)).1
  have hsame : p.2.kind ≠ q.2.kind := by
    intro hkind
    exact hne (by rw [show p.2 = ⟨p.2.kind, p.2.entity⟩ from rfl, hkind, hentity])
  rcases (hs.mem_introduced hpayloads hp).1 hn with ⟨hforward, rfl⟩ | ⟨hdefine, _⟩
  · -- The definition behind a forward declaration leaves out the name.
    have hdeclared := hintroduced hforward
    rcases (hs.mem_introduced hpayloads hq).1 hn' with ⟨hforward', _⟩ | ⟨_, hgenerated | ⟨_, hfree⟩⟩
    · exact hsame (hforward.trans hforward'.symm)
    · rw [hentity] at hgenerated
      exact hown hgenerated
    · rw [hentity] at hdeclared
      exact hfree hdeclared
  · rcases (hs.mem_introduced hpayloads hq).1 hn' with ⟨hforward, _⟩ | ⟨hdefine', _⟩
    · exact horder hentity hdefine hforward
    · exact hsame (hdefine.trans hdefine'.symm)

/-- An entity that is declared or defined among some first events has its name from them. -/
theorem exportName_mem_introduced {front : List (List String × Event)}
    (hfront : front = marked [] (front.map Prod.snd)) (hsub : ∀ q ∈ front, q ∈ marked [] s.events)
    (h : ⟨.defineType, t⟩ ∈ front.map Prod.snd ∨ ⟨.forwardDeclare, t⟩ ∈ front.map Prod.snd) :
    t.exportName ∈ front.flatMap introduced := by
  have hforward : ∀ {u : Entity}, ⟨.forwardDeclare, u⟩ ∈ front.map Prod.snd →
      u.exportName ∈ front.flatMap introduced := by
    intro u hu
    obtain ⟨⟨declared, event⟩, hq, rfl⟩ := List.mem_map.1 hu
    exact List.mem_flatMap.2 ⟨_, hq, (hs.mem_introduced hpayloads (hsub _ hq)).2 (Or.inl ⟨rfl, rfl⟩)⟩
  rcases h with hdefine | hdeclare
  · obtain ⟨⟨declared, event⟩, hq, rfl⟩ := List.mem_map.1 hdefine
    by_cases hdeclared : t.exportName ∈ declared
    · have hq' := hq
      rw [hfront] at hq'
      rcases exists_forward_of_mem_marked hq' hdeclared with hnil | ⟨u, hu, hname⟩
      · cases hnil
      · rw [← hname]
        exact hforward hu
    · exact List.mem_flatMap.2 ⟨_, hq, (hs.mem_introduced hpayloads (hsub _ hq)).2
        (Or.inr ⟨rfl, Or.inr ⟨rfl, hdeclared⟩⟩)⟩
  · exact hforward hdeclare

/-- The names introduced are those of the types. -/
theorem mem_flatMap_introduced : name ∈ (marked [] s.events).flatMap introduced ↔
    ∃ e ∈ s.library.types, name ∈ e.typeNames := by
  constructor
  · intro h
    obtain ⟨p, hp, hname⟩ := List.mem_flatMap.1 h
    exact ⟨_, hs.of_mem_introduced hpayloads hp hname⟩
  · rintro ⟨e, he, hname⟩
    by_cases hop : e.kind = .opaqueType
    · have hown : name = e.exportName := by
        simpa [Entity.typeNames, Entity.generatedNames, Entity.body_of_opaque hop] using hname
      rw [hown]
      refine hs.exportName_mem_introduced hpayloads (by rw [map_snd_marked]) (fun _ h => h) (Or.inr ?_)
      rw [map_snd_marked]
      exact hs.forward_mem_events.2 ⟨he, Or.inl hop⟩
    · have hdefine := hs.define_mem_events.2 ⟨he, hop⟩
      rcases List.mem_cons.1 hname with rfl | hgenerated
      · refine hs.exportName_mem_introduced hpayloads (by rw [map_snd_marked]) (fun _ h => h) (Or.inl ?_)
        rwa [map_snd_marked]
      · rw [← map_snd_marked [] s.events] at hdefine
        obtain ⟨⟨declared, event⟩, hp, rfl⟩ := List.mem_map.1 hdefine
        exact List.mem_flatMap.2 ⟨_, hp, (hs.mem_introduced hpayloads hp).2 (Or.inr ⟨rfl, Or.inl hgenerated⟩)⟩

end Stream.IsMade

end CrateHeader
