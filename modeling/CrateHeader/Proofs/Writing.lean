import Mathlib
import CrateHeader.Proofs.Introducing
import CrateHeader.Proofs.Printing

/-!
# Declared before use

A header names a type only behind the `typedef` that introduces it, and puts a struct, a union or a tagged
enum into another type only behind its members. The events of a stream provide for that; what is left is that
the definition of a tagged enum, which is several declarations, mentions only what the enum itself mentions.
What the declarations say of names is said of the lines that are printed for them.
-/

namespace CrateHeader

/-- Is an entity a struct to C, a union, or a tagged enum? -/
def Entity.IsRecord (e : Entity) : Prop :=
  e.kind = .struct ∨ e.kind = .union ∨ e.body.isTagged = true

theorem Entity.IsRecord.not_isOpaque {e : Entity} (h : e.IsRecord) : e.kind ≠ .opaqueType := by
  intro hop
  unfold Entity.IsRecord at h
  simp [hop, Entity.body_of_opaque hop, Body.isTagged] at h

namespace Header

variable {settings : Settings} {s : Stream} {declared : List String} {event : Event} {e : Entity}
  {d : Written} {m : Ty.Mention}

/-! ### What definitions are made of -/

/-- The declarations that the definition of a type may hold. -/
inductive Defines (e : Entity) : Written → Prop where
  | synonym {target : Ty} (hbody : e.body = .typeAlias target) : Defines e (.synonym target e.exportName)
  | record {fields : List Field} {introduces : Bool} {keyword layout : String}
      (hbody : e.body = .struct fields ∨ e.body = .union fields)
      (hkeyword : keyword = "struct" ∨ keyword = "union") :
      Defines e (.record introduces keyword layout e.exportName (fields.map .field))
  | enumeration {variants : List Variant} {name : String} (hbody : e.body = .enum variants)
      (hname : name ∈ e.typeNames) : Defines e (.enumeration e.annotations.layout variants name)
  | payload {variants : List Variant} {v : Variant} {introduces : Bool} (hbody : e.body = .enum variants)
      (hv : v ∈ variants) (hname : e.bodyName v ∈ e.typeNames) :
      Defines e (.record introduces "struct" "" (e.bodyName v) (v.fields.map .field))
  | tagged {variants : List Variant} {introduces : Bool} {layout : String} (hbody : e.body = .enum variants) :
      Defines e (.record introduces "struct" layout e.exportName
        [.tag e.tagName, .payloads ((variants.filter Variant.hasPayload).map fun v =>
          (e.bodyName v, payloadMember v))])

theorem defines_of_mem_definitions (hd : d ∈ definitions declared e) : Defines e d := by
  cases hbody : e.body with
  | enum variants =>
    by_cases htagged : (Body.enum variants).isTagged = true
    · have hgenerated : e.generatedNames =
          e.tagName :: (variants.filter Variant.hasPayload).map e.bodyName := by
        simp [Entity.generatedNames, hbody, htagged]
      simp only [definitions, hbody, htagged, if_true, List.mem_append, List.mem_cons, List.mem_map,
        List.not_mem_nil, or_false] at hd
      rcases hd with (rfl | ⟨v, hv, rfl⟩) | rfl
      · exact .enumeration hbody (by simp [Entity.typeNames, hgenerated])
      · refine .payload hbody (List.mem_filter.1 hv).1 ?_
        rw [Entity.typeNames, hgenerated]
        exact List.mem_cons_of_mem _ (List.mem_cons_of_mem _ (List.mem_map_of_mem hv))
      · exact .tagged hbody
    · obtain rfl : d = .enumeration e.annotations.layout variants e.exportName := by
        simpa [definitions, hbody, htagged] using hd
      exact .enumeration hbody List.mem_cons_self
  | struct fields =>
    simp only [definitions, hbody, List.mem_singleton] at hd
    exact hd ▸ .record (Or.inl hbody) (Or.inl rfl)
  | union fields =>
    simp only [definitions, hbody, List.mem_singleton] at hd
    exact hd ▸ .record (Or.inr hbody) (Or.inr rfl)
  | typeAlias target =>
    simp only [definitions, hbody, List.mem_singleton] at hd
    exact hd ▸ .synonym hbody
  | opaqueType => simp [definitions, hbody] at hd
  | function args ret never => simp [definitions, hbody] at hd
  | constant ty value => simp [definitions, hbody] at hd
  | static ty isMut => simp [definitions, hbody] at hd

/-! ### What declarations mention -/

theorem mem_mentions_of_field {fields : List Field} {types : List Ty}
    (hm : m ∈ (fields.map Slot.field).flatMap Slot.mentions) (hsub : ∀ f ∈ fields, f.ty ∈ types) :
    m ∈ types.flatMap Ty.paths := by
  obtain ⟨slot, hslot, hm⟩ := List.mem_flatMap.1 hm
  obtain ⟨f, hf, rfl⟩ := List.mem_map.1 hslot
  exact List.mem_flatMap.2 ⟨f.ty, hsub f hf, hm⟩

/-- The declarations of a type mention what the type mentions. -/
theorem mem_mentions_of_definitions (hd : d ∈ definitions declared e) (hm : m ∈ d.mentions) :
    m ∈ e.mentions := by
  unfold Entity.mentions
  cases defines_of_mem_definitions hd with
  | synonym hbody => simpa [hbody, Body.types, Written.mentions] using hm
  | record hbody hkeyword =>
    rcases hbody with hbody | hbody
    all_goals
      rw [hbody]
      exact mem_mentions_of_field hm fun f hf => List.mem_map_of_mem hf
  | enumeration hbody hname => cases hm
  | payload hbody hv hname =>
    rw [hbody]
    exact mem_mentions_of_field hm fun f hf => List.mem_flatMap.2 ⟨_, hv, List.mem_map_of_mem hf⟩
  | tagged hbody => simp [Written.mentions, Slot.mentions] at hm

/-- Of the declarations about a type only those of its definition mention anything. -/
theorem mem_mentions_of_writtenFor (hd : d ∈ writtenFor declared event) (hm : m ∈ d.mentions) :
    event.kind = .defineType ∧ m ∈ event.entity.mentions := by
  obtain ⟨kind, e⟩ := event
  cases kind with
  | defineType => exact ⟨rfl, mem_mentions_of_definitions hd hm⟩
  | forwardDeclare =>
    obtain rfl := List.mem_singleton.1 hd
    cases hm
  | declareConstant => cases hd
  | declareStatic => cases hd
  | declareFunction => cases hd

theorem mem_mentions_of_writtenValue (hd : d ∈ writtenValue e) (hm : m ∈ d.mentions) : m ∈ e.mentions := by
  unfold Entity.mentions
  unfold writtenValue at hd
  cases hbody : e.body <;> simp only [hbody, List.mem_singleton, List.not_mem_nil] at hd
  · subst hd
    exact hm
  · subst hd
    cases hm
  · subst hd
    simpa [Body.types, Written.mentions] using hm

theorem typedefs_writtenValue : (writtenValue e).flatMap Written.typedefs = [] := by
  unfold writtenValue
  cases e.body <;> rfl

/-- The definition of a struct, a union or a tagged enum completes it. -/
theorem mem_completes_definitions (h : e.IsRecord) :
    e.exportName ∈ (definitions declared e).flatMap Written.completes := by
  unfold Entity.IsRecord Entity.kind at h
  cases hbody : e.body with
  | enum variants =>
    have htagged : (Body.enum variants).isTagged = true := by
      simpa [hbody, Body.kind] using h
    simp [definitions, hbody, htagged, Written.completes]
  | struct fields => simp [definitions, hbody, Written.completes]
  | union fields => simp [definitions, hbody, Written.completes]
  | typeAlias target => simp [hbody, Body.kind, Body.isTagged] at h
  | opaqueType => simp [hbody, Body.kind, Body.isTagged] at h
  | function args ret never => simp [hbody, Body.kind, Body.isTagged] at h
  | constant ty value => simp [hbody, Body.kind, Body.isTagged] at h
  | static ty isMut => simp [hbody, Body.kind, Body.isTagged] at h

/-! ### The declarations of a header in order -/

/-- The declarations that belong to types. -/
def typesWritten (s : Stream) : List Written :=
  (marked [] s.events).flatMap fun p => writtenFor p.1 p.2

/-- The declarations behind those of the types. -/
def valuesWritten (s : Stream) : List Written :=
  (s.events.filter fun e => [EventKind.declareConstant].contains e.kind).flatMap
      (fun e => writtenValue e.entity) ++
    (s.events.filter fun e => [EventKind.declareStatic, .declareFunction].contains e.kind).flatMap
      fun e => writtenValue e.entity

theorem written_outline : (outline settings s).written = typesWritten s ++ valuesWritten s := by
  have htypes : ∀ marks : List (List String × Event),
      ((marks.filter fun p => isAboutType p.2).map fun p =>
        (⟨typeHead settings p.2, writtenFor p.1 p.2⟩ : Block)).flatMap (·.written) =
          marks.flatMap fun p => writtenFor p.1 p.2 := by
    intro marks
    induction marks with
    | nil => rfl
    | cons p rest ih =>
      obtain ⟨declared, kind, e⟩ := p
      cases kind <;> simp_all [isAboutType, writtenFor]
  unfold Outline.written outline typesWritten valuesWritten
  rw [List.flatMap_append, List.flatMap_append, htypes, List.flatMap_map, List.flatMap_map, List.append_assoc]
  rfl

theorem of_mem_valuesWritten (hd : d ∈ valuesWritten s) :
    ∃ event ∈ s.events, d ∈ writtenValue event.entity := by
  rcases List.mem_append.1 hd with hd | hd
  · obtain ⟨event, hevent, hd⟩ := List.mem_flatMap.1 hd
    exact ⟨event, (List.mem_filter.1 hevent).1, hd⟩
  · obtain ⟨event, hevent, hd⟩ := List.mem_flatMap.1 hd
    exact ⟨event, (List.mem_filter.1 hevent).1, hd⟩

/-- Every declaration belongs to an event. -/
theorem exists_event_of_written (hd : d ∈ (outline settings s).written) :
    ∃ event ∈ s.events, (∃ declared, d ∈ writtenFor declared event) ∨ d ∈ writtenValue event.entity := by
  rw [written_outline] at hd
  rcases List.mem_append.1 hd with hd | hd
  · obtain ⟨p, hp, hd⟩ := List.mem_flatMap.1 hd
    exact ⟨p.2, mem_of_mem_marked hp, Or.inl ⟨p.1, hd⟩⟩
  · obtain ⟨event, hevent, hd⟩ := of_mem_valuesWritten hd
    exact ⟨event, hevent, Or.inr hd⟩

/-- Records are structs and unions. -/
theorem hasKeyword_of_mem_written (hd : d ∈ (outline settings s).written) : d.HasKeyword := by
  obtain ⟨⟨kind, e⟩, _, ⟨declared, hd⟩ | hd⟩ := exists_event_of_written hd
  · cases kind with
    | forwardDeclare =>
      obtain rfl := List.mem_singleton.1 hd
      by_cases hunion : e.kind = .union
      · simp [Written.HasKeyword, hunion]
      · simp [Written.HasKeyword, hunion]
    | defineType =>
      cases defines_of_mem_definitions hd with
      | record hbody hkeyword => exact hkeyword
      | payload hbody hv hname => exact Or.inl rfl
      | tagged hbody => exact Or.inl rfl
      | synonym hbody => trivial
      | enumeration hbody hname => trivial
    | declareConstant => cases hd
    | declareStatic => cases hd
    | declareFunction => cases hd
  · unfold writtenValue at hd
    cases hbody : e.body <;> simp only [hbody, List.mem_singleton, List.not_mem_nil] at hd
    all_goals
      subst hd
      trivial

theorem typedefs_written : (outline settings s).written.flatMap Written.typedefs =
    (marked [] s.events).flatMap introduced := by
  have hvalues : (valuesWritten s).flatMap Written.typedefs = [] := by
    refine List.flatMap_eq_nil_iff.2 fun d hd => ?_
    obtain ⟨event, _, hd⟩ := of_mem_valuesWritten hd
    exact List.flatMap_eq_nil_iff.1 typedefs_writtenValue d hd
  rw [written_outline, List.flatMap_append, hvalues, List.append_nil, typesWritten, List.flatMap_assoc]
  rfl

/-- A place in what a list expands to is a place in what one of its members expands to. -/
theorem flatMap_eq_append_cons {α β : Type} {f : α → List β} {xs : List α} {front back : List β} {y : β}
    (h : xs.flatMap f = front ++ y :: back) : ∃ before x after here later,
      xs = before ++ x :: after ∧ f x = here ++ y :: later ∧ front = before.flatMap f ++ here := by
  induction xs generalizing front with
  | nil => simp at h
  | cons x rest ih =>
    rw [List.flatMap_cons] at h
    rcases append_eq_append_cons h with ⟨later, hx, _⟩ | ⟨tail, hfront, hrest⟩
    · exact ⟨[], x, rest, front, later, rfl, hx, rfl⟩
    · obtain ⟨before, z, after, here, later, rfl, hz, rfl⟩ := ih hrest
      exact ⟨x :: before, z, after, here, later, rfl, hz, by rw [hfront, List.flatMap_cons, List.append_assoc]⟩

/-- A record that is defined among some first events has been completed. -/
theorem exportName_mem_completes {front : List (List String × Event)}
    (h : ⟨.defineType, e⟩ ∈ front.map Prod.snd) (hrecord : e.IsRecord) :
    e.exportName ∈ (front.flatMap fun p => writtenFor p.1 p.2).flatMap Written.completes := by
  obtain ⟨⟨declared, event⟩, hp, rfl⟩ := List.mem_map.1 h
  obtain ⟨d, hd, hname⟩ := List.mem_flatMap.1 (mem_completes_definitions hrecord)
  exact List.mem_flatMap.2 ⟨d, List.mem_flatMap.2 ⟨_, hp, hd⟩, hname⟩

end Header

namespace Stream.IsMade

open Header

variable {s : Stream} {forward : List String} {order : List Entity} {e t : Entity} {d : Written}
  {m : Ty.Mention} {before after : List Written} (hs : s.IsMade forward order)
  (hpayloads : ∀ e ∈ s.entities, e.payloadNames.Nodup)
include hs

theorem mem_types_of_mention (he : e ∈ s.library.entities) (hm : m ∈ e.mentions)
    (hfound : s.library.get? m.name = some t) : t ∈ s.library.types := by
  rcases hs.mention_cases he hm with ⟨hnone, _⟩ | ⟨t', ht', htype, _⟩
  · rw [hfound] at hnone
    cases hnone
  · obtain rfl : t = t' := Option.some.inj (hfound.symm.trans ht')
    exact List.mem_filter.2 ⟨Library.mem_of_get? hfound, htype⟩

include hpayloads

/-- What a declaration of a type mentions stands in front of it. -/
theorem ready_of_type (hsplit : typesWritten s = before ++ d :: after) (hm : m ∈ d.mentions)
    (hfound : s.library.get? m.name = some t) :
    t.exportName ∈ before.flatMap Written.typedefs ∧
      (m.behindPointer = false → t.IsRecord → t.exportName ∈ before.flatMap Written.completes) := by
  obtain ⟨front, p, rest, here, later, hmarked, hwritten, rfl⟩ := flatMap_eq_append_cons hsplit
  have hd : d ∈ writtenFor p.1 p.2 := by
    rw [hwritten]
    exact List.mem_append_right _ List.mem_cons_self
  obtain ⟨hkind, hmention⟩ := mem_mentions_of_writtenFor hd hm
  obtain ⟨hevents, hfront⟩ := marked_split hmarked
  have hsub : ∀ q ∈ front, q ∈ marked [] s.events := by
    intro q hq
    rw [hmarked]
    exact List.mem_append_left _ hq
  have he : p.2.entity ∈ s.library.entities := hs.mem_library_of_mem_events (by simp [hevents])
  have htype := (List.mem_filter.1 (hs.mem_types_of_mention he hmention hfound)).2
  have hnot : p.2.kind ≠ .forwardDeclare := by
    rw [hkind]
    decide
  have havailable := hs.available hevents hnot hmention hfound htype
  have htypedef : t.exportName ∈ front.flatMap introduced := by
    refine hs.exportName_mem_introduced hpayloads hfront hsub ?_
    rcases havailable with hdefine | ⟨_, hforward⟩ | ⟨_, hforward⟩
    · exact Or.inl hdefine
    · exact Or.inr hforward
    · exact Or.inr hforward
  rw [List.flatMap_append, List.flatMap_append]
  constructor
  · rw [List.flatMap_assoc]
    exact List.mem_append_left _ htypedef
  · intro hvalue hrecord
    rcases havailable with hdefine | ⟨hop, _⟩ | ⟨hbehind, _⟩
    · exact List.mem_append_left _ (exportName_mem_completes hdefine hrecord)
    · exact absurd hop hrecord.not_isOpaque
    · rw [hvalue] at hbehind
      cases hbehind

/-- What is mentioned behind all types stands among them. -/
theorem ready_of_value (hd : d ∈ valuesWritten s) (hm : m ∈ d.mentions)
    (hfound : s.library.get? m.name = some t) :
    t.exportName ∈ (typesWritten s).flatMap Written.typedefs ∧
      (t.IsRecord → t.exportName ∈ (typesWritten s).flatMap Written.completes) := by
  obtain ⟨event, hevent, hd⟩ := of_mem_valuesWritten hd
  have he := hs.mem_library_of_mem_events hevent
  have ht := hs.mem_types_of_mention he (mem_mentions_of_writtenValue hd hm) hfound
  constructor
  · rw [typesWritten, List.flatMap_assoc]
    exact (hs.mem_flatMap_introduced hpayloads).2 ⟨t, ht, List.mem_cons_self⟩
  · intro hrecord
    refine exportName_mem_completes ?_ hrecord
    rw [map_snd_marked]
    exact hs.define_mem_events.2 ⟨ht, hrecord.not_isOpaque⟩

end Stream.IsMade

/-! ### The main statement -/

namespace Header

/-- The text of a header is the lines of its declarations, one behind the other, and nothing between them declares
anything. Each declaration introduces its name by a `typedef` and, prototypes apart, holds no other one; it
completes its record by braces, and prints no names of types but those that it mentions. The names introduced are
those of the types, each by one declaration. A declaration that mentions a type of the library calls it by its name
for C and stands behind the `typedef` of that name, and behind the members if it mentions a record outside
pointers. -/
theorem declared_before_use {settings : Settings} {ds : List Declaration} {s : Stream}
    (h : (Pipeline.run settings ds).result = .ok s)
    (hpayloads : ∀ e ∈ s.entities, e.payloadNames.Nodup) :
    (∀ text, write settings s = .ok text → text = Text.dropFinalNewlines
      ("\n".intercalate ((outline settings s).lines settings s.library)) ++ "\n") ∧
    SpellsOut settings (nameOf s.library) (outline settings s).written
      ((outline settings s).lines settings s.library) ∧
    (∀ d ∈ (outline settings s).written, d.Shows settings (nameOf s.library)) ∧
    (∀ name, name ∈ (outline settings s).written.flatMap Written.typedefs ↔
      ∃ e ∈ s.entities, e.isType = true ∧ name ∈ e.typeNames) ∧
    (∀ name ∈ (outline settings s).written.flatMap Written.typedefs,
      ((outline settings s).written.flatMap Written.typedefs).count name = 1) ∧
    ∀ before d after, (outline settings s).written = before ++ d :: after →
      ∀ m ∈ d.mentions, ∀ t, s.library.get? m.name = some t →
        nameOf s.library m.name = t.exportName ∧
        t.exportName ∈ before.flatMap Written.typedefs ∧
        (m.behindPointer = false → t.IsRecord → t.exportName ∈ before.flatMap Written.completes) := by
  obtain ⟨forward, order, hs⟩ := Pipeline.run_ok h
  refine ⟨fun text => write_outline, spellsOut_outline settings s,
    fun d hd => Written.shows (hasKeyword_of_mem_written hd), ?_, ?_, ?_⟩
  · intro name
    rw [typedefs_written, hs.mem_flatMap_introduced hpayloads]
    constructor
    · rintro ⟨e, he, hname⟩
      obtain ⟨hmem, htype⟩ := List.mem_filter.1 he
      exact ⟨e, hs.mem_entities.2 hmem, htype, hname⟩
    · rintro ⟨e, he, htype, hname⟩
      exact ⟨e, List.mem_filter.2 ⟨hs.mem_entities.1 he, htype⟩, hname⟩
  · intro name hname
    rw [typedefs_written] at hname ⊢
    exact List.count_eq_one_of_mem (hs.nodup_flatMap_introduced hpayloads) hname
  · intro before d after hsplit m hm t hfound
    refine ⟨by simp [nameOf, hfound], ?_⟩
    rw [written_outline] at hsplit
    rcases append_eq_append_cons hsplit with ⟨later, htypes, _⟩ | ⟨front, rfl, hvalues⟩
    · exact hs.ready_of_type hpayloads htypes hm hfound
    · have hd : d ∈ valuesWritten s := by
        rw [hvalues]
        exact List.mem_append_right _ List.mem_cons_self
      obtain ⟨htypedef, hcomplete⟩ := hs.ready_of_value hpayloads hd hm hfound
      rw [List.flatMap_append, List.flatMap_append]
      exact ⟨List.mem_append_left _ htypedef, fun _ hrecord => List.mem_append_left _ (hcomplete hrecord)⟩

theorem declared_before_use_grove : (Pipeline.run .default grove).result = .ok groveStream ∧
    (∀ e ∈ groveStream.entities, e.payloadNames.Nodup) ∧
    (outline .default groveStream).written.map (Written.lines .default (nameOf groveStream.library)) =
      [["typedef struct Tree Tree;"],
        ["typedef struct Node \x7b", "  Tree *tree;", "\x7d Node;"],
        ["typedef enum Tree_Tag \x7b", "  Leaf,", "  Fork,", "\x7d Tree_Tag;"],
        ["typedef struct Tree_Leaf_Body \x7b", "  uint32_t key;", "\x7d Tree_Leaf_Body;"],
        ["typedef struct Tree_Fork_Body \x7b", "  Node *node;", "\x7d Tree_Fork_Body;"],
        ["struct Tree \x7b", "  Tree_Tag tag;", "  union \x7b", "    Tree_Leaf_Body leaf;",
          "    Tree_Fork_Body fork;", "  \x7d;", "\x7d;"]] ∧
    (outline .default groveStream).written.flatMap Written.typedefs =
      ["Tree", "Node", "Tree_Tag", "Tree_Leaf_Body", "Tree_Fork_Body"] ∧
    (∀ d ∈ (outline .default groveStream).written, d.Shows .default (nameOf groveStream.library)) ∧
    ∀ before d after, (outline .default groveStream).written = before ++ d :: after →
      ∀ m ∈ d.mentions, ∀ t, groveStream.library.get? m.name = some t →
        t.exportName ∈ before.flatMap Written.typedefs := by
  have hpayloads : ∀ e ∈ groveStream.entities, e.payloadNames.Nodup := by decide
  obtain ⟨_, _, hshows, _, _, hready⟩ := declared_before_use run_grove hpayloads
  refine ⟨run_grove, hpayloads, ?lines, ?names, hshows, fun before d after hsplit m hm t ht =>
    (hready before d after hsplit m hm t ht).2.1⟩
  case lines => cbv
  case names => cbv

end Header

end CrateHeader
