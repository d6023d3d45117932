import CrateHeader.Proofs.MemberNames
import CrateHeader.Proofs.Writing

/-!
# Names in the scopes of a header

The names that a header gives to types, functions and objects are checked against each other, so no two of
them are the same. Enumerators and members, which stand inside the lines of a declaration, are not checked. They
differ where the rule that names them tells their names in the source apart, and where no name is taken for a
keyword that has been escaped.
-/

namespace CrateHeader

/-- Does a way of calling names tell some of them apart? -/
def TellsApart (call : String → String) (names : List String) : Prop :=
  ∀ a ∈ names, ∀ b ∈ names, call a = call b → a = b

instance (call : String → String) (names : List String) : Decidable (TellsApart call names) :=
  inferInstanceAs (Decidable (∀ a ∈ names, ∀ b ∈ names, call a = call b → a = b))

theorem TellsApart.nodup_map {call : String → String} {names : List String} (h : TellsApart call names)
    (hnames : names.Nodup) : (names.map call).Nodup :=
  List.Nodup.map_on (fun a ha b hb => h a ha b hb) hnames

/-- Names of C that one scope holds: those that it has of itself, and those that a rule makes of names in the
source. -/
structure Scope where
  fixed : List String
  sources : List String
  call : String → String

namespace Scope

def names (c : Scope) : List String := c.fixed ++ c.sources.map fun name => escapeKeyword (c.call name)

/-- The rule tells the names of the source apart, calls none of them like an escaped keyword when it calls
another one like the keyword, and stays clear of the names that the scope has of itself. -/
structure IsClear (c : Scope) : Prop where
  apart : TellsApart c.call c.sources
  escaped : ∀ a ∈ c.sources, c.call a ∈ cKeywords → ∀ b ∈ c.sources, c.call b ≠ c.call a ++ "_"
  free : ∀ a ∈ c.sources, escapeKeyword (c.call a) ∉ c.fixed

instance (c : Scope) : Decidable c.IsClear :=
  decidable_of_iff (TellsApart c.call c.sources ∧
      (∀ a ∈ c.sources, c.call a ∈ cKeywords → ∀ b ∈ c.sources, c.call b ≠ c.call a ++ "_") ∧
      ∀ a ∈ c.sources, escapeKeyword (c.call a) ∉ c.fixed)
    ⟨fun ⟨apart, escaped, free⟩ => ⟨apart, escaped, free⟩, fun h => ⟨h.apart, h.escaped, h.free⟩⟩

/-- An escaped name can be taken for another one only by a name that looks like the escape of a keyword. -/
theorem eq_of_escapeKeyword_eq {a b : String} (h : escapeKeyword a = escapeKeyword b)
    (ha : a ∈ cKeywords → b ≠ a ++ "_") (hb : b ∈ cKeywords → a ≠ b ++ "_") : a = b := by
  by_cases hak : a ∈ cKeywords
  · by_cases hbk : b ∈ cKeywords
    · simpa [escapeKeyword, hak, hbk] using h
    · rw [escapeKeyword_of_not_mem hbk] at h
      exact absurd (by simpa [escapeKeyword, hak] using h.symm) (ha hak)
  · rw [escapeKeyword_of_not_mem hak] at h
    by_cases hbk : b ∈ cKeywords
    · exact absurd (by simpa [escapeKeyword, hbk] using h) (hb hbk)
    · rwa [escapeKeyword_of_not_mem hbk] at h

theorem IsClear.nodup_names {c : Scope} (h : c.IsClear) (hfixed : c.fixed.Nodup) (hsources : c.sources.Nodup) :
    c.names.Nodup := by
  have htells : TellsApart (fun name => escapeKeyword (c.call name)) c.sources := fun a ha b hb hab =>
    h.apart a ha b hb (eq_of_escapeKeyword_eq hab (fun hkeyword => h.escaped a ha hkeyword b hb)
      fun hkeyword => h.escaped b hb hkeyword a ha)
  refine List.Nodup.append hfixed (htells.nodup_map hsources) fun name hname hcalled => ?_
  obtain ⟨a, ha, rfl⟩ := List.mem_map.1 hcalled
  exact h.free a ha hname

end Scope

/-! ### The names of a declaration -/

namespace Slot

def fieldName? : Slot → Option String
  | field f => some f.name
  | _ => none

/-- The members of C that stand at a place. -/
def members : Slot → List String
  | field f => [f.exportName]
  | tag _ => ["tag"]
  | payloads members => members.map Prod.snd

end Slot

namespace Entity

def variantRule (settings : Settings) (e : Entity) : RenameRule :=
  e.memberRule settings.enumeration.renameVariants

/-- The fields of a payload follow the settings alone. -/
def fieldRule (settings : Settings) (e : Entity) : RenameRule :=
  match e.body with
  | .enum _ => settings.renameFields
  | _ => e.memberRule settings.renameFields

def argumentRule (settings : Settings) (e : Entity) : RenameRule :=
  e.memberRule settings.function.renameArgs

end Entity

namespace Written

/-- The name that a declaration is about. -/
def name : Written → String
  | forward _ name => name
  | record _ _ _ name _ => name
  | enumeration _ _ name => name
  | synonym _ name => name
  | constant name _ => name
  | object _ _ name => name
  | function _ _ _ name => name

/-- The names of types, functions and objects that a declaration introduces at file scope. -/
def ordinary : Written → List String
  | object _ _ name => [name]
  | function _ _ _ name => [name]
  | d => d.typedefs

def variantNames : Written → List String
  | enumeration _ variants _ => variants.map (·.name)
  | _ => []

def enumerators : Written → List String
  | enumeration _ variants _ => variants.map (·.exportName)
  | _ => []

/-- The members of a struct or union, those of the union inside it too, or the named parameters of a
function. -/
def members : Written → List String
  | record _ _ _ _ slots => slots.flatMap Slot.members
  | function args _ _ _ => args.filterMap (·.exportName)
  | _ => []

/-- Where the members of a declaration of an entity have their names from. -/
def scope (settings : Settings) (e : Entity) : Written → Scope
  | record _ _ _ _ [.tag _, .payloads _] =>
    ⟨["tag"], e.payloadNames, fun name => RenameRule.snake.apply name .structMember ""⟩
  | record _ _ _ _ slots =>
    ⟨[], slots.filterMap Slot.fieldName?, fun name => (e.fieldRule settings).apply name .structMember ""⟩
  | function args _ _ _ =>
    ⟨[], args.filterMap (·.name), fun name => (e.argumentRule settings).apply name .functionArg ""⟩
  | _ => ⟨[], [], id⟩

theorem nodup_fixed_scope (settings : Settings) (e : Entity) (d : Written) : (d.scope settings e).fixed.Nodup := by
  unfold scope
  split
  · exact List.nodup_singleton _
  all_goals exact List.nodup_nil

/-- A record of fields alone has no other names. -/
theorem scope_fields {settings : Settings} {e : Entity} {introduces : Bool} {keyword layout name : String}
    (fields : List Field) : (record introduces keyword layout name (fields.map .field)).scope settings e =
      ⟨[], fields.map (·.name), fun name => (e.fieldRule settings).apply name .structMember ""⟩ := by
  have hnames : (fields.map Slot.field).filterMap Slot.fieldName? = fields.map (·.name) := by
    rw [List.filterMap_map, ← List.filterMap_eq_map]
    rfl
  rw [← hnames]
  cases fields <;> rfl

end Written

/-! ### The names in the lines of a declaration -/

namespace Header

/-- Lines between braces, with the names that they introduce there. -/
inductive Lists (settings : Settings) : List String → List String → Prop where
  | nil : Lists settings [] []
  | docs (docs : List String) {rest names : List String} (h : Lists settings rest names) :
      Lists settings (docLines settings indent docs ++ rest) names
  | enumerator (name : String) (value : Option String) {rest names : List String} (h : Lists settings rest names) :
      Lists settings ((indent ++ name ++ (value.map (" = " ++ ·)).getD "" ++ ",") :: rest) (name :: names)
  | member (d : Declarator) (name : String) {rest names : List String} (h : Lists settings rest names) :
      Lists settings ((indent ++ d.render (some name) "" ++ ";") :: rest) (name :: names)
  | tag (typeName : String) {rest names : List String} (h : Lists settings rest names) :
      Lists settings ((indent ++ typeName ++ " tag;") :: rest) ("tag" :: names)
  /-- The members of the union inside share the scope. -/
  | payloads (members : List (String × String)) {rest names : List String} (h : Lists settings rest names) :
      Lists settings ((indent ++ "union \x7b") ::
        members.map (fun p => indent ++ indent ++ p.1 ++ " " ++ p.2 ++ ";") ++ [indent ++ "\x7d;"] ++ rest)
        (members.map Prod.snd ++ names)

/-- Lines of a declaration of a name, with the names that are introduced inside it. -/
inductive Encloses (settings : Settings) (name : String) : List String → List String → Prop where
  | braces {opening : String} {body closing inside : List String} (h : Lists settings body inside) :
      Encloses settings name (opening :: body ++ closing) inside
  | prototype (ret : Declarator) (params : List (Option String × Declarator)) (never : Bool) (mark : String) :
      Encloses settings name
        [(Declarator.under (.function (Declarator.paramList params) never) ret).render (some name) mark ++ ";"]
        (params.filterMap Prod.fst)
  | object (d : Declarator) : Encloses settings name ["extern " ++ d.render (some name) "" ++ ";"] []
  /-- A type that is only told of, a synonym or a constant. -/
  | plain (line : String) : Encloses settings name [line] []

variable {settings : Settings}

theorem lists_slots (names : String → String) (slots : List Slot) :
    Lists settings (slots.flatMap (Slot.lines settings names)) (slots.flatMap Slot.members) := by
  induction slots with
  | nil => exact .nil
  | cons slot rest ih =>
    rw [List.flatMap_cons, List.flatMap_cons]
    cases slot with
    | field f =>
      rw [Slot.lines, List.append_assoc]
      exact .docs f.docs (.member _ f.exportName ih)
    | tag typeName => exact .tag typeName ih
    | payloads members => exact .payloads members ih

theorem lists_enumerators (variants : List Variant) :
    Lists settings (variants.flatMap (Written.enumerator settings)) (variants.map (·.exportName)) := by
  induction variants with
  | nil => exact .nil
  | cons v rest ih =>
    rw [List.flatMap_cons, List.map_cons, Written.enumerator, List.append_assoc]
    exact .docs v.docs (.enumerator v.exportName v.discriminant ih)

/-- The names inside a declaration are its enumerators and members. -/
theorem encloses_lines (names : String → String) (d : Written) :
    Encloses settings d.name (d.lines settings names) (d.enumerators ++ d.members) := by
  cases d with
  | record introduces keyword layout name slots =>
    cases introduces with
    | true => exact .braces (lists_slots names slots)
    | false => exact .braces (lists_slots names slots)
  | enumeration layout variants name =>
    have hlists : Lists settings _ _ := lists_enumerators variants
    simp only [Written.lines, Written.enumerators, Written.members, List.append_nil]
    cases layout.discriminant with
    | none => exact .braces hlists
    | some width => exact .braces hlists
  | function args ret never name =>
    have hmembers : args.filterMap (·.exportName) =
        (args.map fun a => (a.exportName, Declarator.ofArgument names a)).filterMap Prod.fst := by
      rw [List.filterMap_map]
      rfl
    simp only [Written.enumerators, Written.members, List.nil_append, hmembers]
    exact .prototype _ _ never _
  | object ty isMut name => exact .object _
  | forward keyword name => exact .plain _
  | synonym target name => exact .plain _
  | constant name value => exact .plain _

end Header

/-! ### What names an entity has been given -/

/-- Giving names a second time changes nothing. -/
def Entity.IsNamed (settings : Settings) (e : Entity) : Prop := e.nameMembers settings = e.body

theorem Argument.named_named (rule : RenameRule) (a : Argument) : (a.named rule).named rule = a.named rule := by
  cases hname : a.name with
  | none => simp [named, hname]
  | some name => simp [named, hname]

theorem Entity.isNamed_assignNames (settings : Settings) (e : Entity) :
    (e.assignNames settings).IsNamed settings := by
  unfold IsNamed assignNames nameMembers
  cases hbody : e.body <;>
    simp [memberRule, Field.named, Variant.exportNameFor, Function.comp_def, Argument.named_named]

theorem Field.exportNames_of_named {rule : RenameRule} {fields : List Field}
    (h : fields.map (named rule) = fields) :
    fields.map (·.exportName) = fields.map fun f => escapeKeyword (rule.apply f.name .structMember "") := by
  conv_lhs => rw [← h, List.map_map]
  rfl

/-- What is known of the names in a declaration of an entity. -/
structure Written.IsNamedFor (settings : Settings) (e : Entity) (d : Written) : Prop where
  name : d.name ∈ e.typeNames
  enumerators : ∃ front, d.enumerators = d.variantNames.map fun name =>
    front ++ (e.variantRule settings).apply name .enumVariant e.exportName
  variants : d.variantNames.Nodup
  members : d.members = (d.scope settings e).names
  sources : (d.scope settings e).sources.Nodup

namespace Header

variable {settings : Settings} {e : Entity} {d : Written} {declared : List String} {variants : List Variant}
  {fields : List Field}

/-- A declaration without members and enumerators. -/
theorem isNamedFor_plain (hname : d.name ∈ e.typeNames) (hvariants : d.variantNames = [])
    (henumerators : d.enumerators = []) (hmembers : d.members = [])
    (hscope : d.scope settings e = ⟨[], [], id⟩) : d.IsNamedFor settings e where
  name := hname
  enumerators := ⟨"", by rw [henumerators, hvariants, List.map_nil]⟩
  variants := by rw [hvariants]; exact List.nodup_nil
  members := by rw [hmembers, hscope]; rfl
  sources := by rw [hscope]; exact List.nodup_nil

theorem isNamedFor_record {introduces : Bool} {keyword layout name : String} (hname : name ∈ e.typeNames)
    (hnamed : fields.map (Field.named (e.fieldRule settings)) = fields) (hfields : (fields.map (·.name)).Nodup) :
    (Written.record introduces keyword layout name (fields.map .field)).IsNamedFor settings e where
  name := hname
  enumerators := ⟨"", rfl⟩
  variants := List.nodup_nil
  members := by
    have hmembers : (fields.map Slot.field).flatMap Slot.members = fields.map (·.exportName) := by
      rw [List.flatMap_map, List.map_eq_flatMap]
      rfl
    rw [Written.scope_fields, Scope.names, Written.members, hmembers, Field.exportNames_of_named hnamed,
      List.nil_append, List.map_map]
    rfl
  sources := by
    rw [Written.scope_fields]
    exact hfields

theorem eq_of_map_eq_self {α : Type} {f : α → α} {l : List α} (h : l.map f = l) : ∀ a ∈ l, f a = a := by
  exact List.map_inj_left.1 (h.trans (List.map_id l).symm)

/-- What a variant of an enum has been given. -/
theorem variant_of_named (hbody : e.body = .enum variants) (hnamed : e.IsNamed settings) :
    ∀ v ∈ variants, v.exportName =
        v.exportNameFor (e.variantRule settings) settings.enumeration.prefixWithName e.exportName ∧
      v.fields.map (Field.named settings.renameFields) = v.fields := by
  simp only [Entity.IsNamed, Entity.nameMembers, hbody, Body.enum.injEq] at hnamed
  intro v hv
  have hsame := eq_of_map_eq_self hnamed v hv
  exact ⟨(congrArg Variant.exportName hsame).symm, congrArg Variant.fields hsame⟩

theorem isNamedFor_enumeration {layout : Layout} {name : String} (hname : name ∈ e.typeNames)
    (hbody : e.body = .enum variants) (hnamed : e.IsNamed settings) (hvariants : (variants.map (·.name)).Nodup) :
    (Written.enumeration layout variants name).IsNamedFor settings e where
  name := hname
  enumerators := by
    have hgiven := fun v hv => (variant_of_named hbody hnamed v hv).1
    simp only [Written.enumerators, Written.variantNames, List.map_map]
    by_cases hprefix : settings.enumeration.prefixWithName &&
        e.variantRule settings != .qualifiedScreamingSnake
    · refine ⟨e.exportName ++ "_", List.map_congr_left fun v hv => ?_⟩
      rw [hgiven v hv, Variant.exportNameFor, if_pos hprefix]
      rfl
    · refine ⟨"", List.map_congr_left fun v hv => ?_⟩
      rw [hgiven v hv, Variant.exportNameFor, if_neg hprefix]
      simp
  variants := hvariants
  members := rfl
  sources := List.nodup_nil

/-- The struct of a tagged enum. -/
theorem isNamedFor_tagged {introduces : Bool} {keyword layout name : String} (hname : name ∈ e.typeNames)
    (hbody : e.body = .enum variants) (hvariants : (variants.map (·.name)).Nodup) :
    (Written.record introduces keyword layout name [.tag e.tagName,
      .payloads ((variants.filter Variant.hasPayload).map fun v => (e.bodyName v, payloadMember v))]).IsNamedFor
        settings e where
  name := hname
  enumerators := ⟨"", rfl⟩
  variants := List.nodup_nil
  members := by
    simp [Written.members, Slot.members, Written.scope, Scope.names, Entity.payloadNames, hbody,
      Function.comp_def, payloadMember]
  sources := by
    simp only [Written.scope, Entity.payloadNames, hbody]
    exact hvariants.sublist (List.filter_sublist.map _)

/-- The declarations of a type have the names that the settings give. -/
theorem isNamedFor_definitions (hnamed : e.IsNamed settings) (hwell : e.body.IsWellNamed)
    (hd : d ∈ definitions declared e) : d.IsNamedFor settings e := by
  have hown : e.exportName ∈ e.typeNames := List.mem_cons_self
  have hdistinct := hwell.distinct
  cases defines_of_mem_definitions hd with
  | synonym hbody => exact isNamedFor_plain hown rfl rfl rfl rfl
  | record hbody hkeyword =>
    rcases hbody with hbody | hbody
    all_goals
      rw [hbody] at hdistinct
      refine isNamedFor_record hown ?_ (hdistinct _ List.mem_cons_self)
      simpa [Entity.IsNamed, Entity.nameMembers, Entity.fieldRule, hbody] using hnamed
  | enumeration hbody hname =>
    rw [hbody] at hdistinct
    exact isNamedFor_enumeration hname hbody hnamed (hdistinct _ List.mem_cons_self)
  | payload hbody hv hname =>
    rw [hbody] at hdistinct
    refine isNamedFor_record hname ?_ (hdistinct _ (List.mem_cons_of_mem _ (List.mem_map_of_mem hv)))
    simp only [Entity.fieldRule, hbody]
    exact (variant_of_named hbody hnamed _ hv).2
  | tagged hbody =>
    rw [hbody] at hdistinct
    exact isNamedFor_tagged hown hbody (hdistinct _ List.mem_cons_self)

theorem isNamedFor_function {args : List Argument} {ret : Ty} {never : Bool}
    (hbody : e.body = .function args ret never) (hnamed : e.IsNamed settings) (hwell : e.body.IsWellNamed) :
    (Written.function args ret never e.exportName).IsNamedFor settings e where
  name := List.mem_cons_self
  enumerators := ⟨"", rfl⟩
  variants := List.nodup_nil
  members := by
    obtain ⟨_, hunnamed⟩ := hwell
    rw [hbody] at hunnamed
    simp only [Entity.IsNamed, Entity.nameMembers, hbody, Body.function.injEq, and_true] at hnamed
    simp only [Written.members, Written.scope, Scope.names, List.nil_append, List.map_filterMap]
    refine List.filterMap_congr fun a ha => ?_
    cases hname : a.name with
    | none => exact hunnamed a ha hname
    | some name =>
      have hexport := congrArg Argument.exportName (eq_of_map_eq_self hnamed a ha)
      rw [Argument.named, hname] at hexport
      exact hexport.symm
  sources := by
    have hdistinct := hwell.distinct
    rw [hbody] at hdistinct
    exact hdistinct _ List.mem_cons_self

theorem isNamedFor_writtenValue (hnamed : e.IsNamed settings) (hwell : e.body.IsWellNamed)
    (hd : d ∈ writtenValue e) : d.IsNamedFor settings e := by
  unfold writtenValue at hd
  cases hbody : e.body <;> simp only [hbody, List.mem_singleton, List.not_mem_nil] at hd
  · subst hd
    exact isNamedFor_function hbody hnamed hwell
  · subst hd
    exact isNamedFor_plain List.mem_cons_self rfl rfl rfl rfl
  · subst hd
    exact isNamedFor_plain List.mem_cons_self rfl rfl rfl rfl

theorem isNamedFor_event {event : Event} (hnamed : event.entity.IsNamed settings)
    (hwell : event.entity.body.IsWellNamed)
    (hd : (∃ declared, d ∈ writtenFor declared event) ∨ d ∈ writtenValue event.entity) :
    d.IsNamedFor settings event.entity := by
  rcases hd with ⟨declared, hd⟩ | hd
  · obtain ⟨kind, e⟩ := event
    cases kind with
    | forwardDeclare =>
      obtain rfl := List.mem_singleton.1 hd
      exact isNamedFor_plain List.mem_cons_self rfl rfl rfl rfl
    | defineType => exact isNamedFor_definitions hnamed hwell hd
    | declareConstant => cases hd
    | declareStatic => cases hd
    | declareFunction => cases hd
  · exact isNamedFor_writtenValue hnamed hwell hd

/-! ### Names at file scope -/

/-- The declarations of types introduce types alone. -/
theorem ordinary_typesWritten (s : Stream) : (typesWritten s).flatMap Written.ordinary =
    (marked [] s.events).flatMap introduced := by
  have hsame : ∀ d ∈ typesWritten s, d.ordinary = d.typedefs := by
    intro d hd
    obtain ⟨⟨declared, kind, e⟩, _, hd⟩ := List.mem_flatMap.1 hd
    cases kind with
    | forwardDeclare =>
      obtain rfl := List.mem_singleton.1 hd
      rfl
    | defineType => cases defines_of_mem_definitions hd <;> rfl
    | declareConstant => cases hd
    | declareStatic => cases hd
    | declareFunction => cases hd
  rw [List.flatMap_congr hsame, typesWritten, List.flatMap_assoc]
  rfl

/-- An object or function introduces its own name. -/
theorem ordinary_writtenValue (e : Entity) :
    ((writtenValue e).flatMap Written.ordinary).Sublist [e.exportName] := by
  unfold writtenValue
  cases e.body <;> simp [Written.ordinary, Written.typedefs]

theorem ordinary_constant (h : e.kind = .constant) : (writtenValue e).flatMap Written.ordinary = [] := by
  unfold Entity.kind at h
  unfold writtenValue
  cases hbody : e.body with
  | constant ty value => rfl
  | _ => simp [hbody, Body.kind] at h

end Header

namespace Stream.IsMade

open Header

variable {s : Stream} {forward : List String} {order : List Entity} {event : Event} (hs : s.IsMade forward order)
include hs

/-- The kinds of events about an entity that is no type. -/
theorem value_mem_events (h : event ∈ s.events)
    (hvalue : event.kind ∈ [EventKind.declareConstant, .declareStatic, .declareFunction]) :
    (event.kind = .declareConstant ∧ event.entity.kind = .constant) ∨
      (event.kind = .declareStatic ∧ event.entity.kind = .static) ∨
      (event.kind = .declareFunction ∧ event.entity.kind = .function) := by
  rw [hs.perm.mem_iff] at h
  simp only [Library.announcements, Library.ofKind, List.mem_append, List.mem_map, List.mem_filter,
    decide_eq_true_eq] at h
  obtain ((((⟨t, _, rfl⟩ | ⟨t, _, rfl⟩) | ⟨t, ⟨_, hkind⟩, rfl⟩) | ⟨t, ⟨_, hkind⟩, rfl⟩) |
    ⟨t, ⟨_, hkind⟩, rfl⟩) := h
  · simp at hvalue
  · simp at hvalue
  · exact Or.inl ⟨rfl, hkind⟩
  · exact Or.inr (Or.inl ⟨rfl, hkind⟩)
  · exact Or.inr (Or.inr ⟨rfl, hkind⟩)

/-- Objects and functions differ by their names. -/
theorem nodup_exportNames (kinds : List EventKind)
    (hkinds : ∀ kind ∈ kinds, kind ∈ [EventKind.declareConstant, .declareStatic, .declareFunction]) :
    ((s.events.filter fun event => kinds.contains event.kind).map fun event => event.entity.exportName).Nodup := by
  refine List.Nodup.map_on (fun a ha b hb hname => ?_) (hs.nodup_events.filter _)
  obtain ⟨ha, hakind⟩ := List.mem_filter.1 ha
  obtain ⟨hb, hbkind⟩ := List.mem_filter.1 hb
  have hentity : a.entity = b.entity := hs.eq_of_mem_typeNames (hs.mem_library_of_mem_events ha)
    (hs.mem_library_of_mem_events hb) List.mem_cons_self (hname ▸ List.mem_cons_self)
  have hacases := hs.value_mem_events ha (hkinds _ (by simpa using hakind))
  have hbcases := hs.value_mem_events hb (hkinds _ (by simpa using hbkind))
  have hkind : a.kind = b.kind := by
    rw [← hentity] at hbcases
    rcases hacases with ⟨hak, hae⟩ | ⟨hak, hae⟩ | ⟨hak, hae⟩ <;>
      simpa [hak, hae, eq_comm] using hbcases
  rw [show a = ⟨a.kind, a.entity⟩ from rfl, hkind, hentity]

/-- What stands behind all types introduces the names of objects and functions. -/
theorem ordinary_valuesWritten : ((valuesWritten s).flatMap Written.ordinary).Sublist
    ((s.events.filter fun event => [EventKind.declareStatic, .declareFunction].contains event.kind).map
      fun event => event.entity.exportName) := by
  have hconstants : ((s.events.filter fun event => [EventKind.declareConstant].contains event.kind).flatMap
      fun event => writtenValue event.entity).flatMap Written.ordinary = [] := by
    rw [List.flatMap_assoc]
    refine List.flatMap_eq_nil_iff.2 fun event hevent => ordinary_constant ?_
    obtain ⟨hmem, hkind⟩ := List.mem_filter.1 hevent
    have hconstant : event.kind = .declareConstant := by simpa using hkind
    have hcases := hs.value_mem_events hmem (by simp [hconstant])
    simpa [hconstant] using hcases
  rw [valuesWritten, List.flatMap_append, hconstants, List.nil_append, List.flatMap_assoc, List.map_eq_flatMap]
  exact List.Sublist.flatMap_right _ fun event _ => ordinary_writtenValue event.entity

theorem nodup_ordinary (settings : Settings) (hpayloads : ∀ e ∈ s.entities, e.payloadNames.Nodup) :
    ((outline settings s).written.flatMap Written.ordinary).Nodup := by
  rw [written_outline, List.flatMap_append, ordinary_typesWritten]
  have hvalues := hs.nodup_exportNames [.declareStatic, .declareFunction] (by simp)
  refine List.Nodup.append (hs.nodup_flatMap_introduced hpayloads) (hvalues.sublist hs.ordinary_valuesWritten) ?_
  intro name htype hvalue
  obtain ⟨t, ht, hname⟩ := (hs.mem_flatMap_introduced hpayloads).1 htype
  obtain ⟨event, hevent, rfl⟩ := List.mem_map.1 (hs.ordinary_valuesWritten.subset hvalue)
  obtain ⟨hmem, hkind⟩ := List.mem_filter.1 hevent
  obtain ⟨htlib, htkind⟩ := List.mem_filter.1 ht
  -- A name belongs to one entity, which would have to be a type and none.
  have hsame := hs.eq_of_mem_typeNames htlib (hs.mem_library_of_mem_events hmem) hname List.mem_cons_self
  have hcases := hs.value_mem_events hmem (by simp at hkind ⊢; tauto)
  rw [hsame, Entity.isType] at htkind
  rcases hcases with ⟨_, hentity⟩ | ⟨_, hentity⟩ | ⟨_, hentity⟩ <;> simp [hentity, EntityKind.isType] at htkind

end Stream.IsMade

/-! ### The main statement -/

namespace Header

theorem nodup_payloadNames {e : Entity} (h : e.body.IsWellNamed) : e.payloadNames.Nodup := by
  have hdistinct := h.distinct
  unfold Entity.payloadNames
  cases hbody : e.body with
  | enum variants =>
    rw [hbody] at hdistinct
    exact (hdistinct _ List.mem_cons_self).sublist (List.filter_sublist.map _)
  | _ => exact List.nodup_nil

/-- If members that share a scope differ by their names in the source, then in the header, which spells out its
declarations, the names of types, functions and objects differ. Each declaration shows what it introduces, has its
enumerators and members in its lines, and is that of an entity: its enumerators differ if the rule for the variants
tells their names apart, and so do its members if their scope is clear. -/
theorem distinct_in_scopes {settings : Settings} {ds : List Declaration} {s : Stream}
    (h : (Pipeline.run settings ds).result = .ok s) (hds : ∀ d ∈ ds, d.HasDistinctMembers) :
    (∀ text, write settings s = .ok text → text = Text.dropFinalNewlines
      ("\n".intercalate ((outline settings s).lines settings s.library)) ++ "\n") ∧
    SpellsOut settings (nameOf s.library) (outline settings s).written
      ((outline settings s).lines settings s.library) ∧
    ((outline settings s).written.flatMap Written.ordinary).Nodup ∧
    ∀ d ∈ (outline settings s).written, d.Shows settings (nameOf s.library) ∧
      Encloses settings d.name (d.lines settings (nameOf s.library)) (d.enumerators ++ d.members) ∧
      ∃ e ∈ s.entities, d.name ∈ e.typeNames ∧
      (TellsApart (fun name => (e.variantRule settings).apply name .enumVariant e.exportName) d.variantNames →
        d.enumerators.Nodup) ∧
      ((d.scope settings e).IsClear → d.members.Nodup) := by
  obtain ⟨hwell, given, hgiven⟩ := Pipeline.isWellNamed_prepare (Pipeline.run_stages h).1 hds
  obtain ⟨forward, order, hs⟩ := Pipeline.run_ok h
  refine ⟨fun text => write_outline, spellsOut_outline settings s, hs.nodup_ordinary settings fun e he =>
    nodup_payloadNames (hwell e (hs.mem_entities.1 he)),
    fun d hd => ⟨Written.shows (hasKeyword_of_mem_written hd), encloses_lines _ d, ?_⟩⟩
  obtain ⟨event, hevent, hd⟩ := exists_event_of_written hd
  have he := hs.mem_library_of_mem_events hevent
  have hnamed : event.entity.IsNamed settings := by
    rw [hgiven] at he
    obtain ⟨x, _, hx⟩ := List.mem_map.1 he
    rw [← hx]
    exact x.isNamed_assignNames settings
  have hnames := isNamedFor_event hnamed (hwell _ he) hd
  refine ⟨event.entity, hs.mem_entities.2 he, hnames.name, fun htells => ?_, fun hclear => ?_⟩
  · obtain ⟨front, henumerators⟩ := hnames.enumerators
    rw [henumerators]
    refine TellsApart.nodup_map (fun a ha b hb hab => htells a ha b hb ?_) hnames.variants
    simpa using hab
  · rw [hnames.members]
    exact hclear.nodup_names (Written.nodup_fixed_scope settings _ d) hnames.sources

theorem distinct_in_scopes_grove : (Pipeline.run .default grove).result = .ok groveStream ∧
    (∀ d ∈ grove, d.HasDistinctMembers) ∧
    ((outline .default groveStream).written.flatMap Written.ordinary).Nodup ∧
    ∀ d ∈ (outline .default groveStream).written, d.enumerators.Nodup ∧ d.members.Nodup := by
  have hgrove : ∀ d ∈ grove, d.HasDistinctMembers := by
    unfold Declaration.HasDistinctMembers
    decide
  have hclear : ∀ d ∈ (outline .default groveStream).written, ∀ e ∈ groveStream.entities,
      d.name ∈ e.typeNames →
        TellsApart (fun name => (e.variantRule .default).apply name .enumVariant e.exportName) d.variantNames ∧
          (d.scope .default e).IsClear := by decide +kernel
  obtain ⟨_, _, hordinary, hnames⟩ := distinct_in_scopes run_grove hgrove
  refine ⟨run_grove, hgrove, hordinary, fun d hd => ?_⟩
  obtain ⟨_, _, e, he, hname, henumerators, hmembers⟩ := hnames d hd
  obtain ⟨htells, hscope⟩ := hclear d hd e he hname
  exact ⟨henumerators htells, hmembers hscope⟩

/-- Two enums with a variant of the same name, and a struct with two fields of the same words. -/
def panelDecls : List Declaration := [
  { Declaration.bare .enum "Light" "crate" with body := .enum [⟨"On", none, [], []⟩] },
  { Declaration.bare .enum "Mode" "crate" with body := .enum [⟨"On", none, [], []⟩] },
  { Declaration.bare .struct "Panel" "crate" with
    body := .struct [⟨"knobSize", .path "u8" [], []⟩, ⟨"knob_size", .path "u8" [], []⟩] }]

def panelSettings : Settings := { Settings.default with renameFields := .snake }

def panelStream : Stream :=
  let light : Entity := .bare "Light" 0 (.enum [⟨"On", "On", none, [], [], none⟩])
  let mode : Entity := .bare "Mode" 1 (.enum [⟨"On", "On", none, [], [], none⟩])
  let panel : Entity := .bare "Panel" 2 (.struct [⟨"knobSize", "knob_size", .primitive .u8, [], none⟩,
    .bare "knob_size" (.primitive .u8)])
  ⟨⟨[light, mode, panel], [], []⟩, [⟨.defineType, light⟩, ⟨.defineType, mode⟩, ⟨.defineType, panel⟩]⟩

/-- Neither enumerators nor members are checked. -/
theorem run_panel_repeats : (∀ d ∈ panelDecls, d.HasDistinctMembers) ∧
    (Pipeline.run panelSettings panelDecls).result = .ok panelStream ∧
    (∃ text, write panelSettings panelStream = .ok text) ∧
    ¬ ((outline panelSettings panelStream).written.flatMap fun d => d.ordinary ++ d.enumerators).Nodup ∧
    ∃ d ∈ (outline panelSettings panelStream).written, ¬ d.members.Nodup := by
  have hdistinct : ∀ d ∈ panelDecls, d.HasDistinctMembers := by
    unfold Declaration.HasDistinctMembers
    decide
  have hprepare : (Pipeline.prepare panelSettings panelDecls).result = .ok panelStream.library := by cbv
  have horder : (Pipeline.order panelStream.library).result = .ok panelStream.events := by cbv
  have hemit : (Pipeline.emit panelStream.library panelStream.events).result = .ok panelStream := by cbv
  have hnames : ((outline panelSettings panelStream).written.flatMap fun d => d.ordinary ++ d.enumerators) =
      ["Light", "On", "Mode", "On", "Panel"] := by cbv
  have hmembers : (outline panelSettings panelStream).written.map Written.members =
      [[], [], ["knob_size", "knob_size"]] := by cbv
  refine ⟨hdistinct, ?_, ⟨text panelSettings panelStream, by rw [write]; rfl⟩, by simp [hnames], ?_⟩
  · simp only [Pipeline.run_eq_prepare, Logged.bind_result, hprepare, horder, hemit, Except.bind]
  · obtain ⟨d, hd, hsame⟩ := List.mem_map.1 (hmembers ▸ by simp :
      ["knob_size", "knob_size"] ∈ (outline panelSettings panelStream).written.map Written.members)
    exact ⟨d, hd, by simp [hsame]⟩

end Header

end CrateHeader
