import CrateHeader.Header

/-!
# What a header declares

A header read as the list of its declarations, from top to bottom. Each knows the type names that it
introduces, the records that it completes and the paths whose names it prints. `lines_outline` says that the
text of a header is that list written out, with the comments and what the settings put around it.
-/

namespace CrateHeader

/-- A member of a record. -/
inductive Slot where
  | field (f : Field)
  | tag (typeName : String)
  /-- Types with the members that hold them, all in one place. -/
  | payloads (members : List (String × String))

inductive Written where
  | forward (keyword name : String)
  /-- A struct or union, in a `typedef` of its own if it introduces its name. -/
  | record (introduces : Bool) (keyword layout name : String) (slots : List Slot)
  | enumeration (layout : Layout) (variants : List Variant) (name : String)
  | synonym (target : Ty) (name : String)
  | constant (name value : String)
  | object (ty : Ty) (isMut : Bool) (name : String)
  | function (args : List Argument) (ret : Ty) (never : Bool) (name : String)

namespace Slot

def mentions : Slot → List Ty.Mention
  | field f => f.ty.paths
  | tag _ => []
  | payloads _ => []

def lines (settings : Settings) (names : String → String) : Slot → List String
  | field f => Header.docLines settings Header.indent f.docs ++
      [Header.indent ++ (Declarator.ofTy names false f.ty).render (some f.exportName) "" ++ ";"]
  | tag typeName => [Header.indent ++ typeName ++ " tag;"]
  | payloads members => (Header.indent ++ "union \x7b") ::
      members.map (fun p => Header.indent ++ Header.indent ++ p.1 ++ " " ++ p.2 ++ ";") ++
        [Header.indent ++ "\x7d;"]

end Slot

namespace Written

/-- The names that a declaration introduces as types. -/
def typedefs : Written → List String
  | forward _ name => [name]
  | record introduces _ _ name _ => if introduces then [name] else []
  | enumeration _ _ name => [name]
  | synonym _ name => [name]
  | _ => []

/-- The records whose members a declaration gives. -/
def completes : Written → List String
  | record _ _ _ name _ => [name]
  | _ => []

/-- The paths whose names a declaration prints. -/
def mentions : Written → List Ty.Mention
  | record _ _ _ _ slots => slots.flatMap Slot.mentions
  | synonym target _ => target.paths
  | object ty _ _ => ty.paths
  | function args ret _ _ => (ret :: args.map (·.ty)).flatMap Ty.paths
  | _ => []

def noReturn (settings : Settings) : String :=
  if settings.function.noReturn.truthy then settings.function.noReturn.asText else ""

def enumerator (settings : Settings) (v : Variant) : List String :=
  Header.docLines settings Header.indent v.docs ++
    [Header.indent ++ v.exportName ++ (v.discriminant.map (" = " ++ ·)).getD "" ++ ","]

/-- The lines of C for a declaration, in which types are called as `names` says. -/
def lines (settings : Settings) (names : String → String) : Written → List String
  | forward keyword name => ["typedef " ++ keyword ++ " " ++ name ++ " " ++ name ++ ";"]
  | record introduces keyword layout name slots =>
    let attributes := if layout = "" then "" else layout ++ " "
    let body := slots.flatMap (Slot.lines settings names)
    if introduces then
      ("typedef " ++ keyword ++ " " ++ attributes ++ name ++ " \x7b") :: body ++ ["\x7d " ++ name ++ ";"]
    else (keyword ++ " " ++ attributes ++ name ++ " \x7b") :: body ++ ["\x7d;"]
  | enumeration layout variants name =>
    let body := variants.flatMap (enumerator settings)
    match layout.discriminant with
    | some width => ("enum " ++ name ++ " \x7b") :: body ++
        ["\x7d;", "typedef " ++ width.cSpelling ++ " " ++ name ++ ";"]
    | none => ("typedef enum " ++ name ++ " \x7b") :: body ++ ["\x7d " ++ name ++ ";"]
  | synonym target name => ["typedef " ++ (Declarator.ofTy names false target).render (some name) "" ++ ";"]
  | constant name value => ["#define " ++ name ++ " " ++ value]
  | object ty isMut name => ["extern " ++ (Declarator.ofTy names (!isMut) ty).render (some name) "" ++ ";"]
  | function args ret never name =>
    [(Declarator.ofFunction names args ret never).render (some name) (noReturn settings) ++ ";"]

end Written

/-- Declarations that stand together, under comments and marks. -/
structure Block where
  head : List String
  written : List Written

def Block.lines (settings : Settings) (lib : Library) (b : Block) : List String :=
  b.head ++ [""].intercalate (b.written.map (Written.lines settings (Header.nameOf lib)))

/-- The blocks of a header, types first. -/
structure Outline where
  types : List Block
  constants : List Block
  values : List Block

namespace Outline

/-- The declarations from top to bottom. -/
def written (o : Outline) : List Written :=
  (o.types ++ o.constants ++ o.values).flatMap (·.written)

def lines (settings : Settings) (lib : Library) (o : Outline) : List String :=
  Header.preamble settings ++ Header.spaced (o.types.map (Block.lines settings lib)) ++
    Header.spaced (o.constants.map (Block.lines settings lib)) ++
    Header.declarationLines settings (o.values.map (Block.lines settings lib)) ++
    Header.epilogue settings

end Outline

namespace Header

/-! ### The outline of a stream -/

/-- What the definition of a type comes to when some names have been introduced beforehand. -/
def definitions (declared : List String) (e : Entity) : List Written :=
  let record (keyword layout name : String) (slots : List Slot) : Written :=
    .record (!declared.contains name) keyword layout name slots
  let layout := layoutText e.annotations.layout
  match e.body with
  | .typeAlias target => [.synonym target e.exportName]
  | .enum variants =>
    let payloads := variants.filter Variant.hasPayload
    if e.body.isTagged then
      .enumeration e.annotations.layout variants e.tagName ::
        payloads.map (fun v => record "struct" "" (e.bodyName v) (v.fields.map .field)) ++
          [record "struct" layout e.exportName
            [.tag e.tagName, .payloads (payloads.map fun v => (e.bodyName v, payloadMember v))]]
    else [.enumeration e.annotations.layout variants e.exportName]
  | .struct fields => [record "struct" layout e.exportName (fields.map .field)]
  | .union fields => [record "union" layout e.exportName (fields.map .field)]
  | _ => []

/-- The declarations of an event about a type. -/
def writtenFor (declared : List String) (event : Event) : List Written :=
  match event.kind with
  | .forwardDeclare =>
    [.forward (if event.entity.kind = .union then "union" else "struct") event.entity.exportName]
  | .defineType => definitions declared event.entity
  | _ => []

def typeHead (settings : Settings) (event : Event) : List String :=
  match event.kind with
  | .forwardDeclare =>
    if event.entity.kind = .opaqueType then docLines settings "" event.entity.docs else []
  | _ => if (definitions [] event.entity).isEmpty then [] else docLines settings "" event.entity.docs

/-- Does an event make a block among the types? -/
def isAboutType (event : Event) : Bool :=
  event.kind = .forwardDeclare || event.kind = .defineType

def writtenValue (e : Entity) : List Written :=
  match e.body with
  | .constant _ value => [.constant e.exportName value]
  | .static ty isMut => [.object ty isMut e.exportName]
  | .function args ret never => [.function args ret never e.exportName]
  | _ => []

def valueHead (settings : Settings) (e : Entity) : List String :=
  let docs := docLines settings "" e.docs
  match e.body with
  | .constant _ _ => docs
  | .static _ _ => docs
  | .function _ _ _ => docs ++
      ((e.annotations.deprecated?.bind (deprecationMark settings.function)).toList).map Document.asText
  | _ => []

def valueBlock (settings : Settings) (e : Entity) : Block := ⟨valueHead settings e, writtenValue e⟩

/-- Events with the names that forward declarations in front of them have introduced. -/
def marked (declared : List String) : List Event → List (List String × Event)
  | [] => []
  | e :: rest => (declared, e) ::
      marked (if e.kind = .forwardDeclare then e.entity.exportName :: declared else declared) rest

def outline (settings : Settings) (s : Stream) : Outline where
  types := ((marked [] s.events).filter fun p => isAboutType p.2).map fun p =>
    ⟨typeHead settings p.2, writtenFor p.1 p.2⟩
  constants := (s.events.filter fun e => [EventKind.declareConstant].contains e.kind).map fun e =>
    valueBlock settings e.entity
  values := (s.events.filter fun e => [EventKind.declareStatic, .declareFunction].contains e.kind).map
    fun e => valueBlock settings e.entity

/-! ### The outline written out -/

variable {settings : Settings} {lib : Library} {declared : List String} {e : Entity}

theorem intercalate_append_singleton (sep : List String) (front : List (List String)) (last : List String) :
    sep.intercalate (front ++ [last]) = front.flatMap (· ++ sep) ++ last := by
  induction front with
  | nil => simp
  | cons x rest ih =>
    cases rest with
    | nil => simp
    | cons y rest =>
      rw [List.cons_append, List.cons_append, List.intercalate_cons_cons, ← List.cons_append, ih]
      simp

theorem lines_field (fields : List Field) :
    (fields.map Slot.field).flatMap (Slot.lines settings (nameOf lib)) = fields.flatMap (fieldLines settings lib) := by
  rw [List.flatMap_map]
  rfl

/-- A record is written around its members, in a `typedef` unless its name has been introduced. -/
theorem lines_record (keyword layout name : String) (slots : List Slot) :
    Written.lines settings (nameOf lib) (.record (!declared.contains name) keyword layout name slots) =
      record declared keyword name layout (slots.flatMap (Slot.lines settings (nameOf lib))) := by
  simp only [Written.lines, record, String.append_assoc]
  cases declared.contains name with
  | true => rfl
  | false => rfl

theorem lines_enumeration (layout : Layout) (variants : List Variant) (name : String) :
    Written.lines settings (nameOf lib) (.enumeration layout variants name) =
      plainEnum settings layout variants name := by
  have henumerator : Written.enumerator settings = enumeratorLines settings := by
    funext v
    unfold Written.enumerator enumeratorLines
    cases v.discriminant <;> rfl
  cases hwidth : layout.discriminant with
  | none => simp only [Written.lines, plainEnum, henumerator, hwidth]
  | some width => simp only [Written.lines, plainEnum, henumerator, hwidth]

theorem lines_tag (typeName : String) (members : List (String × String)) :
    [Slot.tag typeName, .payloads members].flatMap (Slot.lines settings (nameOf lib)) =
      [indent ++ typeName ++ " tag;", indent ++ "union \x7b"] ++
        members.map (fun p => indent ++ indent ++ p.1 ++ " " ++ p.2 ++ ";") ++ [indent ++ "\x7d;"] := by
  simp [Slot.lines]

/-- A tagged enum is its tags, its payloads and the struct of both. -/
theorem lines_taggedEnum {variants : List Variant} (hbody : e.body = .enum variants)
    (htagged : e.body.isTagged = true) : taggedEnum settings lib declared e variants =
      docLines settings "" e.docs ++
        [""].intercalate ((definitions declared e).map (Written.lines settings (nameOf lib))) := by
  rw [hbody] at htagged
  simp only [taggedEnum, definitions, hbody]
  rw [if_pos htagged, List.map_append, List.map_cons, List.map_cons, List.map_nil,
    intercalate_append_singleton, List.flatMap_cons, List.map_map, List.flatMap_map]
  simp only [lines_enumeration, lines_record, Function.comp_def, lines_field, lines_tag, List.map_map,
    List.append_assoc]

/-- A definition is written as its outline says. -/
theorem lines_defineType : defineType settings lib declared e =
    Block.lines settings lib ⟨typeHead settings ⟨.defineType, e⟩, definitions declared e⟩ := by
  have hhead : definitions [] e ≠ [] → typeHead settings ⟨.defineType, e⟩ = docLines settings "" e.docs := by
    intro hne
    simp [typeHead, hne]
  cases hbody : e.body with
  | enum variants =>
    by_cases htagged : e.body.isTagged = true
    · have hne : definitions [] e ≠ [] := by
        rw [hbody] at htagged
        simp [definitions, hbody, htagged]
      rw [Block.lines, hhead hne, ← lines_taggedEnum hbody htagged]
      rw [hbody] at htagged
      simp [defineType, hbody, htagged]
    · rw [hbody] at htagged
      simp [defineType, Block.lines, typeHead, definitions, hbody, htagged, lines_enumeration]
  | struct fields =>
    rw [Block.lines, hhead (by simp [definitions, hbody])]
    simp only [defineType, definitions, hbody, List.map_cons, List.map_nil, lines_record, lines_field,
      List.intercalate_singleton]
  | union fields =>
    rw [Block.lines, hhead (by simp [definitions, hbody])]
    simp only [defineType, definitions, hbody, List.map_cons, List.map_nil, lines_record, lines_field,
      List.intercalate_singleton]
  | typeAlias target => simp [defineType, Block.lines, typeHead, definitions, hbody, Written.lines, declare]
  | opaqueType => simp [defineType, Block.lines, typeHead, definitions, hbody]
  | function args ret never => simp [defineType, Block.lines, typeHead, definitions, hbody]
  | constant ty value => simp [defineType, Block.lines, typeHead, definitions, hbody]
  | static ty isMut => simp [defineType, Block.lines, typeHead, definitions, hbody]

theorem lines_forwardDeclare : forwardDeclare settings e =
    Block.lines settings lib ⟨typeHead settings ⟨.forwardDeclare, e⟩, writtenFor declared ⟨.forwardDeclare, e⟩⟩ := by
  simp [forwardDeclare, Block.lines, typeHead, writtenFor, Written.lines]

theorem typeBlocks_eq (events : List Event) : typeBlocks settings lib declared events =
    ((marked declared events).filter fun p => isAboutType p.2).map fun p =>
      Block.lines settings lib ⟨typeHead settings p.2, writtenFor p.1 p.2⟩ := by
  induction events generalizing declared with
  | nil => rfl
  | cons event rest ih =>
    obtain ⟨kind, e⟩ := event
    cases kind with
    | forwardDeclare => exact List.cons_eq_cons.2 ⟨lines_forwardDeclare, ih⟩
    | defineType => exact List.cons_eq_cons.2 ⟨lines_defineType, ih⟩
    | declareConstant => exact ih
    | declareStatic => exact ih
    | declareFunction => exact ih

theorem lines_valueBlock : valueLines settings lib e = Block.lines settings lib (valueBlock settings e) := by
  cases hbody : e.body <;>
    simp [valueLines, valueBlock, valueHead, writtenValue, Block.lines, Written.lines, Written.noReturn,
      functionLines, hbody]

/-- A header is its outline written out. -/
theorem lines_outline (settings : Settings) (s : Stream) :
    (outline settings s).lines settings s.library = lines settings s := by
  have htypes : (outline settings s).types.map (Block.lines settings s.library) =
      typeBlocks settings s.library [] s.events := by
    rw [typeBlocks_eq, outline, List.map_map]
    rfl
  have hvalues : ∀ kinds : List EventKind, ((s.events.filter fun e => kinds.contains e.kind).map
      fun e => valueBlock settings e.entity).map (Block.lines settings s.library) =
        blocksOf settings s kinds := by
    intro kinds
    rw [List.map_map, blocksOf]
    exact List.map_congr_left fun e _ => lines_valueBlock.symm
  rw [Outline.lines, htypes]
  simp only [outline, hvalues]
  rfl

/-- A header that is written is the text of its outline. -/
theorem write_outline {s : Stream} {text : String} (h : write settings s = .ok text) :
    text = Text.dropFinalNewlines ("\n".intercalate ((outline settings s).lines settings s.library)) ++ "\n" := by
  rw [lines_outline]
  unfold write at h
  split at h
  · cases h
  · exact (Except.ok.inj h).symm

end Header

end CrateHeader
