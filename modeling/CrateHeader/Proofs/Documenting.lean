import CrateHeader.Declaration.Module
import CrateHeader.Header
import CrateHeader.Proofs.Comments
import CrateHeader.Proofs.Spelling
import CrateHeader.Proofs.Stages

/-!
# Documentation in comments

Documentation is written as comments, between the lines that a header without it has. So without its comments a
header shows the same declarations with documentation and without, as long as no line of documentation gets out of
its comment: a line comment ends with its line, unless there is a backslash at the end, and a block comment ends at
the first star that a slash follows. Nothing in the writer keeps documentation from that. `Header.shownLines_write` is
the comparison; what else is printed has to leave every comment closed behind it.
-/

namespace CrateHeader

open CComment

namespace Header

/-! ### Lines of documentation -/

/-- What is written into a comment for a line of documentation. -/
def commentText (doc : String) : String := Text.stripRight (dropOneSpace doc)

/-- A line of documentation that does not get out of its comment. -/
def StaysInComment (style : CommentStyle) (doc : String) : Prop :=
  match style with
  | .c99 => '\n' ∉ (commentText doc).toList ∧ (commentText doc).toList.getLast? ≠ some '\\'
  | .doxy => ¬ ['*', '/'] <:+: splice (commentText doc).toList

instance (style : CommentStyle) (doc : String) : Decidable (StaysInComment style doc) :=
  match style with
  | .c99 => inferInstanceAs (Decidable (_ ∧ _))
  | .doxy => inferInstanceAs (Decidable (¬ _))

/-- What follows the mark of a comment, nothing or a space and some documentation. -/
def tailOf (doc : String) : String := if commentText doc = "" then "" else " " ++ commentText doc

theorem stripRight_mark (margin doc : String) {mark spaced : String} (hspaced : mark ++ " " = spaced)
    (hmark : Text.stripRight spaced = mark) (hne : mark ≠ "") :
    Text.stripRight (margin ++ spaced ++ dropOneSpace doc) = margin ++ mark ++ tailOf doc := by
  rw [CToken.stripRight_append]
  change (if commentText doc = "" then _ else _ ++ commentText doc) = _
  by_cases hempty : commentText doc = ""
  · rw [if_pos hempty, tailOf, if_pos hempty, CToken.stripRight_append, hmark, if_neg hne, String.append_empty]
  · rw [if_neg hempty, tailOf, if_neg hempty, ← hspaced]
    simp only [String.append_assoc]

/-- Documentation is a list of line comments or one block comment. -/
theorem docLines_eq (settings : Settings) (margin : String) (docs : List String) :
    docLines settings margin docs =
      if !settings.documentation || docs.isEmpty then []
      else match settings.commentStyle with
        | .c99 => (docs.map tailOf).map fun tail => margin ++ "//" ++ tail
        | .doxy => (margin ++ "/**") :: ((docs.map tailOf).map fun tail => margin ++ " *" ++ tail) ++
            [margin ++ " */"] := by
  have hslashes : ∀ doc, Text.stripRight (margin ++ "// " ++ dropOneSpace doc) = margin ++ "//" ++ tailOf doc :=
    fun doc => stripRight_mark margin doc (by decide) (by decide) (by decide)
  have hstar : ∀ doc, Text.stripRight (margin ++ " * " ++ dropOneSpace doc) = margin ++ " *" ++ tailOf doc :=
    fun doc => stripRight_mark margin doc (by decide) (by decide) (by decide)
  cases hstyle : settings.commentStyle with
  | c99 => simp only [docLines, hstyle, List.map_map, Function.comp_def, hslashes]
  | doxy => simp only [docLines, hstyle, List.map_map, Function.comp_def, hstar]

theorem tailOf_line {doc : String} (h : StaysInComment .c99 doc) :
    '\n' ∉ (tailOf doc).toList ∧ (tailOf doc).toList.getLast? ≠ some '\\' := by
  obtain ⟨hline, hlast⟩ := h
  by_cases hempty : commentText doc = ""
  · simp [tailOf, hempty]
  · have htext : (tailOf doc).toList = ' ' :: (commentText doc).toList := by simp [tailOf, hempty]
    rw [htext, List.getLast?_cons]
    refine ⟨by simpa using hline, ?_⟩
    cases hend : (commentText doc).toList.getLast? with
    | none => decide
    | some c => rwa [hend] at hlast

theorem tailOf_block {doc : String} (h : StaysInComment .doxy doc) :
    (tailOf doc).toList.head?.getD ' ' = ' ' ∧ ¬ ['*', '/'] <:+: splice (tailOf doc).toList := by
  have hstays : ¬ ['*', '/'] <:+: splice (commentText doc).toList := h
  by_cases hempty : commentText doc = ""
  · simp [tailOf, hempty, splice]
  · have htext : (tailOf doc).toList = ' ' :: (commentText doc).toList := by simp [tailOf, hempty]
    rw [htext, splice_cons (by decide)]
    exact ⟨rfl, not_infix_cons hstays fun hc => absurd hc (by decide)⟩

/-- Documentation is written as comments that show nothing. -/
theorem isSilent_docLines {settings : Settings} {margin : String} {docs : List String}
    (hmargin : ∀ c ∈ margin.toList, c = ' ') (hdocs : ∀ doc ∈ docs, StaysInComment settings.commentStyle doc) :
    IsSilent (docLines settings margin docs) := by
  rw [docLines_eq]
  split
  · exact isSilent_nil
  cases hstyle : settings.commentStyle with
  | c99 =>
    rw [hstyle] at hdocs
    refine isSilent_lines hmargin fun tail htail => ?_
    obtain ⟨doc, hdoc, rfl⟩ := List.mem_map.1 htail
    exact tailOf_line (hdocs doc hdoc)
  | doxy =>
    rw [hstyle] at hdocs
    refine isSilent_block hmargin fun tail htail => ?_
    obtain ⟨doc, hdoc, rfl⟩ := List.mem_map.1 htail
    exact tailOf_block (hdocs doc hdoc)

/-! ### Headers with documentation and without -/

/-- The settings without documentation. -/
def undocumented (settings : Settings) : Settings := { settings with documentation := false }

end Header

/-- The documentation of the members of a body. -/
def Body.memberDocs : Body → List String
  | struct fields => fields.flatMap (·.docs)
  | union fields => fields.flatMap (·.docs)
  | enum variants => variants.flatMap fun v => v.docs ++ v.fields.flatMap (·.docs)
  | _ => []

/-- No line of an entity's documentation gets out of its comment. -/
def Entity.StaysInComments (style : CommentStyle) (e : Entity) : Prop :=
  ∀ doc ∈ e.docs ++ e.body.memberDocs, Header.StaysInComment style doc

instance (style : CommentStyle) (e : Entity) : Decidable (e.StaysInComments style) :=
  inferInstanceAs (Decidable (∀ doc ∈ _, _))

namespace Header

section Inserting

variable {settings : Settings} {lib : Library} {declared : List String} {e : Entity}

theorem inserts_docLines {margin : String} {docs : List String} (hmargin : ∀ c ∈ margin.toList, c = ' ')
    (hdocs : ∀ doc ∈ docs, StaysInComment settings.commentStyle doc) :
    Inserts (docLines settings margin docs) (docLines (undocumented settings) margin docs) := by
  have h := Inserts.silent (isSilent_docLines hmargin hdocs) .nil
  rwa [List.append_nil] at h

theorem indent_spaces : ∀ c ∈ indent.toList, c = ' ' := by simp [indent]

theorem inserts_entityDocs (he : e.StaysInComments settings.commentStyle) :
    Inserts (docLines settings "" e.docs) (docLines (undocumented settings) "" e.docs) :=
  inserts_docLines (by simp) fun doc hdoc => he doc (List.mem_append_left _ hdoc)

theorem inserts_fieldLines {fields : List Field}
    (hfields : ∀ doc ∈ fields.flatMap (·.docs), StaysInComment settings.commentStyle doc) :
    Inserts (fields.flatMap (fieldLines settings lib)) (fields.flatMap (fieldLines (undocumented settings) lib)) := by
  refine inserts_flatMap fun f hf => ?_
  have hdocs := inserts_docLines indent_spaces fun doc hdoc => hfields doc (List.mem_flatMap.2 ⟨f, hf, hdoc⟩)
  exact hdocs.append (inserts_refl _)

theorem inserts_record (declared : List String) {members members' : List String} (h : Inserts members members')
    (keyword name layout : String) : Inserts (record declared keyword name layout members)
      (record declared keyword name layout members') := by
  unfold record
  dsimp only
  split
  · exact .line _ (h.append (inserts_refl _))
  · exact .line _ (h.append (inserts_refl _))

theorem inserts_plainEnum {variants : List Variant} (layout : Layout) (name : String)
    (hvariants : ∀ v ∈ variants, ∀ doc ∈ v.docs, StaysInComment settings.commentStyle doc) :
    Inserts (plainEnum settings layout variants name) (plainEnum (undocumented settings) layout variants name) := by
  have hbody : Inserts (variants.flatMap (enumeratorLines settings))
      (variants.flatMap (enumeratorLines (undocumented settings))) :=
    inserts_flatMap fun v hv => (inserts_docLines indent_spaces (hvariants v hv)).append (inserts_refl _)
  unfold plainEnum
  dsimp only
  split
  · exact .line _ (hbody.append (inserts_refl _))
  · exact .line _ (hbody.append (inserts_refl _))

theorem inserts_taggedEnum {variants : List Variant} (he : e.StaysInComments settings.commentStyle)
    (hbody : e.body = .enum variants) : Inserts (taggedEnum settings lib declared e variants)
      (taggedEnum (undocumented settings) lib declared e variants) := by
  have hmembers : ∀ v ∈ variants, ∀ doc ∈ v.docs ++ v.fields.flatMap (·.docs),
      StaysInComment settings.commentStyle doc := by
    intro v hv doc hdoc
    refine he doc (List.mem_append_right _ ?_)
    rw [hbody]
    exact List.mem_flatMap.2 ⟨v, hv, hdoc⟩
  have hplain := inserts_plainEnum e.annotations.layout e.tagName
    fun v hv doc hdoc => hmembers v hv doc (List.mem_append_left _ hdoc)
  have hpayload : ∀ v ∈ variants.filter Variant.hasPayload,
      Inserts (v.fields.flatMap (fieldLines settings lib)) (v.fields.flatMap (fieldLines (undocumented settings) lib)) :=
    fun v hv => inserts_fieldLines fun doc hdoc =>
      hmembers v (List.mem_filter.1 hv).1 doc (List.mem_append_right _ hdoc)
  have hpayloads := inserts_flatMap fun v hv =>
    (inserts_record declared (hpayload v hv) "struct" (e.bodyName v) "").append (inserts_refl [""])
  unfold taggedEnum
  exact ((((inserts_entityDocs he).append hplain).append (inserts_refl _)).append hpayloads).append (inserts_refl _)

theorem inserts_defineType (he : e.StaysInComments settings.commentStyle) :
    Inserts (defineType settings lib declared e) (defineType (undocumented settings) lib declared e) := by
  have hdocs := inserts_entityDocs he
  have hmembers : ∀ doc ∈ e.body.memberDocs, StaysInComment settings.commentStyle doc :=
    fun doc hdoc => he doc (List.mem_append_right _ hdoc)
  unfold defineType
  dsimp only
  cases hbody : e.body with
  | typeAlias target => exact hdocs.append (inserts_refl _)
  | struct fields =>
    rw [hbody] at hmembers
    exact hdocs.append (inserts_record declared (inserts_fieldLines hmembers) _ _ _)
  | union fields =>
    rw [hbody] at hmembers
    exact hdocs.append (inserts_record declared (inserts_fieldLines hmembers) _ _ _)
  | enum variants =>
    dsimp only
    split
    · exact inserts_taggedEnum he hbody
    · rw [hbody] at hmembers
      refine hdocs.append (inserts_plainEnum _ _ fun v hv doc hdoc => hmembers doc ?_)
      exact List.mem_flatMap.2 ⟨v, hv, List.mem_append_left _ hdoc⟩
  | _ => exact .nil

theorem inserts_forwardDeclare (he : e.StaysInComments settings.commentStyle) :
    Inserts (forwardDeclare settings e) (forwardDeclare (undocumented settings) e) := by
  unfold forwardDeclare
  dsimp only
  split
  · exact (inserts_entityDocs he).append (inserts_refl _)
  · exact inserts_refl _

theorem inserts_valueLines (he : e.StaysInComments settings.commentStyle) :
    Inserts (valueLines settings lib e) (valueLines (undocumented settings) lib e) := by
  have hdocs := inserts_entityDocs he
  unfold valueLines
  dsimp only
  cases e.body with
  | constant ty value => exact hdocs.append (inserts_refl _)
  | static ty isMut => exact hdocs.append (inserts_refl _)
  | function args ret never => exact (hdocs.append (inserts_refl _)).append (inserts_refl _)
  | _ => exact .nil

/-! ### Blocks -/

theorem inserts_typeBlocks {events : List Event} (hevents : ∀ event ∈ events,
    event.entity.StaysInComments settings.commentStyle) :
    List.Forall₂ Inserts (typeBlocks settings lib declared events)
      (typeBlocks (undocumented settings) lib declared events) := by
  induction events generalizing declared with
  | nil => exact .nil
  | cons event rest ih =>
    rw [List.forall_mem_cons] at hevents
    unfold typeBlocks
    split
    · exact .cons (inserts_forwardDeclare hevents.1) (ih hevents.2)
    · exact .cons (inserts_defineType hevents.1) (ih hevents.2)
    · exact ih hevents.2

theorem inserts_blocksOf {s : Stream} (hevents : ∀ event ∈ s.events,
    event.entity.StaysInComments settings.commentStyle) (kinds : List EventKind) :
    List.Forall₂ Inserts (blocksOf settings s kinds) (blocksOf (undocumented settings) s kinds) := by
  unfold blocksOf
  rw [List.forall₂_map_left_iff, List.forall₂_map_right_iff, List.forall₂_same]
  exact fun event hevent => inserts_valueLines (hevents event (List.mem_filter.1 hevent).1)

theorem inserts_spaced {blocks blocks' : List (List String)} (h : List.Forall₂ Inserts blocks blocks') :
    Inserts (spaced blocks) (spaced blocks') := by
  induction h with
  | nil => exact .nil
  | cons hblock _ ih => exact (hblock.append (inserts_refl _)).append ih

theorem inserts_declarationLines (settings : Settings) {blocks blocks' : List (List String)}
    (h : List.Forall₂ Inserts blocks blocks') :
    Inserts (declarationLines settings blocks) (declarationLines (undocumented settings) blocks') := by
  have hspaced := inserts_spaced h
  cases h with
  | nil => exact .nil
  | cons hblock hrest =>
    unfold declarationLines
    dsimp only [List.isEmpty_cons]
    rw [if_neg Bool.false_ne_true, if_neg Bool.false_ne_true]
    by_cases hcpp : settings.cppCompat = true
    · have hcpp' : (undocumented settings).cppCompat = true := hcpp
      rw [if_pos hcpp, if_pos hcpp']
      exact ((inserts_refl _).append hspaced).append (inserts_refl _)
    · have hcpp' : ¬ (undocumented settings).cppCompat = true := hcpp
      rw [if_neg hcpp, if_neg hcpp']
      exact hspaced

/-- A header with documentation has the lines of one without, and silent ones. -/
theorem inserts_lines {s : Stream} (hevents : ∀ event ∈ s.events,
    event.entity.StaysInComments settings.commentStyle) :
    Inserts (lines settings s) (lines (undocumented settings) s) := by
  have htypes : Inserts (spaced (typeBlocks settings s.library [] s.events))
      (spaced (typeBlocks (undocumented settings) s.library [] s.events)) :=
    inserts_spaced (inserts_typeBlocks hevents)
  have hconstants := inserts_spaced (inserts_blocksOf hevents [.declareConstant])
  have hvalues := inserts_declarationLines settings (inserts_blocksOf hevents [.declareStatic, .declareFunction])
  exact ((((inserts_refl (preamble settings)).append htypes).append hconstants).append hvalues).append
    (inserts_refl (epilogue settings))

end Inserting

/-! ### What a header shows -/

theorem toList_intercalate (line : String) (rest : List String) :
    ("\n".intercalate (line :: rest)).toList ++ ['\n'] = unlines (line :: rest) := by
  induction rest generalizing line with
  | nil => simp [unlines]
  | cons next rest ih =>
    rw [String.intercalate_cons_cons, String.toList_append, String.toList_append, List.append_assoc, ih,
      unlines_cons line]
    simp

theorem exists_dropFinalNewlines (s : String) :
    ∃ n, s.toList = (Text.dropFinalNewlines s).toList ++ List.replicate n '\n' := by
  let ends := s.toList.reverse.takeWhile (· == '\n')
  have hends : ends = List.replicate ends.length '\n' :=
    List.eq_replicate_of_mem fun c hc => by simpa using List.mem_takeWhile_imp hc
  refine ⟨ends.length, ?_⟩
  calc s.toList = (ends ++ s.toList.reverse.dropWhile (· == '\n')).reverse := by
        rw [List.takeWhile_append_dropWhile, List.reverse_reverse]
    _ = (s.toList.reverse.dropWhile (· == '\n')).reverse ++ ends.reverse := List.reverse_append
    _ = (Text.dropFinalNewlines s).toList ++ List.replicate ends.length '\n' := by
        rw [Text.dropFinalNewlines, String.toList_ofList, ← List.reverse_replicate, ← hends]

/-- The lines that a text shows without its comments. -/
def shownLines (text : String) : List String := (visible (remove text.toList)).map String.ofList

/-- The text of a header shows what its lines show. -/
theorem shownLines_text (settings : Settings) (s : Stream) :
    shownLines (text settings s) = (visible (remove (unlines (lines settings s)))).map String.ofList := by
  refine congrArg (List.map String.ofList) ?_
  unfold text
  cases hlines : lines settings s with
  | nil => rfl
  | cons line rest =>
    obtain ⟨n, hn⟩ := exists_dropFinalNewlines ("\n".intercalate (line :: rest))
    have hall : unlines (line :: rest) =
        (Text.dropFinalNewlines ("\n".intercalate (line :: rest)) ++ "\n").toList ++ List.replicate n '\n' := by
      rw [← toList_intercalate, hn, String.toList_append, List.append_assoc, List.append_assoc]
      exact congrArg _ List.replicate_succ'.symm
    rw [hall, visible_remove_newlines (by simp)]

/-- Without its comments, a header shows the same with documentation and without: the same lines, but for blank ones
and for spaces at the ends of lines. No line of documentation may get out of its comment, and no other line may
leave a comment open or end in a backslash. -/
theorem shownLines_write {settings : Settings} {s : Stream}
    (hdocs : ∀ event ∈ s.events, event.entity.StaysInComments settings.commentStyle)
    (hclosed : ∀ line ∈ lines (undocumented settings) s, IsClosed line) :
    (write settings s).map shownLines = (write (undocumented settings) s).map shownLines := by
  have hmisuse : misuse? (undocumented settings) s = misuse? settings s := rfl
  unfold write
  rw [hmisuse]
  cases misuse? settings s with
  | some m => rfl
  | none =>
    obtain ⟨hafter, hafter', hsame⟩ := (inserts_lines hdocs).visible_eq hclosed
    refine congrArg Except.ok ?_
    rw [shownLines_text, shownLines_text, remove, remove, hafter, hafter']
    simp only [pending, List.append_nil, hsame]

/-! ### A label with documentation -/

/-- A struct with documentation given as an attribute. -/
def label (doc : String) : List Declaration := [
  { Declaration.bare .struct "Label" "crate" with
    attributes := [⟨"doc", some doc⟩], body := .struct [⟨"size", .path "u8" [], []⟩] }]

def labelStream (doc : String) : Stream :=
  let e : Entity := { Entity.bare "Label" 0 (.struct [.bare "size" (.primitive .u8)]) with docs := [doc] }
  ⟨⟨[e], [], []⟩, [⟨.defineType, e⟩]⟩

/-- The default settings with comments of a style. -/
def styled (style : CommentStyle) : Settings := { Settings.default with commentStyle := style }

theorem run_label (style : CommentStyle) (doc : String) :
    (Pipeline.run (styled style) (label doc)).result = .ok (labelStream doc) := by
  have hprepare : (Pipeline.prepare (styled style) (label doc)).result = .ok (labelStream doc).library := by cbv
  have horder : (Pipeline.order (labelStream doc).library).result = .ok (labelStream doc).events := by cbv
  have hemit : (Pipeline.emit (labelStream doc).library (labelStream doc).events).result = .ok (labelStream doc) := by
    cbv
  simp only [Pipeline.run_eq_prepare, Logged.bind_result, hprepare, horder, hemit, Except.bind]

/-- What opens a comment, and a backslash, within a line of documentation. -/
def halfOpen : String := "Half open: /* and // \\."

theorem shownLines_write_label :
    ((Pipeline.run (styled .c99) (label halfOpen)).result = .ok (labelStream halfOpen) ∧
      (write (styled .c99) (labelStream halfOpen)).map shownLines =
        (write (undocumented (styled .c99)) (labelStream halfOpen)).map shownLines) ∧
    (Pipeline.run (styled .doxy) (label halfOpen)).result = .ok (labelStream halfOpen) ∧
      (write (styled .doxy) (labelStream halfOpen)).map shownLines =
        (write (undocumented (styled .doxy)) (labelStream halfOpen)).map shownLines :=
  ⟨⟨run_label .c99 halfOpen, shownLines_write (by decide +kernel) (by decide +kernel)⟩,
    run_label .doxy halfOpen, shownLines_write (by decide +kernel) (by decide +kernel)⟩

/-- How many lines a header shows without its comments. -/
def shownCount (settings : Settings) (s : Stream) : Nat := (visible (remove (unlines (lines settings s)))).length

theorem shownLines_write_ne {settings : Settings} {s : Stream} (hfit : misuse? settings s = none)
    (hcount : shownCount settings s ≠ shownCount (undocumented settings) s) :
    (write settings s).map shownLines ≠ (write (undocumented settings) s).map shownLines := by
  have hfit' : misuse? (undocumented settings) s = none := hfit
  rw [write, write, hfit, hfit']
  intro h
  have hlines : shownLines (text settings s) = shownLines (text (undocumented settings) s) := Except.ok.inj h
  rw [shownLines_text, shownLines_text] at hlines
  have hlength := congrArg List.length hlines
  rw [List.length_map, List.length_map] at hlength
  exact hcount hlength

/-- Documentation gets out of its comments: a line end begins a line of code, a backslash takes the next line into
the comment, and what ends a block comment ends it early. -/
theorem shownLines_label_differs :
    ((Pipeline.run (styled .c99) (label "first\nint second;")).result = .ok (labelStream "first\nint second;") ∧
      (write (styled .c99) (labelStream "first\nint second;")).map shownLines ≠
        (write (undocumented (styled .c99)) (labelStream "first\nint second;")).map shownLines) ∧
    ((Pipeline.run (styled .c99) (label "kept in C:\\")).result = .ok (labelStream "kept in C:\\") ∧
      (write (styled .c99) (labelStream "kept in C:\\")).map shownLines ≠
        (write (undocumented (styled .c99)) (labelStream "kept in C:\\")).map shownLines) ∧
    (Pipeline.run (styled .doxy) (label "all of src/*/*")).result = .ok (labelStream "all of src/*/*") ∧
      (write (styled .doxy) (labelStream "all of src/*/*")).map shownLines ≠
        (write (undocumented (styled .doxy)) (labelStream "all of src/*/*")).map shownLines :=
  ⟨⟨run_label _ _, shownLines_write_ne (by decide +kernel) (by decide +kernel)⟩,
    ⟨run_label _ _, shownLines_write_ne (by decide +kernel) (by decide +kernel)⟩,
    run_label _ _, shownLines_write_ne (by decide +kernel) (by decide +kernel)⟩

end Header

end CrateHeader
