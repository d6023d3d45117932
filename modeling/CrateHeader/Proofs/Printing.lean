import CrateHeader.Proofs.Documenting
import CrateHeader.Proofs.Outlining

/-!
# The lines of declarations

What the lines of a header say to a reader who does not know where they come from. A header is its declarations one
behind the other, with nothing between them that declares anything (`spellsOut_outline`). A declaration introduces
the name of a type by a `typedef` of that name, the only one on its lines, it completes a record by braces
around the members, and of the table it prints the names that it mentions and no others (`Written.shows`).
-/

namespace CrateHeader

namespace Header

/-! ### Declarations and what stands between them -/

/-- Empty lines, comments, directives, the brackets around what is linked as C, and texts of the settings. A
comment counts as one whatever its text is, also where the text holds an end of line. -/
inductive Aside (settings : Settings) : List String → Prop where
  | empty : Aside settings [""]
  | comment (rest : String) : Aside settings ["//" ++ rest]
  | block (rests : List String) : Aside settings ("/**" :: rests.map (" *" ++ ·) ++ [" */"])
  | directive {line : String} (h : line.toList.head? = some '#') : Aside settings [line]
  | linkage : Aside settings ["extern \"C\" \x7b"]
  | endLinkage : Aside settings ["\x7d  // extern \"C\""]
  | given {value : Document} (h : value ∈ [settings.header, settings.autogenWarning, settings.trailer]) :
      Aside settings [Text.dropFinalNewlines value.asText]
  | mark {note : String} {value : Document} (h : deprecationMark settings.function note = some value) :
      Aside settings [value.asText]

/-- Lines that are those of some declarations, in their order, and between them nothing that declares anything. -/
inductive SpellsOut (settings : Settings) (names : String → String) : List Written → List String → Prop where
  | nil : SpellsOut settings names [] []
  | aside {ds : List Written} {here rest : List String} (h : Aside settings here)
      (hrest : SpellsOut settings names ds rest) : SpellsOut settings names ds (here ++ rest)
  | declaration {d : Written} {ds : List Written} {rest : List String}
      (hrest : SpellsOut settings names ds rest) : SpellsOut settings names (d :: ds) (d.lines settings names ++ rest)

variable {settings : Settings} {names names' : String → String} {lib : Library} {s : Stream} {d : Written}
  {ds ds' : List Written} {here rest : List String}

namespace SpellsOut

theorem append (h : SpellsOut settings names ds here) (h' : SpellsOut settings names ds' rest) :
    SpellsOut settings names (ds ++ ds') (here ++ rest) := by
  induction h with
  | nil => exact h'
  | aside h _ ih =>
    rw [List.append_assoc]
    exact .aside h ih
  | declaration _ ih =>
    rw [List.append_assoc, List.cons_append]
    exact .declaration ih

/-- What is spelled out piece by piece is spelled out. -/
theorem flatMap {α : Type} {written : α → List Written} {lines : α → List String} {l : List α}
    (h : ∀ a ∈ l, SpellsOut settings names (written a) (lines a)) :
    SpellsOut settings names (l.flatMap written) (l.flatMap lines) := by
  induction l with
  | nil => exact nil
  | cons a rest ih =>
    rw [List.forall_mem_cons] at h
    exact h.1.append (ih h.2)

theorem ite {p : Prop} [Decidable p] (h : SpellsOut settings names ds here)
    (h' : SpellsOut settings names ds rest) : SpellsOut settings names ds (if p then here else rest) := by
  split
  · exact h
  · exact h'

end SpellsOut

theorem spellsOut_asides {lines : List String} (h : ∀ line ∈ lines, Aside settings [line]) :
    SpellsOut settings names [] lines := by
  induction lines with
  | nil => exact .nil
  | cons line rest ih =>
    rw [List.forall_mem_cons] at h
    exact .aside h.1 (ih h.2)

theorem spellsOut_docLines (docs : List String) : SpellsOut settings names [] (docLines settings "" docs) := by
  rw [docLines_eq]
  refine .ite .nil ?_
  cases settings.commentStyle with
  | c99 =>
    refine spellsOut_asides fun line hline => ?_
    obtain ⟨tail, _, rfl⟩ := List.mem_map.1 hline
    simpa using Aside.comment tail
  | doxy => simpa using SpellsOut.aside (Aside.block (docs.map tailOf)) .nil

theorem spellsOut_givenBlock {value : Document}
    (h : value ∈ [settings.header, settings.autogenWarning, settings.trailer]) :
    SpellsOut settings names [] (givenBlock value) :=
  .ite (.aside (.given h) (.aside .empty .nil)) .nil

theorem spellsOut_preamble : SpellsOut settings names [] (preamble settings) := by
  have hheader : SpellsOut settings names [] (givenBlock settings.header) := spellsOut_givenBlock (by simp)
  have hwarning : SpellsOut settings names [] (givenBlock settings.autogenWarning) :=
    spellsOut_givenBlock (by simp)
  have hguard : ∀ guard : String, SpellsOut settings names [] ["#ifndef " ++ guard, "#define " ++ guard, ""] :=
    fun guard => .aside (.directive (by simp)) (.aside (.directive (by simp)) (.aside .empty .nil))
  have honce : SpellsOut settings names [] ["#pragma once", ""] :=
    .aside (.directive (by simp)) (.aside .empty .nil)
  have hincludes : SpellsOut settings names [] ((if settings.noIncludes then [] else
      settings.sysIncludes.map fun name => "#include <" ++ name ++ ">") ++
        settings.includes.map fun name => "#include \"" ++ name ++ "\"") := by
    refine spellsOut_asides fun line hline => .directive ?_
    rcases List.mem_append.1 hline with hline | hline
    · split at hline
      · cases hline
      · obtain ⟨name, _, rfl⟩ := List.mem_map.1 hline
        simp
    · obtain ⟨name, _, rfl⟩ := List.mem_map.1 hline
      simp
  exact (((hheader.append hwarning).append (.ite (hguard _) .nil)).append (.ite honce .nil)).append
    (.ite .nil (hincludes.append (.aside .empty .nil)))

theorem spellsOut_epilogue : SpellsOut settings names [] (epilogue settings) := by
  have hguard : ∀ guard : String, SpellsOut settings names [] ["#endif  // " ++ guard, ""] :=
    fun guard => .aside (.directive (by simp)) (.aside .empty .nil)
  have htrailer : SpellsOut settings names [] [Text.dropFinalNewlines settings.trailer.asText] :=
    .aside (.given (by simp)) .nil
  exact SpellsOut.append (.ite (hguard _) .nil) (.ite htrailer .nil)

/-! ### Outlines -/

/-- The declarations of a block are spelled out if its head declares nothing. -/
theorem spellsOut_block {b : Block} (hhead : SpellsOut settings (nameOf lib) [] b.head) :
    SpellsOut settings (nameOf lib) b.written (b.lines settings lib) := by
  have hwritten : ∀ ds : List Written,
      SpellsOut settings (nameOf lib) ds ([""].intercalate (ds.map (Written.lines settings (nameOf lib)))) := by
    intro ds
    induction ds with
    | nil => exact .nil
    | cons d rest ih =>
      cases rest with
      | nil =>
        have hone : SpellsOut settings (nameOf lib) [d] (d.lines settings (nameOf lib) ++ []) := .declaration .nil
        simpa using hone
      | cons d' rest =>
        rw [List.map_cons, List.map_cons, List.intercalate_cons_cons, List.append_assoc]
        exact .declaration (.aside .empty ih)
  exact hhead.append (hwritten b.written)

theorem spellsOut_spaced {bs : List Block} (h : ∀ b ∈ bs, SpellsOut settings (nameOf lib) [] b.head) :
    SpellsOut settings (nameOf lib) (bs.flatMap (·.written)) (spaced (bs.map (Block.lines settings lib))) := by
  rw [spaced, List.flatMap_map]
  refine .flatMap fun b hb => ?_
  simpa using (spellsOut_block (h b hb)).append (.aside .empty .nil)

theorem spellsOut_declarationLines {bs : List Block} (h : ∀ b ∈ bs, SpellsOut settings (nameOf lib) [] b.head) :
    SpellsOut settings (nameOf lib) (bs.flatMap (·.written))
      (declarationLines settings (bs.map (Block.lines settings lib))) := by
  have hspaced := spellsOut_spaced h
  unfold declarationLines
  split
  · next hempty =>
    obtain rfl : bs = [] := by simpa using hempty
    exact .nil
  · refine .ite ?_ hspaced
    have hbefore : SpellsOut settings (nameOf lib) [] ["#ifdef __cplusplus", "extern \"C\" \x7b",
        "#endif  // __cplusplus", ""] :=
      .aside (.directive (by simp)) (.aside .linkage (.aside (.directive (by simp)) (.aside .empty .nil)))
    have hbehind : SpellsOut settings (nameOf lib) [] ["#ifdef __cplusplus", "\x7d  // extern \"C\"",
        "#endif  // __cplusplus", ""] :=
      .aside (.directive (by simp)) (.aside .endLinkage (.aside (.directive (by simp)) (.aside .empty .nil)))
    simpa using (hbefore.append hspaced).append hbehind

theorem spellsOut_typeHead (event : Event) : SpellsOut settings names [] (typeHead settings event) := by
  unfold typeHead
  split
  · exact .ite (spellsOut_docLines _) .nil
  · exact .ite .nil (spellsOut_docLines _)

theorem spellsOut_valueHead (e : Entity) : SpellsOut settings names [] (valueHead settings e) := by
  have hmark : SpellsOut settings names []
      (((e.annotations.deprecated?.bind (deprecationMark settings.function)).toList).map Document.asText) := by
    refine spellsOut_asides fun line hline => ?_
    obtain ⟨value, hvalue, rfl⟩ := List.mem_map.1 hline
    obtain ⟨note, _, hmark⟩ := Option.bind_eq_some_iff.1 (Option.mem_toList.1 hvalue)
    exact .mark hmark
  have hdocs : SpellsOut settings names [] (docLines settings "" e.docs) := spellsOut_docLines e.docs
  unfold valueHead
  cases e.body with
  | constant ty value => exact hdocs
  | static ty isMut => exact hdocs
  | function args ret never => exact hdocs.append hmark
  | _ => exact .nil

/-- A header is the declarations of its outline one behind the other, and nothing else declares anything. -/
theorem spellsOut_outline (settings : Settings) (s : Stream) : SpellsOut settings (nameOf s.library)
    (outline settings s).written ((outline settings s).lines settings s.library) := by
  have htypes : ∀ b ∈ (outline settings s).types, SpellsOut settings (nameOf s.library) [] b.head := by
    intro b hb
    obtain ⟨p, _, rfl⟩ := List.mem_map.1 hb
    exact spellsOut_typeHead p.2
  have hvalues : ∀ b ∈ (outline settings s).constants ++ (outline settings s).values,
      SpellsOut settings (nameOf s.library) [] b.head := by
    intro b hb
    rcases List.mem_append.1 hb with hb | hb
    all_goals
      obtain ⟨event, _, rfl⟩ := List.mem_map.1 hb
      exact spellsOut_valueHead event.entity
  rw [List.forall_mem_append] at hvalues
  have h := (((spellsOut_preamble.append (spellsOut_spaced htypes)).append (spellsOut_spaced hvalues.1)).append
    (spellsOut_declarationLines hvalues.2)).append spellsOut_epilogue
  rw [Outline.written, List.flatMap_append, List.flatMap_append]
  simpa [Outline.lines] using h

/-! ### Forms of C -/

/-- Does a line begin a `typedef`? -/
def IsTypedef (line : String) : Prop := ∃ rest, line = "typedef " ++ rest

/-- Lines that introduce a name as a type, with one `typedef`. -/
inductive Introduces : List String → String → Prop where
  /-- Ahead of the members. -/
  | forward {keyword name : String} (hkeyword : keyword = "struct" ∨ keyword = "union") :
      Introduces ["typedef " ++ keyword ++ " " ++ name ++ " " ++ name ++ ";"] name
  /-- At the brace behind the members. -/
  | braces {keyword attributes name : String} {members : List String}
      (hkeyword : keyword = "struct" ∨ keyword = "union" ∨ keyword = "enum")
      (hmembers : ∀ line ∈ members, ¬ IsTypedef line) :
      Introduces (("typedef " ++ keyword ++ " " ++ attributes ++ name ++ " \x7b") :: members ++
        ["\x7d " ++ name ++ ";"]) name
  /-- As an integer, behind an enum of the same name. -/
  | integer {width name : String} {members : List String} (hmembers : ∀ line ∈ members, ¬ IsTypedef line) :
      Introduces (("enum " ++ name ++ " \x7b") :: members ++ ["\x7d;", "typedef " ++ width ++ " " ++ name ++ ";"]) name
  | synonym (d : Declarator) (name : String) : Introduces ["typedef " ++ d.render (some name) "" ++ ";"] name

/-- Lines that give the members of a struct or union between braces. -/
inductive Completes : List String → String → Prop where
  | named {keyword attributes name : String} (hkeyword : keyword = "struct" ∨ keyword = "union")
      (members : List String) :
      Completes (("typedef " ++ keyword ++ " " ++ attributes ++ name ++ " \x7b") :: members ++
        ["\x7d " ++ name ++ ";"]) name
  | bare {keyword attributes name : String} (hkeyword : keyword = "struct" ∨ keyword = "union")
      (members : List String) :
      Completes ((keyword ++ " " ++ attributes ++ name ++ " \x7b") :: members ++ ["\x7d;"]) name

theorem not_isTypedef {line : String} {c : Char} (h : line.toList.head? = some c) (hc : c ≠ 't') :
    ¬ IsTypedef line := by
  rintro ⟨rest, rfl⟩
  simp at h
  exact hc h.symm

theorem not_isTypedef_of_blank {line : String} (h : line.toList.head? = some ' ') : ¬ IsTypedef line :=
  not_isTypedef h (by decide)

end Header

/-! ### What a declaration prints -/

namespace Declarator

variable {names names' : String → String}

mutual
theorem ofTy_congr (isConst behind : Bool) : (ty : Ty) →
    (∀ m ∈ ty.mentions behind, names m.name = names' m.name) → ofTy names isConst ty = ofTy names' isConst ty
  | .primitive _, _ => rfl
  | .path name args, h => by
    have hname : names name = names' name := h ⟨name, args, behind⟩ (List.mem_singleton.2 rfl)
    simp only [ofTy, hname]
  | .pointer target isMut nullable, h => by
    rw [ofTy, ofTy, ofTy_congr (!isMut) true target h]
  | .array element length, h => by
    rw [ofTy, ofTy, ofTy_congr isConst behind element h]
  | .function params ret never, h => by
    rw [Ty.mentions] at h
    have hparams := ofParams_congr params fun m hm => h m (List.mem_append_left _ hm)
    have hret := ofTy_congr false true ret fun m hm => h m (List.mem_append_right _ hm)
    rw [ofTy, ofTy, hparams, hret]

theorem ofParams_congr : (params : List (Option String × Ty)) →
    (∀ m ∈ Ty.mentionsParams params, names m.name = names' m.name) →
    ofParams names params = ofParams names' params
  | [], _ => rfl
  | (_, ty) :: rest, h => by
    rw [Ty.mentionsParams] at h
    have hfirst := ofTy_congr false true ty fun m hm => h m (List.mem_append_left _ hm)
    have hrest := ofParams_congr rest fun m hm => h m (List.mem_append_right _ hm)
    rw [ofParams, ofParams, hfirst, hrest]
end

theorem ofArgument_congr (a : Argument) (h : ∀ m ∈ a.ty.paths, names m.name = names' m.name) :
    ofArgument names a = ofArgument names' a := by
  unfold ofArgument
  split
  · next target isMut nullable _ hty =>
    rw [hty] at h
    exact ofTy_congr (!isMut) true (.array target _) h
  · exact ofTy_congr false false a.ty h

end Declarator

/-! ### What a declaration shows -/

namespace Written

open Header

variable {settings : Settings} {names names' : String → String} {d : Written}

/-- A declaration depends on what the types are called that it mentions, and on no other names. -/
theorem lines_congr (d : Written) (h : ∀ m ∈ d.mentions, names m.name = names' m.name) :
    d.lines settings names = d.lines settings names' := by
  cases d with
  | forward keyword name => rfl
  | enumeration layout variants name => rfl
  | constant name value => rfl
  | synonym target name => simp only [lines, Declarator.ofTy_congr false false target h]
  | object ty isMut name => simp only [lines, Declarator.ofTy_congr (!isMut) false ty h]
  | record introduces keyword layout name slots =>
    have hslots : ∀ slot ∈ slots, slot.lines settings names = slot.lines settings names' := by
      intro slot hslot
      cases slot with
      | tag typeName => rfl
      | payloads members => rfl
      | field f =>
        have hf : ∀ m ∈ f.ty.paths, names m.name = names' m.name :=
          fun m hm => h m (List.mem_flatMap.2 ⟨_, hslot, hm⟩)
        simp only [Slot.lines, Declarator.ofTy_congr false false f.ty hf]
    simp only [lines, List.flatMap_congr hslots]
  | function args ret never name =>
    have hret : ∀ m ∈ ret.paths, names m.name = names' m.name :=
      fun m hm => h m (List.mem_flatMap.2 ⟨ret, List.mem_cons_self, hm⟩)
    have hargs : (args.map fun a => (a.exportName, Declarator.ofArgument names a)) =
        args.map fun a => (a.exportName, Declarator.ofArgument names' a) := by
      refine List.map_congr_left fun a ha => ?_
      rw [Declarator.ofArgument_congr a fun m hm => h m (List.mem_flatMap.2
        ⟨a.ty, List.mem_cons_of_mem _ (List.mem_map_of_mem ha), hm⟩)]
    simp only [lines, Declarator.ofFunction, hargs, Declarator.ofTy_congr false false ret hret]

/-- Is a declaration that of a function? Its line begins with the type of what the function returns. -/
def isPrototype : Written → Bool
  | function _ _ _ _ => true
  | _ => false

/-- A type that is given members is a struct or a union to C. -/
def HasKeyword : Written → Prop
  | forward keyword _ => keyword = "struct" ∨ keyword = "union"
  | record _ keyword _ _ _ => keyword = "struct" ∨ keyword = "union"
  | _ => True

/-- What the lines of a declaration say of the names that it introduces, completes and mentions. -/
structure Shows (settings : Settings) (names : String → String) (d : Written) : Prop where
  introduces : ∀ name ∈ d.typedefs, Introduces (d.lines settings names) name
  silent : d.typedefs = [] → d.isPrototype = false → ∀ line ∈ d.lines settings names, ¬ IsTypedef line
  completes : ∀ name ∈ d.completes, Completes (d.lines settings names) name
  mentions : ∀ names', (∀ m ∈ d.mentions, names' m.name = names m.name) →
    d.lines settings names' = d.lines settings names

theorem not_isTypedef_docLines {docs : List String} {line : String} (h : line ∈ docLines settings indent docs) :
    ¬ IsTypedef line := by
  have hindent : ∃ rest, line = indent ++ rest := by
    rw [docLines_eq] at h
    split at h
    · cases h
    · split at h
      · obtain ⟨tail, _, rfl⟩ := List.mem_map.1 h
        exact ⟨_, String.append_assoc ..⟩
      · simp only [List.cons_append, List.mem_cons, List.mem_append, List.mem_map, List.not_mem_nil, or_false] at h
        rcases h with rfl | ⟨tail, _, rfl⟩ | rfl
        · exact ⟨_, rfl⟩
        · exact ⟨_, String.append_assoc ..⟩
        · exact ⟨_, rfl⟩
  obtain ⟨rest, rfl⟩ := hindent
  exact not_isTypedef_of_blank (by simp [indent])

theorem not_isTypedef_enumerator {v : Variant} {line : String} (h : line ∈ enumerator settings v) :
    ¬ IsTypedef line := by
  rcases List.mem_append.1 h with h | h
  · exact not_isTypedef_docLines h
  · obtain rfl := List.mem_singleton.1 h
    exact not_isTypedef_of_blank (by simp [indent])

theorem not_isTypedef_slot {slot : Slot} {line : String} (h : line ∈ slot.lines settings names) :
    ¬ IsTypedef line := by
  cases slot with
  | field f =>
    rcases List.mem_append.1 h with h | h
    · exact not_isTypedef_docLines h
    · obtain rfl := List.mem_singleton.1 h
      exact not_isTypedef_of_blank (by simp [indent])
  | tag typeName =>
    obtain rfl := List.mem_singleton.1 h
    exact not_isTypedef_of_blank (by simp [indent])
  | payloads members =>
    simp only [Slot.lines, List.cons_append, List.mem_cons, List.mem_append, List.mem_map, List.not_mem_nil,
      or_false] at h
    rcases h with rfl | ⟨p, _, rfl⟩ | rfl
    all_goals exact not_isTypedef_of_blank (by simp [indent])

theorem not_isTypedef_keyword {keyword : String} (h : keyword = "struct" ∨ keyword = "union") (rest : String) :
    ¬ IsTypedef (keyword ++ rest) := by
  rcases h with rfl | rfl
  · exact not_isTypedef (c := 's') (by simp) (by decide)
  · exact not_isTypedef (c := 'u') (by simp) (by decide)

theorem introduces_lines (h : d.HasKeyword) : ∀ name ∈ d.typedefs, Introduces (d.lines settings names) name := by
  intro name hname
  cases d with
  | forward keyword own =>
    obtain rfl := List.mem_singleton.1 hname
    exact .forward h
  | record introduces keyword layout own slots =>
    cases introduces with
    | false => cases hname
    | true =>
      obtain rfl := List.mem_singleton.1 hname
      refine .braces (h.imp_right .inl) fun line hline => ?_
      obtain ⟨slot, _, hline⟩ := List.mem_flatMap.1 hline
      exact not_isTypedef_slot hline
  | enumeration layout variants own =>
    obtain rfl := List.mem_singleton.1 hname
    have hmembers : ∀ line ∈ variants.flatMap (enumerator settings), ¬ IsTypedef line := by
      intro line hline
      obtain ⟨v, _, hline⟩ := List.mem_flatMap.1 hline
      exact not_isTypedef_enumerator hline
    simp only [lines]
    cases layout.discriminant with
    | none => exact @Introduces.braces "enum" "" name _ (.inr (.inr rfl)) hmembers
    | some width => exact .integer hmembers
  | synonym target own =>
    obtain rfl := List.mem_singleton.1 hname
    exact .synonym _ _
  | constant own value => cases hname
  | object ty isMut own => cases hname
  | function args ret never own => cases hname

theorem not_isTypedef_lines (h : d.HasKeyword) (hnone : d.typedefs = []) (hvalue : d.isPrototype = false) :
    ∀ line ∈ d.lines settings names, ¬ IsTypedef line := by
  intro line hline
  cases d with
  | record introduces keyword layout own slots =>
    cases introduces with
    | true => cases hnone
    | false =>
      simp only [lines, Bool.false_eq_true, if_false, List.cons_append, List.mem_cons, List.mem_append,
        List.not_mem_nil, or_false] at hline
      rcases hline with rfl | hline | rfl
      · simp only [String.append_assoc]
        exact not_isTypedef_keyword h _
      · obtain ⟨slot, _, hline⟩ := List.mem_flatMap.1 hline
        exact not_isTypedef_slot hline
      · exact not_isTypedef (c := '\x7d') (by simp) (by decide)
  | constant own value =>
    obtain rfl := List.mem_singleton.1 hline
    exact not_isTypedef (c := '#') (by simp) (by decide)
  | object ty isMut own =>
    obtain rfl := List.mem_singleton.1 hline
    exact not_isTypedef (c := 'e') (by simp) (by decide)
  | function args ret never own => cases hvalue
  | _ => cases hnone

theorem completes_lines (h : d.HasKeyword) : ∀ name ∈ d.completes, Completes (d.lines settings names) name := by
  intro name hname
  cases d with
  | record introduces keyword layout own slots =>
    obtain rfl := List.mem_singleton.1 hname
    cases introduces with
    | true => exact .named h _
    | false => exact .bare h _
  | _ => cases hname

/-- The lines of a declaration say what it introduces, what it completes and which names it prints. -/
theorem shows (h : d.HasKeyword) : d.Shows settings names where
  introduces := introduces_lines h
  silent := not_isTypedef_lines h
  completes := completes_lines h
  mentions := fun _ hnames => d.lines_congr hnames

end Written

end CrateHeader
