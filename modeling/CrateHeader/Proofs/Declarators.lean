import CrateHeader.Declarator
import CrateHeader.Library.Builder
import CrateHeader.Proofs.CGrammar
import Mathlib.Data.List.Forall2

/-!
# C declarators mean the type they were printed from

What a declarator prints is read back by the grammar of C as the identifier that was printed and as the type:
the same chain of pointers, arrays and functions, `const` on what a pointer to a constant points to and on the
declared object itself.
-/

namespace CrateHeader

/-! ### Types as C has them -/

namespace CType

mutual
/-- What a type is in C. A type of functions is a pointer to them, and a constant array has constant elements. -/
def ofTy (names : String → String) (isConst : Bool) : Ty → CType
  | .primitive p => base isConst p.cSpelling
  | .path name _ => base isConst (names name)
  | .pointer target isMut _ => pointer isConst (ofTy names (!isMut) target)
  | .array element length => array (ofTy names isConst element) length
  | .function params ret _ => pointer isConst (function (ofParams names params) false (ofTy names false ret))

def ofParams (names : String → String) : List (Option String × Ty) → List (Option String × CType)
  | [] => []
  | (name, ty) :: rest => (name, ofTy names false ty) :: ofParams names rest
end

/-- What an argument is in C: a pointer with a length is an array. -/
def ofArgument (names : String → String) (a : Argument) : CType :=
  match a.arrayLength, a.ty with
  | some length, .pointer target isMut _ => array (ofTy names (!isMut) target) length
  | _, ty => ofTy names false ty

end CType

/-! ### What can be declared -/

/-- A name for a type of its own. -/
def isTypeName (s : String) : Bool := isCIdentifier s && Primitive.all.all fun p => p.cSpelling != s

def isLength (s : String) : Bool := s.toList.all fun c => c != '[' && c != ']'

namespace Ty

def isVoid : Ty → Bool
  | primitive .void => true
  | _ => false

mutual
/-- Can C declare something of a type? No function may have an array for its result or take anything void,
and names and lengths have to be such as C has them. -/
def isDeclarable (names : String → String) : Ty → Bool
  | primitive p => p != .vaList
  | path name _ => isTypeName (names name)
  | pointer target _ _ => target.isDeclarable names
  | array element length => isLength length && element.isDeclarable names
  | function params ret _ =>
    areDeclarable names params && ret.isDeclarable names && !Declaration.isArray ret

def areDeclarable (names : String → String) : List (Option String × Ty) → Bool
  | [] => true
  | (name, ty) :: rest =>
    name.all isCIdentifier && ty.isDeclarable names && !ty.isVoid && areDeclarable names rest
end

end Ty

/-- Can C declare an argument? -/
def Argument.isDeclarable (names : String → String) (a : Argument) : Bool :=
  a.exportName.all isCIdentifier && a.ty.isDeclarable names && !a.ty.isVoid && a.arrayLength.all isLength

namespace Declarator

open CToken
open CType hiding ofTy ofParams ofArgument

variable {types : String → Bool} {names : String → String} {ty : Ty} {text : String} {ts : List CToken}
  {ident : Option String} {make : CType → CType} {apart : Bool}

/-! ### Base types -/

theorem isCIdentifier_iff {s : String} : isCIdentifier s = true ↔ isWord s = true ∧ s ∉ cKeywords := by
  simp [isCIdentifier]

theorem isSpecifier_of_isCIdentifier {s : String} (h : isCIdentifier s = true) : IsSpecifier [s] where
  nonempty := by simp
  word w hw := by
    rw [List.mem_singleton.1 hw]
    exact (isCIdentifier_iff.1 h).1
  kind := .inr ⟨s, rfl, (isCIdentifier_iff.1 h).2⟩

theorem isWord_typeWords : ∀ w ∈ typeWords, isWord w = true := by decide

theorem isSpecifier_of_typeWords {words : List String} (hne : words ≠ []) (h : ∀ w ∈ words, w ∈ typeWords) :
    IsSpecifier words where
  nonempty := hne
  word w hw := isWord_typeWords w (h w hw)
  kind := .inl fun w hw => by simpa using h w hw

/-- The words of a primitive type's spelling. -/
theorem exists_words_cSpelling (p : Primitive) :
    ∃ words, IsSpecifier words ∧ " ".intercalate words = p.cSpelling := by
  cases hname : isCIdentifier p.cSpelling with
  | true => exact ⟨_, isSpecifier_of_isCIdentifier hname, String.intercalate_singleton⟩
  | false =>
    refine ⟨Text.words p.cSpelling.toList, isSpecifier_of_typeWords ?_ ?_, ?_⟩
    all_goals
      revert hname
      cases p <;> decide

/-- The base of a declarator is the innermost type, so it has words too. -/
theorem exists_words_base (isConst : Bool) : (ty : Ty) → ty.isDeclarable names = true →
    ∃ words, IsSpecifier words ∧ " ".intercalate words = (ofTy names isConst ty).base
  | .primitive p, _ => exists_words_cSpelling p
  | .path name _, h => by
    have hname : isCIdentifier (names name) = true := (Bool.and_eq_true_iff.1 h).1
    exact ⟨_, isSpecifier_of_isCIdentifier hname, String.intercalate_singleton⟩
  | .pointer target isMut _, h => exists_words_base (!isMut) target h
  | .array element _, h => exists_words_base isConst element (Bool.and_eq_true_iff.1 h).2
  | .function _ ret _, h => by
    simp only [Ty.isDeclarable, Bool.and_eq_true] at h
    exact exists_words_base false ret h.1.2

/-! ### Layer by layer -/

/-- May the layers of a type be put around what has been written so far? What is set apart starts with a
pointer, or else is a function and no array may follow. -/
def Fits (types : String → Bool) (apart : Bool) (ty : Ty) (ts : List CToken) (ident : Option String)
    (make : CType → CType) : Prop :=
  IsDirect types ts ident make ∧ (apart = true → Declaration.isArray ty = false) ∨
    apart = true ∧ IsDeclarator types ts ident make ∧ ts.head? = some .star

theorem Fits.isDeclarator (h : Fits types apart ty ts ident make) : IsDeclarator types ts ident make := by
  rcases h with ⟨hdirect, _⟩ | ⟨_, hdeclarator, _⟩
  · exact hdirect.isDeclarator
  · exact hdeclarator

theorem fits_of_isDirect (h : IsDirect types ts ident make) : Fits types false ty ts ident make :=
  .inl ⟨h, fun hfalse => by cases hfalse⟩

/-- A pointer in front. -/
theorem Fits.pointer {target : Ty} (h : Fits types apart ty ts ident make) (isConst : Bool) :
    Fits types true target (pointerTokens isConst ++ ts) ident (fun t => make (.pointer isConst t)) :=
  .inr ⟨rfl, h.isDeclarator.pointer isConst, by cases isConst <;> rfl⟩

/-- What is written so far, in parentheses if need be, so that something can be put behind it. -/
theorem Fits.direct {length : String} {element : Ty} (h : Fits types apart (.array element length) ts ident make)
    (hdraws : Draws text ts) :
    ∃ us, Spells (if apart then "(" ++ text ++ ")" else text) us ∧ IsDirect types us ident make := by
  rcases h with ⟨hdirect, hnone⟩ | ⟨rfl, hdeclarator, hstar⟩
  · have hfree : apart = false := by
      cases apart with
      | false => rfl
      | true => exact absurd (hnone rfl) (by simp [Declaration.isArray])
    rw [hfree]
    exact ⟨ts, hdraws.full, hdirect⟩
  · exact ⟨_, hdraws.full.parens.spells, hdeclarator.parens hstar⟩

theorem draws_indexed {length : String} (h : Spells text ts) (hlength : isLength length = true) :
    Draws (text ++ "[" ++ length ++ "]") (ts ++ [.bracketed length]) := by
  have hbracket : ']' ∉ length.toList := by
    intro hmem
    have hall := List.all_eq_true.1 hlength _ hmem
    simp at hall
  exact (h.indexed hbracket).draws rfl (by decide)

theorem wrap_function (params : String) (never : Bool) (layers : List Layer) :
    wrap "" apart text (.function params never :: layers) =
      wrap "" true ((if apart then "(" ++ text ++ ")" else text) ++ "(" ++ params ++ ")") layers := by
  simp [wrap]

/-! ### Parameter lists -/

/-- Is what a declarator prints around an identifier read as the identifier and a type? -/
def Renders (types : String → Bool) (d : Declarator) (ident : Option String) (t : CType) : Prop :=
  ∃ ts, Spells (d.render ident "") ts ∧ (∃ w, ts.head? = some (.word w)) ∧
    ∀ rest, isEnd rest = true → Yields (readDeclaration types (ts ++ rest)) (ident, t) rest

theorem renders_of_isDeclarator {d : Declarator} {words : List String} (hwords : IsSpecifier words)
    (hbase : " ".intercalate words = d.base)
    (hdraws : Draws (wrap "" false (ident.getD "") d.layers) ts) (h : IsDeclarator types ts ident make) :
    Renders types d ident (make (.base d.isConst d.base)) := by
  have hhead : Spells d.head (headTokens d.isConst words) := by
    have hspells := hwords.spells d.isConst
    rw [hbase] at hspells
    exact hspells
  refine ⟨headTokens d.isConst words ++ ts, ?_, ?_, ?_⟩
  · unfold render
    dsimp only
    split
    · next hempty =>
      have htrimmed := hdraws.trimmed
      rw [hempty] at htrimmed
      rw [htrimmed.eq_nil, List.append_nil]
      exact hhead
    · exact hhead.blank hdraws.trimmed
  · exact hwords.head?_headTokens d.isConst
  · intro rest hend
    rw [List.append_assoc, ← hbase]
    exact declaration_of_specifiers hwords.nonempty
      (hwords.readHead d.isConst fun s => h.plain_append hend) (h.reads rest hend)

/-- Are declarators parameters of some types, none of them the sign of a variable list or void? -/
abbrev RenderAll (types : String → Bool) (ps : List (Option String × Declarator))
    (cs : List (Option String × CType)) : Prop :=
  List.Forall₂ (fun p c => p.1 = c.1 ∧ Renders types p.2 p.1 c.2 ∧ isEllipsis p.1 p.2 = false) ps cs

theorem renderParams_reads {p : Option String × Declarator} {ps : List (Option String × Declarator)}
    {cs : List (Option String × CType)} (h : RenderAll types (p :: ps) cs) :
    ∃ us, Spells (", ".intercalate (renderParams (p :: ps))) us ∧
      ∀ rest, Yields (readParams types (us ++ .closeParen :: rest)) (cs, false) rest := by
  induction ps generalizing p cs with
  | nil =>
    obtain ⟨name, d⟩ := p
    obtain ⟨⟨_, t⟩, _, ⟨rfl, ⟨us, hspells, ⟨w, hw⟩, hreads⟩, hellipsis⟩, hnil, rfl⟩ :=
      List.forall₂_cons_left_iff.1 h
    cases hnil
    refine ⟨us, ?_, fun rest => params_last ?_ (hreads _ rfl)⟩
    · rw [renderParams, hellipsis, String.intercalate_singleton]
      exact hspells
    · rw [List.head?_append, hw]
      simp
  | cons q ps ih =>
    obtain ⟨name, d⟩ := p
    obtain ⟨⟨_, t⟩, cs, ⟨rfl, ⟨us, hspells, ⟨w, hw⟩, hreads⟩, hellipsis⟩, hrest, rfl⟩ :=
      List.forall₂_cons_left_iff.1 h
    obtain ⟨vs, hvs, hall⟩ := ih hrest
    refine ⟨us ++ .comma :: vs, ?_, fun rest => ?_⟩
    · rw [renderParams]
      cases hparts : renderParams (q :: ps) with
      | nil => cases ps <;> cases hparts
      | cons part parts =>
        rw [String.intercalate_cons_cons, ← hparts]
        exact hspells.comma hvs
      · simp
    · rw [List.append_assoc, List.cons_append]
      refine params_comma ?_ (hreads _ rfl) (hall rest)
      rw [List.head?_append, hw]
      simp

/-- What stands for no parameters at all. -/
theorem renders_void : Renders types ⟨false, "void", []⟩ none (.base false "void") := by
  have hwords : IsSpecifier ["void"] := isSpecifier_of_typeWords (by decide) (by decide)
  have hdraws : Draws (wrap "" false (Option.getD none "") []) [] := draws_empty
  exact renders_of_isDeclarator hwords rfl hdraws isDirect_nil.isDeclarator

/-- A parameter list is read as its parameters. -/
theorem paramList_reads {ps : List (Option String × Declarator)} {cs : List (Option String × CType)}
    (h : RenderAll types ps cs) (hvoid : withoutVoid cs = cs) :
    ∃ us params, Spells (paramList ps) us ∧ withoutVoid params = cs ∧
      ∀ rest, Yields (readParams types (us ++ .closeParen :: rest)) (params, false) rest := by
  cases ps with
  | nil =>
    cases h
    have hone : RenderAll types [(none, ⟨false, "void", []⟩)] [(none, .base false "void")] :=
      .cons ⟨rfl, renders_void, rfl⟩ .nil
    obtain ⟨us, hspells, hreads⟩ := renderParams_reads hone
    exact ⟨us, _, hspells, rfl, hreads⟩
  | cons p ps =>
    obtain ⟨us, hspells, hreads⟩ := renderParams_reads h
    exact ⟨us, cs, hspells, hvoid, hreads⟩

/-- A parameter list behind a declarator makes it that of a function. -/
theorem fits_called {ps : List (Option String × Declarator)} {cs : List (Option String × CType)} {ret : Ty}
    (hspells : Spells text ts) (hdirect : IsDirect types ts ident make) (hne : ts ≠ [])
    (hparams : RenderAll types ps cs) (hvoid : withoutVoid cs = cs)
    (hret : Declaration.isArray ret = false) :
    ∃ us, Draws (text ++ "(" ++ paramList ps ++ ")") us ∧
      Fits types true ret us ident (fun t => make (.function cs false t)) := by
  obtain ⟨us, params, hlist, rfl, hreads⟩ := paramList_reads hparams hvoid
  exact ⟨_, (hspells.called hlist).draws rfl (by decide), .inl ⟨hdirect.called hne hreads, fun _ => hret⟩⟩

/-! ### Types -/

theorem ne_cSpelling_of_isTypeName {s : String} (h : isTypeName s = true) (p : Primitive) :
    s ≠ p.cSpelling := by
  have hall := List.all_eq_true.1 (Bool.and_eq_true_iff.1 h).2 p (Primitive.mem_all p)
  exact fun hs => bne_iff_ne.1 hall hs.symm

theorem isEllipsis_ofTy (h : ty.isDeclarable names = true) (isConst : Bool) (name : Option String) :
    isEllipsis name (ofTy names isConst ty) = false := by
  cases ty with
  | primitive p =>
    have hbase : (p.cSpelling == "va_list") = false := by
      revert h
      cases p <;> simp [Ty.isDeclarable, Primitive.cSpelling]
    simp [isEllipsis, ofTy, hbase]
  | path n args =>
    have hne : names n ≠ "va_list" := ne_cSpelling_of_isTypeName h .vaList
    simp [isEllipsis, ofTy, hne]
  | pointer target isMut nullable => simp [isEllipsis, ofTy, under]
  | array element length => simp [isEllipsis, ofTy, under]
  | function params ret never => simp [isEllipsis, ofTy, under]

theorem ofTy_ne_void (h : ty.isDeclarable names = true) (hvoid : ty.isVoid = false) (isConst : Bool) :
    CType.ofTy names isConst ty ≠ .base false "void" := by
  cases ty with
  | primitive p =>
    revert hvoid
    cases p <;> simp [Ty.isVoid, CType.ofTy, Primitive.cSpelling]
  | path n args =>
    have hne : names n ≠ "void" := ne_cSpelling_of_isTypeName h .void
    simp [CType.ofTy, hne]
  | pointer target isMut nullable => simp [CType.ofTy]
  | array element length => simp [CType.ofTy]
  | function params ret never => simp [CType.ofTy]

theorem withoutVoid_of_ne {cs : List (Option String × CType)} (h : ∀ c ∈ cs, c.2 ≠ .base false "void") :
    withoutVoid cs = cs := by
  unfold withoutVoid
  split
  · exact absurd rfl (h _ (List.mem_singleton.2 rfl))
  · rfl

/-- No parameter is void, so none is lost. -/
theorem withoutVoid_ofParams (params : List (Option String × Ty)) (h : Ty.areDeclarable names params = true) :
    withoutVoid (CType.ofParams names params) = CType.ofParams names params := by
  refine withoutVoid_of_ne ?_
  induction params with
  | nil => simp [CType.ofParams]
  | cons p rest ih =>
    simp only [Ty.areDeclarable, Bool.and_eq_true, Bool.not_eq_true'] at h
    rintro c (_ | ⟨_, hc⟩)
    · exact ofTy_ne_void h.1.1.2 h.1.2 false
    · exact ih h.2 c hc

theorem exists_isDirect (h : ident.all isCIdentifier = true) :
    ∃ ts, Draws (ident.getD "") ts ∧ IsDirect types ts ident id := by
  cases ident with
  | none => exact ⟨[], draws_empty, isDirect_nil⟩
  | some s =>
    obtain ⟨hword, hkeyword⟩ := isCIdentifier_iff.1 h
    exact ⟨[.word s], draws_word hword, isDirect_word hkeyword⟩

/-- Do the layers of a type, put around what declares an identifier, declare the identifier with the type? -/
def Wraps (types : String → Bool) (names : String → String) (ty : Ty) : Prop :=
  ∀ (isConst : Bool) {apart : Bool} {text : String} {ts : List CToken} {ident : Option String}
    {make : CType → CType}, Draws text ts → Fits types apart ty ts ident make →
      ∃ us whole, Draws (wrap "" apart text (ofTy names isConst ty).layers) us ∧
        IsDeclarator types us ident whole ∧
        whole (.base (ofTy names isConst ty).isConst (ofTy names isConst ty).base) =
          make (CType.ofTy names isConst ty)

theorem renders_of_wraps (hwraps : Wraps types names ty) (h : ty.isDeclarable names = true)
    (hident : ident.all isCIdentifier = true) (isConst : Bool) :
    Renders types (ofTy names isConst ty) ident (CType.ofTy names isConst ty) := by
  obtain ⟨ts, hdraws, hdirect⟩ := exists_isDirect hident
  obtain ⟨us, whole, hus, hdeclarator, hwhole⟩ := hwraps isConst hdraws (fits_of_isDirect hdirect)
  obtain ⟨words, hwords, hbase⟩ := exists_words_base isConst ty h
  have hrenders := renders_of_isDeclarator hwords hbase hus hdeclarator
  rwa [hwhole] at hrenders

mutual
-- From the outermost layer inwards, as declarators are written inside out: each layer extends what has been
-- written, and `Fits` says of it what the layers still to come rely on.
theorem wraps_ofTy (types : String → Bool) (names : String → String) : (ty : Ty) →
    ty.isDeclarable names = true → Wraps types names ty
  | .primitive p, _ => fun _ _ _ _ _ _ hdraws hfits => ⟨_, _, hdraws, hfits.isDeclarator, rfl⟩
  | .path name args, _ => fun _ _ _ _ _ _ hdraws hfits => ⟨_, _, hdraws, hfits.isDeclarator, rfl⟩
  | .pointer target isMut nullable, h => fun isConst _ _ _ _ _ hdraws hfits =>
    wraps_ofTy types names target h (!isMut) (hdraws.pointer isConst) (hfits.pointer isConst)
  | .array element length, h => by
    intro isConst apart text ts ident make hdraws hfits
    obtain ⟨hlength, helement⟩ := Bool.and_eq_true_iff.1 h
    obtain ⟨us, hus, hdirect⟩ := hfits.direct hdraws
    exact wraps_ofTy types names element helement isConst (draws_indexed hus hlength)
      (fits_of_isDirect (hdirect.indexed length))
  | .function params ret never, h => by
    intro isConst apart text ts ident make hdraws hfits
    simp only [Ty.isDeclarable, Bool.and_eq_true, Bool.not_eq_true'] at h
    obtain ⟨⟨hparams, hret⟩, harray⟩ := h
    -- A function is written as a pointer to one, so its parameters always come behind parentheses.
    have hpointer := hdraws.pointer isConst
    have hparens := (hfits.isDeclarator.pointer isConst).parens (by cases isConst <;> rfl)
    obtain ⟨us, hus, hcalled⟩ := fits_called hpointer.full.parens.spells hparens (by simp)
      (renders_ofParams types names params hparams) (withoutVoid_ofParams params hparams) harray
    have hlayers : wrap "" apart text (ofTy names isConst (.function params ret never)).layers =
        wrap "" true ("(" ++ (pointerText isConst ++ text) ++ ")" ++ "(" ++
          paramList (ofParams names params) ++ ")") (ofTy names false ret).layers :=
      wrap_function _ never _
    rw [hlayers]
    exact wraps_ofTy types names ret hret false hus hcalled

theorem renders_ofParams (types : String → Bool) (names : String → String) :
    (params : List (Option String × Ty)) → Ty.areDeclarable names params = true →
      RenderAll types (ofParams names params) (CType.ofParams names params)
  | [], _ => .nil
  | (name, ty) :: rest, h => by
    simp only [Ty.areDeclarable, Bool.and_eq_true] at h
    obtain ⟨⟨⟨hname, hty⟩, _⟩, hrest⟩ := h
    exact .cons ⟨rfl, renders_of_wraps (wraps_ofTy types names ty hty) hty hname false,
      isEllipsis_ofTy hty false name⟩ (renders_ofParams types names rest hrest)
end

theorem renders_ofTy (h : ty.isDeclarable names = true) (hident : ident.all isCIdentifier = true)
    (isConst : Bool) : Renders types (ofTy names isConst ty) ident (CType.ofTy names isConst ty) :=
  renders_of_wraps (wraps_ofTy types names ty h) h hident isConst

/-! ### Arguments and functions -/

theorem ofArgument_cases (names : String → String) (a : Argument) :
    (∃ length target isMut nullable, a.arrayLength = some length ∧ a.ty = .pointer target isMut nullable ∧
        ofArgument names a = ofTy names (!isMut) (.array target length) ∧
        CType.ofArgument names a = CType.ofTy names (!isMut) (.array target length)) ∨
      (ofArgument names a = ofTy names false a.ty ∧ CType.ofArgument names a = CType.ofTy names false a.ty) := by
  obtain ⟨name, exportName, ty, arrayLength, cfg⟩ := a
  cases arrayLength with
  | none => exact .inr ⟨rfl, rfl⟩
  | some length =>
    cases ty with
    | pointer target isMut nullable => exact .inl ⟨length, target, isMut, nullable, rfl, rfl, rfl, rfl⟩
    | _ => exact .inr ⟨rfl, rfl⟩

/-- An argument is declared like something of a type that is not void. -/
theorem exists_ofArgument {a : Argument} (h : a.isDeclarable names = true) :
    ∃ isConst ty, ty.isDeclarable names = true ∧ ty.isVoid = false ∧
      ofArgument names a = ofTy names isConst ty ∧ CType.ofArgument names a = CType.ofTy names isConst ty := by
  simp only [Argument.isDeclarable, Bool.and_eq_true, Bool.not_eq_true'] at h
  obtain ⟨⟨⟨_, hty⟩, hvoid⟩, hlength⟩ := h
  rcases ofArgument_cases names a with ⟨length, target, isMut, nullable, hl, hp, hd, hc⟩ | ⟨hd, hc⟩
  · rw [hl] at hlength
    rw [hp] at hty
    exact ⟨!isMut, .array target length, Bool.and_eq_true_iff.2 ⟨hlength, hty⟩, rfl, hd, hc⟩
  · exact ⟨_, _, hty, hvoid, hd, hc⟩

theorem renders_ofArgument {a : Argument} (h : a.isDeclarable names = true)
    (hident : ident.all isCIdentifier = true) :
    Renders types (ofArgument names a) ident (CType.ofArgument names a) := by
  obtain ⟨isConst, ty, hty, _, hd, hc⟩ := exists_ofArgument h
  rw [hd, hc]
  exact renders_ofTy hty hident isConst

theorem renders_arguments {args : List Argument} (h : args.all (·.isDeclarable names) = true) :
    RenderAll types (args.map fun a => (a.exportName, ofArgument names a))
      (args.map fun a => (a.exportName, CType.ofArgument names a)) := by
  induction args with
  | nil => exact .nil
  | cons a rest ih =>
    obtain ⟨ha, hrest⟩ := Bool.and_eq_true_iff.1 h
    obtain ⟨isConst, ty, hty, _, hd, _⟩ := exists_ofArgument ha
    have hname : a.exportName.all isCIdentifier = true := by
      simp only [Argument.isDeclarable, Bool.and_eq_true] at ha
      exact ha.1.1.1
    refine .cons ⟨rfl, renders_ofArgument ha hname, ?_⟩ (ih hrest)
    dsimp only
    rw [hd]
    exact isEllipsis_ofTy hty isConst a.exportName

theorem withoutVoid_arguments {args : List Argument} (h : args.all (·.isDeclarable names) = true) :
    withoutVoid (args.map fun a => (a.exportName, CType.ofArgument names a)) =
      args.map fun a => (a.exportName, CType.ofArgument names a) := by
  refine withoutVoid_of_ne fun c hc => ?_
  obtain ⟨a, ha, rfl⟩ := List.mem_map.1 hc
  obtain ⟨isConst, ty, hty, hvoid, _, hct⟩ := exists_ofArgument (List.all_eq_true.1 h a ha)
  dsimp only
  rw [hct]
  exact ofTy_ne_void hty hvoid isConst

theorem renders_ofFunction {args : List Argument} {ret : Ty} {s : String}
    (hargs : args.all (·.isDeclarable names) = true) (hret : ret.isDeclarable names = true)
    (harray : Declaration.isArray ret = false) (hs : isCIdentifier s = true) (never : Bool) :
    Renders types (ofFunction names args ret never) (some s)
      (.function (args.map fun a => (a.exportName, CType.ofArgument names a)) false
        (CType.ofTy names false ret)) := by
  obtain ⟨hword, hkeyword⟩ := isCIdentifier_iff.1 hs
  obtain ⟨us, hus, hfits⟩ := fits_called (spells_word hword) (isDirect_word hkeyword) (by simp)
    (renders_arguments hargs) (withoutVoid_arguments hargs) harray
  obtain ⟨vs, whole, hvs, hdeclarator, hwhole⟩ := wraps_ofTy types names ret hret false hus hfits
  obtain ⟨words, hwords, hbase⟩ := exists_words_base false ret hret
  have hlayers : wrap "" false s (ofFunction names args ret never).layers =
      wrap "" true (s ++ "(" ++ paramList (args.map fun a => (a.exportName, ofArgument names a)) ++ ")")
        (ofTy names false ret).layers := wrap_function _ never _
  rw [← hlayers] at hvs
  have hrenders : Renders types (ofFunction names args ret never) (some s)
      (whole (.base (ofTy names false ret).isConst (ofTy names false ret).base)) :=
    renders_of_isDeclarator hwords hbase hvs hdeclarator
  rwa [hwhole] at hrenders

/-! ### Reading what was printed -/

theorem Renders.read {d : Declarator} {t : CType} (h : Renders types d ident t) :
    CType.read? types (d.render ident "") = some (ident, t) := by
  obtain ⟨ts, hspells, _, hreads⟩ := h
  have hall := hreads [] rfl
  rw [List.append_nil] at hall
  obtain ⟨hle, heq⟩ := hall
  simp [CType.read?, hspells.readAll, heq]

/-- What is printed for a type around an identifier, or around none, is read as the identifier and the type; so
is an argument, as an array where it has a length, and a function with its arguments. -/
theorem read_render (types : String → Bool) (names : String → String) :
    (∀ ty isConst ident, ty.isDeclarable names = true → ident.all isCIdentifier = true →
      CType.read? types ((ofTy names isConst ty).render ident "") =
        some (ident, CType.ofTy names isConst ty)) ∧
    (∀ a ident, a.isDeclarable names = true → ident.all isCIdentifier = true →
      CType.read? types ((ofArgument names a).render ident "") = some (ident, CType.ofArgument names a)) ∧
    ∀ args ret never s, args.all (·.isDeclarable names) = true → ret.isDeclarable names = true →
      Declaration.isArray ret = false → isCIdentifier s = true →
      CType.read? types ((ofFunction names args ret never).render (some s) "") =
        some (some s, .function (args.map fun a => (a.exportName, CType.ofArgument names a)) false
          (CType.ofTy names false ret)) :=
  ⟨fun _ isConst _ hty hident => (renders_ofTy hty hident isConst).read,
    fun _ _ ha hident => (renders_ofArgument ha hident).read,
    fun _ _ never _ hargs hret harray hs => (renders_ofFunction hargs hret harray hs never).read⟩

/-- A constant pointer to an array of constant pointers to functions that return pointers. -/
def switchboard : Ty :=
  .pointer (.array (.function
    [(some "at", .pointer (.path "Plug" []) false true), (none, .array (.primitive .cUChar) "4")]
    (.pointer (.primitive .void) true true) false) "N + 1") false false

/-- A pointer that is written as an array. -/
def plugs : Argument := ⟨some "plugs", some "plugs", .pointer (.path "Plug" []) false true, some "16", none⟩

theorem read_render_switchboard :
    (ofTy id true switchboard).render (some "board") "" =
      "void *(*const (*const board)[N + 1])(const Plug *at, unsigned char [4])" ∧
    CType.read? (fun _ => false) ((ofTy id true switchboard).render (some "board") "") =
      some (some "board", CType.ofTy id true switchboard) ∧
    CType.read? (fun _ => false) ((ofArgument id plugs).render none "") =
      some (none, CType.ofArgument id plugs) ∧
    CType.read? (fun _ => false) ((ofFunction id [plugs] switchboard false).render (some "connect") "") =
      some (some "connect", .function [(some "plugs", CType.ofArgument id plugs)] false
        (CType.ofTy id false switchboard)) :=
  ⟨by decide,
    (read_render _ id).1 switchboard true (some "board") (by decide) (by decide),
    (read_render _ id).2.1 plugs none (by decide) (by decide),
    (read_render _ id).2.2 [plugs] switchboard false "connect" (by decide) (by decide) (by decide) (by decide)⟩

end Declarator

end CrateHeader
