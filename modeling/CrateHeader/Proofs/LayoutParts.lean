import CrateHeader.Header
import CrateHeader.Proofs.Pruning
import CrateHeader.Proofs.Spelling
import Mathlib

/-!
# Layouts asked for in several attributes

The parts of one attribute are added up, a later part of a kind in place of an earlier one. Of several
attributes the first one alone counts. So what the others ask for is lost, unless the first one asks for it too:
`Declaration.layout_split` compares a declaration with the one that has all parts in a single attribute.
-/

namespace CrateHeader

/-- One request for a layout. -/
inductive LayoutPart where
  | style (s : LayoutStyle)
  | packed
  | align (n : Nat)
  | width (p : Primitive)
  deriving DecidableEq

namespace LayoutPart

def addTo (layout : Layout) : LayoutPart → Layout
  | style s => { layout with style := s }
  | packed => { layout with packed := true }
  | align n => { layout with align := some n }
  | width p => { layout with discriminant := some p }

def style? : LayoutPart → Option LayoutStyle
  | style s => some s
  | _ => none

def align? : LayoutPart → Option Nat
  | align n => some n
  | _ => none

def width? : LayoutPart → Option Primitive
  | width p => some p
  | _ => none

/-- Of some requests the last one of a kind. -/
def last? {α : Type} (kind : LayoutPart → Option α) (ps : List LayoutPart) : Option α := ps.reverse.findSome? kind

variable {α : Type} {kind : LayoutPart → Option α} {first later ps : List LayoutPart} {p : LayoutPart}

theorem last?_append : last? kind (first ++ later) = (last? kind later).or (last? kind first) := by
  rw [last?, List.reverse_append, List.findSome?_append, last?, last?]

theorem last?_concat : last? kind (ps ++ [p]) = (kind p).or (last? kind ps) := by
  rw [last?_append]
  simp [last?]

end LayoutPart

namespace Layout

open LayoutPart

variable {first later : List LayoutPart}

/-- The layout that some requests add up to. -/
def ofParts (ps : List LayoutPart) : Layout := ps.foldl addTo Layout.default

/-- Of each kind the last request counts. -/
theorem ofParts_eq (ps : List LayoutPart) :
    ofParts ps = ⟨(last? style? ps).getD .rust, last? width? ps, decide (.packed ∈ ps), last? align? ps⟩ := by
  induction ps using List.reverseRecOn with
  | nil => rfl
  | append_singleton ps p ih =>
    rw [ofParts, List.foldl_append, ← ofParts, ih]
    simp only [last?_concat]
    cases p <;> simp [addTo, style?, width?, align?]

/-- Do requests ask for all that others behind them ask for? -/
structure Covers (first later : List LayoutPart) : Prop where
  style : ∀ s, last? style? later = some s → (ofParts first).style = s
  width : ∀ p, last? width? later = some p → (ofParts first).discriminant = some p
  packed : .packed ∈ later → .packed ∈ first
  align : ∀ n, last? align? later = some n → (ofParts first).align = some n

theorem style_append_iff : (ofParts first).style = (ofParts (first ++ later)).style ↔
    ∀ s, last? style? later = some s → (ofParts first).style = s := by
  simp only [ofParts_eq, last?_append]
  cases last? style? later <;> simp

theorem discriminant_append_iff : (ofParts first).discriminant = (ofParts (first ++ later)).discriminant ↔
    ∀ p, last? width? later = some p → (ofParts first).discriminant = some p := by
  simp only [ofParts_eq, last?_append]
  cases last? width? later <;> simp

theorem packed_append_iff : (ofParts first).packed = (ofParts (first ++ later)).packed ↔
    (.packed ∈ later → .packed ∈ first) := by
  simp only [ofParts_eq, List.mem_append, decide_eq_decide]
  tauto

theorem align_append_iff : (ofParts first).align = (ofParts (first ++ later)).align ↔
    ∀ n, last? align? later = some n → (ofParts first).align = some n := by
  simp only [ofParts_eq, last?_append]
  cases last? align? later <;> simp

theorem ofParts_append_iff : ofParts first = ofParts (first ++ later) ↔ Covers first later := by
  have hfields : ∀ l l' : Layout, l = l' ↔
      l.style = l'.style ∧ l.discriminant = l'.discriminant ∧ l.packed = l'.packed ∧ l.align = l'.align :=
    fun l l' => Layout.mk.injEq .. |>.to_iff
  rw [hfields, style_append_iff, discriminant_append_iff, packed_append_iff, align_append_iff]
  exact ⟨fun ⟨hstyle, hwidth, hpacked, halign⟩ => ⟨hstyle, hwidth, hpacked, halign⟩,
    fun h => ⟨h.style, h.width, h.packed, h.align⟩⟩

end Layout

/-! ### Texts of requests -/

namespace LayoutPart

/-- A text stands for a request, whatever has been asked for before. -/
def Stands (text : List Char) (p : LayoutPart) : Prop :=
  ∀ layout, Annotation.addLayoutPart layout text = .ok (p.addTo layout)

theorem isWord_of_ofName? {s : String} {k : Primitive} (h : Primitive.ofName? s = some k) : isWord s = true := by
  unfold Primitive.ofName? at h
  rcases Option.or_eq_some_iff.1 h with h | ⟨_, h⟩
  · have hs : k.spelling = s := by simpa using List.find?_some h
    rw [← hs]
    cases k <;> decide
  · unfold Primitive.ofFixedWidthName? at h
    split at h
    case h_11 => cases h
    all_goals decide

/-- What is accepted once always stands for the same request. It is a word or an alignment. -/
theorem exists_stands {text : List Char} {layout layout' : Layout}
    (h : Annotation.addLayoutPart layout text = .ok layout') :
    ∃ p, Stands text p ∧ (isWord (String.ofList text) = true ∨
      (text.take 5 = ['a', 'l', 'i', 'g', 'n'] ∧ ( Annotation.readAlign? text).isSome = true)) := by
  unfold Annotation.addLayoutPart at h
  dsimp only at h
  by_cases hc : String.ofList text = "C"
  · exact ⟨.style .c, fun l => by simp [ Annotation.addLayoutPart, hc, addTo], .inl (by rw [hc]; decide)⟩
  by_cases ht : String.ofList text = "transparent"
  · exact ⟨.style .transparent, fun l => by simp [ Annotation.addLayoutPart, ht, addTo], .inl (by rw [ht]; decide)⟩
  by_cases hp : String.ofList text = "packed"
  · exact ⟨.packed, fun l => by simp [ Annotation.addLayoutPart, hp, addTo], .inl (by rw [hp]; decide)⟩
  rw [if_neg hc, if_neg ht, if_neg hp] at h
  by_cases hfive : text.take 5 = ['a', 'l', 'i', 'g', 'n']
  · rw [if_pos hfive] at h
    cases hdigits : Annotation.readAlign? text with
    | none =>
      rw [hdigits] at h
      cases h
    | some digits =>
      simp only [hdigits] at h
      split at h
      · cases h
      · next hfew =>
        refine ⟨.align (Text.decimalValue digits), fun l => ?_, .inr ⟨hfive, rfl⟩⟩
        simp [ Annotation.addLayoutPart, hc, ht, hp, hfive, hdigits, hfew, addTo]
  · rw [if_neg hfive] at h
    cases hk : Primitive.ofName? (String.ofList text) with
    | none =>
      rw [hk] at h
      cases h
    | some k =>
      simp only [hk] at h
      split at h
      · next hinteger =>
        refine ⟨.width k, fun l => ?_, .inl (isWord_of_ofName? hk)⟩
        simp [ Annotation.addLayoutPart, hc, ht, hp, hfive, hk, hinteger, addTo]
      · cases h

end LayoutPart

/-- A text that a comma between parts stays apart from. -/
structure IsPart (text : List Char) : Prop where
  plain : ',' ∉ text
  balanced : text.count '(' = text.count ')'
  trimmed : Text.trim text = text
  ne_nil : text ≠ []

theorem trim_eq_self {text : List Char} {c d : Char} (hfirst : text.head? = some c) (hlast : text.getLast? = some d)
    (hc : Text.isBlank c = false) (hd : Text.isBlank d = false) : Text.trim text = text := by
  obtain ⟨rest, rfl⟩ := List.head?_eq_some_iff.1 hfirst
  obtain ⟨front, hfront⟩ := List.getLast?_eq_some_iff.1 hlast
  have hleft : Text.trimLeft (c :: rest) = c :: rest := List.dropWhile_cons_of_neg (by simp [hc])
  rw [Text.trim, hleft, hfront, Text.trimRight, List.reverse_append, List.reverse_singleton,
    List.singleton_append, List.dropWhile_cons_of_neg (by simp [hd]), List.reverse_cons, List.reverse_reverse]

theorem isPart_of_isWord {s : String} (h : isWord s = true) : IsPart s.toList := by
  obtain ⟨c, rest, hs, _⟩ := CToken.exists_of_isWord h
  have hne : s.toList ≠ [] := by
    rw [hs]
    exact List.cons_ne_nil c rest
  have hblank : ∀ x ∈ s.toList, Text.isBlank x = false := fun x hx =>
    CToken.isBlank_of_isNameChar (CToken.isNameChar_of_mem h hx)
  have hfree : ∀ x, Text.isNameChar x = false → x ∉ s.toList := by
    intro x hx hmem
    rw [CToken.isNameChar_of_mem h hmem] at hx
    cases hx
  refine ⟨hfree ',' rfl, ?_, ?_, hne⟩
  · rw [List.count_eq_zero.2 (hfree '(' rfl), List.count_eq_zero.2 (hfree ')' rfl)]
  · exact trim_eq_self (by rw [hs]; rfl) (List.getLast?_eq_some_getLast hne)
      (hblank c (by rw [hs]; exact List.mem_cons_self)) (hblank _ (List.getLast_mem hne))

/-- What stands between the parts of an alignment are blanks and digits. -/
theorem align_shape {text : List Char} (hfive : text.take 5 = ['a', 'l', 'i', 'g', 'n'])
    (h : ( Annotation.readAlign? text).isSome = true) :
    ∃ front inside, text = ['a', 'l', 'i', 'g', 'n'] ++ front ++ '(' :: (inside ++ [')']) ∧
      ∀ c ∈ front ++ inside, c ≠ ',' ∧ c ≠ '(' ∧ c ≠ ')' := by
  have hsigns : ∀ c, (Text.isBlank c || Text.isDecimalDigit c) = true → c ≠ ',' ∧ c ≠ '(' ∧ c ≠ ')' := by
    intro c hc
    refine ⟨?_, ?_, ?_⟩ <;> rintro rfl <;> revert hc <;> decide
  have hblank : ∀ l : List Char, ∀ c ∈ l.takeWhile Text.isBlank, c ≠ ',' ∧ c ≠ '(' ∧ c ≠ ')' :=
    fun l c hc => hsigns c (by rw [List.mem_takeWhile_imp hc]; rfl)
  have hdigit : ∀ l : List Char, ∀ c ∈ l.takeWhile Text.isDecimalDigit, c ≠ ',' ∧ c ≠ '(' ∧ c ≠ ')' :=
    fun l c hc => hsigns c (by rw [List.mem_takeWhile_imp hc, Bool.or_true])
  have hsplit : ∀ l : List Char, l = l.takeWhile Text.isBlank ++ Text.trimLeft l := fun l =>
    List.takeWhile_append_dropWhile.symm
  unfold Annotation.readAlign? at h
  split at h
  · next inside hopen =>
    dsimp only at h
    split at h
    · next d digits hdigits hclose =>
      refine ⟨(text.drop 5).takeWhile Text.isBlank, inside.takeWhile Text.isBlank ++
        ((Text.trimLeft inside).takeWhile Text.isDecimalDigit ++
          ((Text.trimLeft inside).dropWhile Text.isDecimalDigit).takeWhile Text.isBlank), ?_, ?_⟩
      · conv_lhs => rw [← List.take_append_drop 5 text, hfive, hsplit (text.drop 5), hopen, hsplit inside,
          ← List.takeWhile_append_dropWhile (p := Text.isDecimalDigit) (l := Text.trimLeft inside),
          hsplit ((Text.trimLeft inside).dropWhile Text.isDecimalDigit), hclose]
        simp only [List.append_assoc]
      · simp only [List.forall_mem_append]
        exact ⟨hblank _, hblank _, hdigit _, hblank _⟩
    · cases h
  · cases h

theorem isPart_of_align {text : List Char} (hfive : text.take 5 = ['a', 'l', 'i', 'g', 'n'])
    (h : ( Annotation.readAlign? text).isSome = true) : IsPart text := by
  obtain ⟨front, inside, rfl, hfree⟩ := align_shape hfive h
  rw [List.forall_mem_append] at hfree
  obtain ⟨hfront, hinside⟩ := hfree
  have hcount : ∀ l : List Char, (∀ c ∈ l, c ≠ ',' ∧ c ≠ '(' ∧ c ≠ ')') →
      ',' ∉ l ∧ l.count '(' = 0 ∧ l.count ')' = 0 := fun l hl =>
    ⟨fun hmem => (hl _ hmem).1 rfl, List.count_eq_zero.2 fun hmem => (hl _ hmem).2.1 rfl,
      List.count_eq_zero.2 fun hmem => (hl _ hmem).2.2 rfl⟩
  obtain ⟨hcomma, hopen, hclose⟩ := hcount front hfront
  obtain ⟨hcomma', hopen', hclose'⟩ := hcount inside hinside
  refine ⟨by simp [hcomma, hcomma'], by simp [hopen, hclose, hopen', hclose'], ?_, by simp⟩
  have hlast : ['a', 'l', 'i', 'g', 'n'] ++ front ++ '(' :: (inside ++ [')']) =
      (['a', 'l', 'i', 'g', 'n'] ++ front ++ '(' :: inside) ++ [')'] := by simp
  exact trim_eq_self (c := 'a') (d := ')') rfl (by rw [hlast, List.getLast?_concat]) (by decide) (by decide)

theorem LayoutPart.Stands.isPart {text : List Char} {p : LayoutPart} (h : LayoutPart.Stands text p) :
    IsPart text := by
  obtain ⟨_, _, hword | ⟨hfive, halign⟩⟩ := LayoutPart.exists_stands (h Layout.default)
  · have hpart := isPart_of_isWord hword
    rwa [String.toList_ofList] at hpart
  · exact isPart_of_align hfive halign

/-! ### Parts between commas -/

/-- The characters of a part are held back, and what they close they have opened. -/
theorem splitParts_append {text rest : List Char} (hcomma : ',' ∉ text) (depth : Int) (held : List Char) :
    Annotation.splitParts depth held (text ++ rest) =
      Annotation.splitParts (depth + text.count '(' - text.count ')') (text.reverse ++ held) rest := by
  induction text generalizing depth held with
  | nil => simp
  | cons c text ih =>
    obtain ⟨hc, htext⟩ := not_or.1 (List.mem_cons.not.1 hcomma)
    rw [List.cons_append, Annotation.splitParts, if_neg (fun h => hc h.1.symm), ih htext, List.reverse_cons,
      List.append_assoc, List.singleton_append]
    congr 1
    by_cases hopen : c = '('
    · subst hopen
      simp
      omega
    · by_cases hclose : c = ')'
      · subst hclose
        simp
        omega
      · simp [hopen, hclose, List.count_cons_of_ne]

theorem IsPart.splitParts_append {text : List Char} (h : IsPart text) (held rest : List Char) :
    Annotation.splitParts 0 held (text ++ rest) = Annotation.splitParts 0 (text.reverse ++ held) rest := by
  rw [CrateHeader.splitParts_append h.plain, h.balanced]
  simp

/-- What is written with commas between the parts is read as these parts. -/
theorem splitParts_intercalate {text : List Char} {texts : List (List Char)} (h : ∀ t ∈ text :: texts, IsPart t)
    (held : List Char) (hheld : ∀ t, IsPart t → Text.trim (held.reverse ++ t) = t) :
    Annotation.splitParts 0 held (", ".intercalate ((text :: texts).map String.ofList)).toList = text :: texts := by
  induction texts generalizing text held with
  | nil =>
    have htext := h text List.mem_cons_self
    have hsplit := htext.splitParts_append held []
    rw [List.append_nil] at hsplit
    rw [List.map_singleton, String.intercalate_singleton, String.toList_ofList, hsplit, Annotation.splitParts,
      List.reverse_append, List.reverse_reverse, hheld text htext, if_neg htext.ne_nil]
  | cons next texts ih =>
    rw [List.forall_mem_cons] at h
    have hblank : ∀ t, IsPart t → Text.trim ([' '].reverse ++ t) = t := fun t ht => ht.trimmed
    rw [List.map_cons, List.map_cons, String.intercalate_cons_cons, ← List.map_cons, String.toList_append,
      String.toList_append, String.toList_ofList, List.append_assoc, h.1.splitParts_append]
    show Annotation.splitParts 0 _ (',' :: ' ' :: _) = _
    rw [ Annotation.splitParts, if_pos ⟨rfl, by decide⟩, List.reverse_append, List.reverse_reverse, hheld text h.1,
      Annotation.splitParts, if_neg (by decide)]
    exact congrArg (text :: ·) (ih h.2 _ hblank)

/-! ### Attributes -/

namespace Attribute

open LayoutPart

def isLayout (a : Attribute) : Bool := a.name == "repr"

/-- What an attribute asks for, if all its parts are such as can be asked for. -/
structure Asks (a : Attribute) (ps : List LayoutPart) : Prop where
  name : a.name = "repr"
  parts : List.Forall₂ Stands ( Annotation.topLevelParts (a.value.getD "")) ps

variable {a : Attribute} {ps : List LayoutPart} {as : List Attribute} {pss : List (List LayoutPart)}

/-- What several attributes ask for can be asked for in a single one. -/
theorem exists_asks (h : List.Forall₂ Asks as pss) : ∃ whole : Attribute, whole.Asks pss.flatten := by
  have hparts : List.Forall₂ Stands (as.flatMap fun a => Annotation.topLevelParts (a.value.getD "")) pss.flatten := by
    induction h with
    | nil => exact .nil
    | cons hhead _ ih => exact List.rel_append hhead.parts ih
  refine ⟨⟨"repr", some (", ".intercalate ((as.flatMap fun a =>
    Annotation.topLevelParts (a.value.getD "")).map String.ofList))⟩, rfl, ?_⟩
  have hall : ∀ t ∈ as.flatMap fun a => Annotation.topLevelParts (a.value.getD ""), IsPart t :=
    ((List.forall₂_and_left _ _).1 (hparts.imp fun _ _ hstands => ⟨Stands.isPart hstands, hstands⟩)).1
  cases htexts : as.flatMap fun a => Annotation.topLevelParts (a.value.getD "") with
  | nil =>
    rw [htexts] at hparts
    exact hparts
  | cons text texts =>
    rw [htexts] at hparts hall
    rw [Option.getD_some, Annotation.topLevelParts, splitParts_intercalate hall [] fun t ht => ht.trimmed]
    exact hparts

end Attribute

/-! ### Reading -/

theorem foldlM_addLayoutPart {texts : List (List Char)} {ps : List LayoutPart}
    (h : List.Forall₂ LayoutPart.Stands texts ps) (layout : Layout) :
    texts.foldlM Annotation.addLayoutPart layout = .ok (ps.foldl LayoutPart.addTo layout) := by
  induction h generalizing layout with
  | nil => rfl
  | cons hhead _ ih =>
    rw [List.foldlM_cons, hhead layout]
    exact ih _

theorem Attribute.Asks.reads {a : Attribute} {ps : List LayoutPart} (h : a.Asks ps) (owner : String) :
    AttributeSummary.readAnnotation owner a = pure [.layout (Layout.ofParts ps)] := by
  have hread : Annotation.readLayout (a.value.getD "") = .ok (Layout.ofParts ps) :=
    foldlM_addLayoutPart h.parts Layout.default
  have hclass : Annotation.classify a.name a.value = ⟨.ok (.layout (Layout.ofParts ps)), []⟩ := by
    rw [h.name, Annotation.classify, hread]
    rfl
  rw [ AttributeSummary.readAnnotation, hclass]
  rfl

def Annotation.layout? : Annotation → Option Layout
  | .layout l => some l
  | _ => none

namespace Annotations

/-- The annotations that ask for no layout. -/
def others (as : Annotations) : Annotations := as.filter fun a => a.layout?.isNone

theorem others_append (as bs : Annotations) : others (as ++ bs) = others as ++ others bs := List.filter_append ..

theorem layout_eq (as : Annotations) : as.layout = ((as.filterMap Annotation.layout?).head?).getD Layout.default := by
  rw [List.head?_filterMap]
  rfl

theorem arrayLengths_others (as : Annotations) : (others as).arrayLengths = as.arrayLengths := by
  unfold arrayLengths
  congr 1
  induction as with
  | nil => rfl
  | cons a rest ih => cases a <;> simp [others, Annotation.layout?, ← ih]

end Annotations

/-- No other attribute asks for a layout. -/
theorem layout?_of_classify {name : String} {value : Option String} {a : Annotation} (hname : name ≠ "repr")
    (h : ( Annotation.classify name value).result = .ok a) : a.layout? = none := by
  unfold Annotation.classify at h
  dsimp only at h
  split at h
  case h_1 => exact absurd rfl hname
  case h_7 =>
    rw [Logged.map_result] at h
    cases hread : ( Annotation.readLengths (value.getD "")).result with
    | error e => rw [hread] at h; cases h
    | ok lengths => rw [hread] at h; cases h; rfl
  -- One annotation of another kind, or none where a value is missing.
  all_goals
    try split at h
    all_goals cases h <;> rfl

namespace AttributeSummary

open Attribute

variable {owner : String} {attributes : List Attribute} {pss : List (List LayoutPart)}

theorem layout?_of_readAnnotation {a : Attribute} {here : Annotations} (hname : a.name ≠ "repr")
    (h : ( readAnnotation owner a).result = .ok here) : here.filterMap Annotation.layout? = [] := by
  unfold readAnnotation at h
  dsimp only at h
  split at h
  · cases h
  · cases h; rfl
  · cases h; rfl
  · next known _ hread =>
    cases h
    simp [layout?_of_classify hname hread]

/-- The layouts asked for by attributes are those of the attributes that ask for one. -/
theorem layouts_collect (h : List.Forall₂ Asks (attributes.filter isLayout) pss)
    {r : List Cfg × List String × Annotations} (hr : (collect owner attributes).result = .ok r) :
    r.2.2.filterMap Annotation.layout? = pss.map Layout.ofParts := by
  induction attributes generalizing pss r with
  | nil =>
    cases h
    cases hr
    rfl
  | cons a rest ih =>
    unfold collect at hr
    by_cases hlayout : a.isLayout = true
    · rw [List.filter_cons_of_pos hlayout] at h
      cases h with
      | cons hask hrest =>
        rw [hask.name, if_neg (by decide), if_neg (by decide), hask.reads, pure_bind] at hr
        obtain ⟨others, hothers, hr⟩ := Logged.bind_ok hr
        cases hr
        exact congrArg _ (ih hrest hothers)
    · rw [List.filter_cons_of_neg hlayout] at h
      have hname : a.name ≠ "repr" := by simpa [isLayout] using hlayout
      split at hr
      · obtain ⟨_, _, hr⟩ := Logged.bind_ok hr
        obtain ⟨others, hothers, hr⟩ := Logged.bind_ok hr
        have hlayouts := ih h hothers
        cases hr
        exact hlayouts
      · split at hr
        · obtain ⟨others, hothers, hr⟩ := Logged.bind_ok hr
          have hlayouts := ih h hothers
          cases hr
          exact hlayouts
        · obtain ⟨here, hhere, hr⟩ := Logged.bind_ok hr
          obtain ⟨others, hothers, hr⟩ := Logged.bind_ok hr
          cases hr
          rw [List.filterMap_append, layout?_of_readAnnotation hname hhere, List.nil_append]
          exact ih h hothers

/-- What attributes say but for layouts. -/
def apart (r : List Cfg × List String × Annotations) : List Cfg × List String × Annotations :=
  (r.1, r.2.1, Annotations.others r.2.2)

/-- What is done to the result of reading can be done to what it says but for layouts. -/
theorem apart_map {x : Logged BuildError (List Cfg × List String × Annotations)}
    {f g : List Cfg × List String × Annotations → List Cfg × List String × Annotations}
    (h : ∀ r, apart (f r) = g (apart r)) : apart <$> (f <$> x) = g <$> (apart <$> x) := by
  rw [← comp_map, ← comp_map]
  exact congrArg (· <$> x) (funext h)

theorem collect_others (h : List.Forall₂ Asks (attributes.filter isLayout) pss) :
    apart <$> collect owner attributes = apart <$> collect owner (attributes.filter fun a => !a.isLayout) := by
  induction attributes generalizing pss with
  | nil => rfl
  | cons a rest ih =>
    by_cases hlayout : a.isLayout = true
    · rw [List.filter_cons_of_pos hlayout] at h
      rw [List.filter_cons_of_neg (by simp [hlayout])]
      cases h with
      | @cons _ ps _ _ hask hrest =>
        rw [collect, hask.name, if_neg (by decide), if_neg (by decide), hask.reads, pure_bind]
        rw [← ih hrest, ← id_map (apart <$> collect owner rest)]
        exact apart_map (f := fun r => (r.1, r.2.1, [.layout (Layout.ofParts ps)] ++ r.2.2)) (g := id) fun r => rfl
    · rw [List.filter_cons_of_neg hlayout] at h
      rw [List.filter_cons_of_pos (by simp [hlayout]), collect, collect]
      -- The same is done to what the other attributes say.
      have hsame : ∀ f g : List Cfg × List String × Annotations → List Cfg × List String × Annotations,
          (∀ r, apart (f r) = g (apart r)) →
          apart <$> (f <$> collect owner rest) =
            apart <$> (f <$> collect owner (rest.filter fun a => !a.isLayout)) := by
        intro f g hfg
        rw [apart_map hfg, apart_map hfg, ih h]
      split
      · rw [map_bind, map_bind]
        congr 1
        funext cfg
        exact hsame (fun r => (cfg :: r.1, r.2)) (fun r => (cfg :: r.1, r.2)) fun r => rfl
      · split
        · exact hsame (fun r => (r.1, a.value.getD "" :: r.2.1, r.2.2))
            (fun r => (r.1, a.value.getD "" :: r.2.1, r.2.2)) fun r => rfl
        · rw [map_bind, map_bind]
          congr 1
          funext here
          refine hsame (fun r => (r.1, r.2.1, here ++ r.2.2))
            (fun r => (r.1, r.2.1, Annotations.others here ++ r.2.2)) fun r => ?_
          rw [apart, Annotations.others_append]
          rfl

def withoutLayout (said : AttributeSummary) : AttributeSummary :=
  { said with annotations := Annotations.others said.annotations }

theorem read_others (h : List.Forall₂ Asks (attributes.filter isLayout) pss) :
    withoutLayout <$> read owner attributes =
      withoutLayout <$> read owner (attributes.filter fun a => !a.isLayout) := by
  have hread : ∀ as, withoutLayout <$> read owner as =
      (fun r => ⟨Cfg.join (r.1.map some), r.2.1, r.2.2⟩) <$> (apart <$> collect owner as) := by
    intro as
    rw [← comp_map]
    exact map_bind ..
  rw [hread, hread, collect_others h]

end AttributeSummary

/-- An entity but for what is said of its layout. -/
def Entity.withoutLayout (e : Entity) : Entity := { e with annotations := Annotations.others e.annotations }

namespace Declaration

open Attribute

variable {d : Declaration} {index : Nat} {e : Entity} {pss : List (List LayoutPart)}

/-- A body does not depend on layouts. -/
theorem convertBody_others (generics : List String) (ident : String) (annotations : Annotations) (decl : DeclBody) :
    convertBody generics ident (Annotations.others annotations) decl =
      convertBody generics ident annotations decl := by
  have hlength : giveLength (Annotations.others annotations) ident = giveLength annotations ident := by
    funext arg
    simp only [giveLength, Annotations.arrayLength?, Annotations.arrayLengths_others]
  cases decl <;> simp only [convertBody, hlength]

/-- The entity of a declaration whose attributes have been read. -/
def convertRead (d : Declaration) (index : Nat) (said : AttributeSummary) : Logged BuildError Entity := do
  let inherited ← Logged.ofExcept d.inheritedCfg
  let body ← convertBody d.generics d.ident said.annotations d.body
  pure ⟨d.ident, d.ident, d.generics, said.docs, Cfg.join [inherited, said.cfg], said.annotations, d.crate, index,
    d.exported, none, 0, false, body⟩

theorem convert_eq (d : Declaration) (index : Nat) :
    d.convert index = AttributeSummary.read d.ident d.attributes >>= d.convertRead index := rfl

theorem convertRead_others (said : AttributeSummary) :
    Entity.withoutLayout <$> d.convertRead index said = d.convertRead index said.withoutLayout := by
  unfold convertRead
  simp only [map_bind, AttributeSummary.withoutLayout, convertBody_others]
  rfl

/-- Apart from its layout an entity does not depend on the attributes that ask for one. -/
theorem convert_others {merged : List Attribute} {qss : List (List LayoutPart)}
    (h : List.Forall₂ Asks (d.attributes.filter isLayout) pss)
    (hmerged : List.Forall₂ Asks (merged.filter isLayout) qss)
    (hothers : merged.filter (fun a => !a.isLayout) = d.attributes.filter fun a => !a.isLayout) :
    Entity.withoutLayout <$> d.convert index =
      Entity.withoutLayout <$> ({ d with attributes := merged }).convert index := by
  have hread : ∀ as, Entity.withoutLayout <$> ({ d with attributes := as }).convert index =
      (AttributeSummary.withoutLayout <$> AttributeSummary.read d.ident as) >>= d.convertRead index := by
    intro as
    rw [convert_eq, map_bind, bind_map_left]
    exact congrArg _ (funext convertRead_others)
  have hsame : AttributeSummary.withoutLayout <$> AttributeSummary.read d.ident d.attributes =
      AttributeSummary.withoutLayout <$> AttributeSummary.read d.ident merged := by
    rw [AttributeSummary.read_others h, AttributeSummary.read_others hmerged, hothers]
  rw [hread merged, ← hsame]
  exact hread d.attributes

theorem layout_convert (h : List.Forall₂ Asks (d.attributes.filter isLayout) pss)
    (he : (d.convert index).result = .ok e) :
    e.annotations.layout = ((pss.map Layout.ofParts).head?).getD Layout.default := by
  obtain ⟨said, inherited, body, hsaid, _, _, rfl⟩ := convert_ok he
  unfold AttributeSummary.read at hsaid
  obtain ⟨r, hr, hsaid⟩ := Logged.bind_ok hsaid
  have hlayouts := AttributeSummary.layouts_collect h hr
  cases hsaid
  rw [Annotations.layout_eq, ← hlayouts]

end Declaration

/-! ### Writing -/

namespace Header

/-- Of a layout the header shows two things in front of a name. -/
theorem layoutText_eq_iff {l l' : Layout} :
    layoutText l = layoutText l' ↔ l.packed = l'.packed ∧ l.align = l'.align := by
  have hdigits : ∀ m n : Nat, Nat.toDigits 10 m = Nat.toDigits 10 n ↔ m = n := by
    intro m n
    rw [← Nat.repr_inj, Nat.repr, Nat.repr, String.ofList_inj]
  obtain ⟨_, _, packed, align⟩ := l
  obtain ⟨_, _, packed', align'⟩ := l'
  cases packed <;> cases packed' <;> cases align <;> cases align' <;>
    simp [layoutText, ← String.toList_inj, hdigits]

theorem defineType_congr {e e' : Entity} (h : e = { e' with annotations := e.annotations })
    (hlayout : e.annotations.layout = e'.annotations.layout) (settings : Settings) (lib : Library)
    (declared : List String) : defineType settings lib declared e = defineType settings lib declared e' := by
  rw [h] at hlayout ⊢
  simp only at hlayout
  simp only [defineType, taggedEnum, hlayout]
  rfl

end Header

namespace Declaration

open Attribute

variable {d : Declaration} {first : List LayoutPart} {later : List (List LayoutPart)}

/-- What a declaration asks for in several attributes can be asked for in a single one. Nothing else changes
then, and the layout stays if and only if the first of the attributes asks for all that the others ask for; what
is printed of it has its own part in that. -/
theorem layout_split (hsplit : List.Forall₂ Asks (d.attributes.filter isLayout) (first :: later)) (index : Nat) :
    (∃ whole : Attribute, whole.Asks (first ++ later.flatten)) ∧
    ∀ (whole : Attribute) (merged : List Attribute), whole.Asks (first ++ later.flatten) →
      merged.filter isLayout = [whole] →
      merged.filter (fun a => !a.isLayout) = d.attributes.filter (fun a => !a.isLayout) →
      Entity.withoutLayout <$> d.convert index =
        Entity.withoutLayout <$> ({ d with attributes := merged }).convert index ∧
      ∀ e e', (d.convert index).result = .ok e → (({ d with attributes := merged }).convert index).result = .ok e' →
        e.annotations.layout = Layout.ofParts first ∧
        e'.annotations.layout = Layout.ofParts (first ++ later.flatten) ∧
        (e.annotations.layout = e'.annotations.layout ↔ Layout.Covers first later.flatten) ∧
        (Header.layoutText e.annotations.layout = Header.layoutText e'.annotations.layout ↔
          (.packed ∈ later.flatten → .packed ∈ first) ∧
          ∀ n, LayoutPart.last? LayoutPart.align? later.flatten = some n →
            (Layout.ofParts first).align = some n) ∧
        (e.annotations.layout.discriminant = e'.annotations.layout.discriminant ↔
          ∀ p, LayoutPart.last? LayoutPart.width? later.flatten = some p →
            (Layout.ofParts first).discriminant = some p) ∧
        (Layout.Covers first later.flatten → ∀ settings lib declared,
          Header.defineType settings lib declared e = Header.defineType settings lib declared e') := by
  refine ⟨exists_asks hsplit, fun whole merged hwhole hmerged hothers => ?_⟩
  have hsingle : List.Forall₂ Asks (merged.filter isLayout) [first ++ later.flatten] := by
    rw [hmerged]
    exact .cons hwhole .nil
  have hsame : Entity.withoutLayout <$> d.convert index =
      Entity.withoutLayout <$> ({ d with attributes := merged }).convert index :=
    convert_others hsplit hsingle hothers
  refine ⟨hsame, fun e e' he he' => ?_⟩
  have hlayout : e.annotations.layout = Layout.ofParts first := layout_convert hsplit he
  have hlayout' : e'.annotations.layout = Layout.ofParts (first ++ later.flatten) :=
    layout_convert (d := { d with attributes := merged }) hsingle he'
  have hentity : e.withoutLayout = e'.withoutLayout := by
    have hresult := congrArg Logged.result hsame
    rw [Logged.map_result, Logged.map_result, he, he'] at hresult
    exact Except.ok.inj hresult
  have hrest : e = { e' with annotations := e.annotations } :=
    congrArg (fun x : Entity => { x with annotations := e.annotations }) hentity
  rw [Header.layoutText_eq_iff, hlayout, hlayout']
  refine ⟨rfl, rfl, Layout.ofParts_append_iff, ?_, Layout.discriminant_append_iff, fun hcovers => ?_⟩
  · rw [Layout.packed_append_iff, Layout.align_append_iff]
  · refine Header.defineType_congr hrest ?_
    rw [hlayout, hlayout']
    exact Layout.ofParts_append_iff.2 hcovers

/-- A struct with attributes. -/
def padded (attributes : List Attribute) : Declaration :=
  { Declaration.bare .struct "Padded" "crate" with attributes }

def paddedTwice : List Attribute :=
  [⟨"repr", some "C, packed"⟩, ⟨"must_use", none⟩, ⟨"repr", some "packed"⟩]

def paddedOnce : List Attribute := [⟨"must_use", none⟩, ⟨"repr", some "C, packed, packed"⟩]

theorem layout_split_padded :
    List.Forall₂ Asks ((padded paddedTwice).attributes.filter isLayout) [[.style .c, .packed], [.packed]] ∧
    Asks ⟨"repr", some "C, packed, packed"⟩ [.style .c, .packed, .packed] ∧
    ∃ e e', ((padded paddedTwice).convert 0).result = .ok e ∧ ((padded paddedOnce).convert 0).result = .ok e' ∧
      e.annotations.layout = ⟨.c, none, true, none⟩ ∧
      ∀ settings lib declared,
        Header.defineType settings lib declared e = Header.defineType settings lib declared e' := by
  have hc : LayoutPart.Stands ['C'] (.style .c) := fun _ => rfl
  have hpacked : LayoutPart.Stands ['p', 'a', 'c', 'k', 'e', 'd'] .packed := fun _ => rfl
  have hsplit : List.Forall₂ Asks ((padded paddedTwice).attributes.filter isLayout)
      [[.style .c, .packed], [.packed]] :=
    .cons ⟨rfl, .cons hc (.cons hpacked .nil)⟩ (.cons ⟨rfl, .cons hpacked .nil⟩ .nil)
  have hwhole : Asks ⟨"repr", some "C, packed, packed"⟩ [.style .c, .packed, .packed] :=
    ⟨rfl, .cons hc (.cons hpacked (.cons hpacked .nil))⟩
  have hcovers : Layout.Covers [.style .c, .packed] [.packed] :=
    ⟨fun _ h => (nomatch h), fun _ h => (nomatch h), fun _ => by decide, fun _ h => (nomatch h)⟩
  obtain ⟨_, hall⟩ := layout_split hsplit 0
  obtain ⟨_, hlayouts⟩ := hall _ paddedOnce hwhole rfl rfl
  obtain ⟨hfirst, _, _, _, _, hprints⟩ := hlayouts _ _ rfl rfl
  exact ⟨hsplit, hwhole, _, _, rfl, rfl, hfirst, hprints hcovers⟩

/-- The alignment in the second attribute is lost. -/
theorem layout_padded_lost :
    (Attribute.read? "repr(C, packed)" = some ⟨"repr", some "C, packed"⟩ ∧
      Attribute.read? "repr(align(8))" = some ⟨"repr", some "align(8)"⟩ ∧
      Attribute.read? "repr(C, packed, align(8))" = some ⟨"repr", some "C, packed, align(8)"⟩) ∧
    ((padded [⟨"repr", some "C, packed"⟩, ⟨"repr", some "align(8)"⟩]).convert 0).result.map
      (·.annotations.layout) = .ok ⟨.c, none, true, none⟩ ∧
    ((padded [⟨"repr", some "C, packed, align(8)"⟩]).convert 0).result.map
      (·.annotations.layout) = .ok ⟨.c, none, true, some 8⟩ ∧
    Header.layoutText ⟨.c, none, true, none⟩ ≠ Header.layoutText ⟨.c, none, true, some 8⟩ := by
  refine ⟨?_, ?_, ?_, ?_⟩
  · decide +kernel
  · rfl
  · rfl
  · decide +kernel

end Declaration

end CrateHeader
