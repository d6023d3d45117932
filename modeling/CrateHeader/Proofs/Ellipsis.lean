import CrateHeader.Declarator
import CrateHeader.Library.Builder
import Mathlib

/-!
# The sign of a variable argument list

A variadic function ends in an argument that no source has, without a name and of the type `va_list`, and the
last parameter of a list is printed as `...` if that is what it looks like. A parameter that somebody wrote can
look the same. The list is compared with the one in which every parameter, those of parameters that are functions
too, is printed as one of its own type: each that is taken for the sign puts three dots into the text that the
text in full does not have.
-/

namespace CrateHeader

/-! ### Types and arguments -/

namespace Ty

/-- Is a type printed as `va_list` and nothing else? -/
def isVaList (names : String → String) : Ty → Bool
  | primitive p => p == .vaList
  | path name _ => names name == "va_list"
  | _ => false

mutual
/-- How many parameters inside a type are taken for the sign of a variable list. -/
def taken (names : String → String) : Ty → Nat
  | primitive _ => 0
  | path _ _ => 0
  | pointer target _ _ => target.taken names
  | array element _ => element.taken names
  | function params ret _ => takenAll names params + ret.taken names

def takenAll (names : String → String) : List (Option String × Ty) → Nat
  | [] => 0
  | (name, ty) :: rest =>
    ty.taken names + (if name.isNone && ty.isVaList names && rest.isEmpty then 1 else 0) + takenAll names rest
end

/-- Only the last parameter of a list is looked at. -/
theorem takenAll_cons_cons (names : String → String) (name : Option String) (ty : Ty) (next : Option String × Ty)
    (rest : List (Option String × Ty)) :
    takenAll names ((name, ty) :: next :: rest) = ty.taken names + takenAll names (next :: rest) := by
  simp [takenAll]

end Ty

/-- The arguments of a function, with the mark of a variadic one at their end. -/
def Declaration.marked (variadic : Bool) (args : List Argument) : List Argument :=
  args ++ if variadic then [variadicMark] else []

/-- Does an argument look like the sign of a variable list? -/
def Argument.isBare (names : String → String) (a : Argument) : Bool := a.exportName.isNone && a.ty.isVaList names

/-- The type that an argument is printed with and whether that is constant; a pointer with a length is an array. -/
def Argument.printed (a : Argument) : Bool × Ty :=
  match a.arrayLength, a.ty with
  | some length, .pointer target isMut _ => (!isMut, .array target length)
  | _, ty => (false, ty)

namespace Declarator

variable {names : String → String}

/-! ### Lists in full -/

/-- A parameter as one of its own type. -/
def own (p : Option String × Declarator) : String := p.2.render p.1 ""

/-- The parameters of a list between its parentheses. -/
def listed (texts : List String) : String := if texts.isEmpty then "void" else ", ".intercalate texts

mutual
/-- The declarator of a type with every parameter in it as one of its own type. -/
def inFull (names : String → String) (isConst : Bool) : Ty → Declarator
  | .primitive p => ⟨isConst, p.cSpelling, []⟩
  | .path name _ => ⟨isConst, names name, []⟩
  | .pointer target isMut _ => under (.pointer isConst) (inFull names (!isMut) target)
  | .array element length => under (.array length) (inFull names isConst element)
  | .function params ret never =>
    under (.pointer isConst)
      (under (.function (listed ((allInFull names params).map own)) never) (inFull names false ret))

def allInFull (names : String → String) : List (Option String × Ty) → List (Option String × Declarator)
  | [] => []
  | (name, ty) :: rest => (name, inFull names false ty) :: allInFull names rest
end

theorem renderParams_concat (front : List (Option String × Declarator)) (p : Option String × Declarator) :
    renderParams (front ++ [p]) = front.map own ++ [if isEllipsis p.1 p.2 then "..." else own p] := by
  induction front with
  | nil => rfl
  | cons q rest ih =>
    have hcons : renderParams (q :: (rest ++ [p])) = own q :: renderParams (rest ++ [p]) := by
      cases rest <;> rfl
    rw [List.cons_append, hcons, ih]
    rfl

theorem paramList_eq (ps : List (Option String × Declarator)) : paramList ps = listed (renderParams ps) := by
  rcases List.eq_nil_or_concat ps with rfl | ⟨front, p, rfl⟩
  · rfl
  · simp [paramList, listed, renderParams_concat]

theorem isEllipsis_eq_isVaList (isConst : Bool) (name : Option String) (ty : Ty) :
    isEllipsis name (ofTy names isConst ty) = (name.isNone && ty.isVaList names) := by
  cases ty with
  | primitive p =>
    have hspelling : (p.cSpelling == "va_list") = (p == .vaList) := by cases p <;> decide
    simp [isEllipsis, ofTy, Ty.isVaList, hspelling]
  | path name args => simp [isEllipsis, ofTy, Ty.isVaList]
  | pointer target isMut nullable => simp [isEllipsis, ofTy, under, Ty.isVaList]
  | array element length => simp [isEllipsis, ofTy, under, Ty.isVaList]
  | function params ret never => simp [isEllipsis, ofTy, under, Ty.isVaList]

/-! ### Where nothing is taken for the sign -/

mutual
theorem inFull_eq_ofTy (isConst : Bool) : (ty : Ty) → ty.taken names = 0 →
    inFull names isConst ty = ofTy names isConst ty
  | .primitive _, _ => rfl
  | .path _ _, _ => rfl
  | .pointer target isMut _, h => by rw [inFull, ofTy, inFull_eq_ofTy (!isMut) target h]
  | .array element _, h => by rw [inFull, ofTy, inFull_eq_ofTy isConst element h]
  | .function params ret never, h => by
    obtain ⟨hparams, hret⟩ := Nat.add_eq_zero_iff.1 h
    rw [inFull, ofTy, inFull_eq_ofTy false ret hret, paramList_eq, map_own_eq_renderParams params hparams]

theorem map_own_eq_renderParams : (params : List (Option String × Ty)) → Ty.takenAll names params = 0 →
    (allInFull names params).map own = renderParams (ofParams names params)
  | [], _ => rfl
  | [(name, ty)], h => by
    simp only [Ty.takenAll, Nat.add_eq_zero_iff, List.isEmpty_nil, Bool.and_true] at h
    have hbare : isEllipsis name (ofTy names false ty) = false := by
      rw [isEllipsis_eq_isVaList]
      simpa using h.1.2
    simp [allInFull, ofParams, renderParams, own, hbare, inFull_eq_ofTy false ty h.1.1]
  | (name, ty) :: q :: rest, h => by
    rw [Ty.takenAll_cons_cons, Nat.add_eq_zero_iff] at h
    rw [allInFull, List.map_cons, map_own_eq_renderParams (q :: rest) h.2, own, inFull_eq_ofTy false ty h.1]
    rfl
end

/-! ### Dots -/

def dots (s : String) : Nat := s.toList.count '.'

theorem dots_append (s t : String) : dots (s ++ t) = dots s + dots t := by
  rw [dots, String.toList_append, List.count_append]
  rfl

/-- No blank is a dot. -/
theorem dots_stripRight (s : String) : dots (Text.stripRight s) = dots s := by
  have hblank : (s.toList.reverse.takeWhile Text.isBlank).count '.' = 0 := by
    refine List.count_eq_zero.2 fun hmem => ?_
    have hdot := List.mem_takeWhile_imp hmem
    revert hdot
    decide
  have hsplit : s.toList.reverse.takeWhile Text.isBlank ++ s.toList.reverse.dropWhile Text.isBlank =
      s.toList.reverse := List.takeWhile_append_dropWhile
  have hcount := congrArg (List.count '.') hsplit
  rw [List.count_append, hblank, Nat.zero_add, List.count_reverse] at hcount
  rw [dots, Text.stripRight, String.toList_ofList, Text.trimRight, List.count_reverse, hcount]
  rfl

theorem dots_intercalate (texts : List String) : dots (", ".intercalate texts) = (texts.map dots).sum := by
  induction texts with
  | nil => rfl
  | cons text rest ih =>
    cases rest with
    | nil => simp
    | cons next rest =>
      rw [String.intercalate_cons_cons, dots_append, dots_append, ih]
      rfl

theorem dots_listed (texts : List String) : dots (listed texts) = (texts.map dots).sum := by
  cases texts with
  | nil => rfl
  | cons text rest => exact dots_intercalate (text :: rest)

end Declarator

/-- The dots that a layer puts into the text of a declarator. -/
def Layer.dots : Layer → Nat
  | pointer _ => 0
  | array length => Declarator.dots length
  | function params _ => Declarator.dots params

namespace Declarator

variable {names : String → String}

def layerDots (d : Declarator) : Nat := (d.layers.map Layer.dots).sum

theorem layerDots_under (layer : Layer) (d : Declarator) : (under layer d).layerDots = layer.dots + d.layerDots := by
  rw [layerDots, under, List.map_cons, List.sum_cons, layerDots]

theorem dots_wrap (apart : Bool) (inner : String) (layers : List Layer) :
    dots (wrap "" apart inner layers) = dots inner + (layers.map Layer.dots).sum := by
  have hparens : ∀ (apart : Bool) (s : String), dots (if apart then "(" ++ s ++ ")" else s) = dots s := by
    intro apart s
    cases apart with
    | false => rfl
    | true => simp [dots_append, show dots "(" = 0 from rfl, show dots ")" = 0 from rfl]
  induction layers generalizing apart inner with
  | nil => rfl
  | cons layer rest ih =>
    cases layer with
    | pointer isConst =>
      have hstar : dots (if isConst then "*const " else "*") = 0 := by cases isConst <;> rfl
      rw [wrap, ih, dots_append, hstar, List.map_cons, List.sum_cons, Layer.dots, Nat.zero_add, Nat.zero_add]
    | array length =>
      rw [wrap, ih, dots_append, dots_append, dots_append, hparens, List.map_cons, List.sum_cons, Layer.dots,
        show dots "[" = 0 from rfl, show dots "]" = 0 from rfl]
      omega
    | function params never =>
      rw [wrap, ih]
      simp only [bne_self_eq_false, Bool.and_false, Bool.false_eq_true, if_false, dots_append, hparens,
        List.map_cons, List.sum_cons, Layer.dots, show dots "(" = 0 from rfl, show dots ")" = 0 from rfl,
        show dots "" = 0 from rfl]
      omega

theorem dots_render (d : Declarator) (ident : Option String) :
    dots (d.render ident "") = dots d.head + dots (ident.getD "") + d.layerDots := by
  have hwrap := (dots_stripRight _).trans (dots_wrap false (ident.getD "") d.layers)
  unfold render
  dsimp only
  split
  · next hempty =>
    rw [hempty] at hwrap
    rw [Nat.add_assoc, layerDots, ← hwrap]
    rfl
  · rw [dots_append, dots_append, hwrap, ← Nat.add_assoc, layerDots]
    rfl

/-- Base and `const` are not of the layers. -/
theorem head_inFull (isConst : Bool) (ty : Ty) : (inFull names isConst ty).head = (ofTy names isConst ty).head := by
  cases ty with
  | primitive p => rfl
  | path name args => rfl
  | pointer target isMut nullable => exact head_inFull (!isMut) target
  | array element length => exact head_inFull isConst element
  | function params ret never => exact head_inFull false ret

theorem dots_own {d d' : Declarator} {n : Nat} (name : Option String) (hhead : d.head = d'.head)
    (hlayers : d.layerDots = d'.layerDots + n) : dots (own (name, d)) = dots (own (name, d')) + n := by
  rw [own, own, dots_render, dots_render, hhead, hlayers, ← Nat.add_assoc]

/-- What is taken for the sign of a list has a type without dots. -/
theorem inFull_of_isVaList {ty : Ty} (h : ty.isVaList names = true) :
    inFull names false ty = ⟨false, "va_list", []⟩ ∧ ty.taken names = 0 := by
  cases ty with
  | primitive p =>
    rw [Ty.isVaList, beq_iff_eq] at h
    rw [h]
    exact ⟨rfl, rfl⟩
  | path name args =>
    rw [Ty.isVaList, beq_iff_eq] at h
    exact ⟨by rw [inFull, h], rfl⟩
  | _ => cases h

mutual
/-- Each parameter that is taken for the sign of a list is three dots more. -/
theorem layerDots_ofTy (isConst : Bool) : (ty : Ty) →
    (ofTy names isConst ty).layerDots = (inFull names isConst ty).layerDots + 3 * ty.taken names
  | .primitive _ => rfl
  | .path _ _ => rfl
  | .pointer target isMut _ => by
    have htarget := layerDots_ofTy (!isMut) target
    rw [ofTy, inFull, layerDots_under, layerDots_under, htarget, Ty.taken, Nat.add_assoc]
  | .array element _ => by
    have helement := layerDots_ofTy isConst element
    rw [ofTy, inFull, layerDots_under, layerDots_under, helement, Ty.taken, Nat.add_assoc]
  | .function params ret never => by
    have hret := layerDots_ofTy false ret
    have hparams := dots_ofParams params
    simp only [ofTy, inFull, layerDots_under, Layer.dots, paramList_eq, dots_listed, hret, hparams, Ty.taken]
    omega

theorem dots_ofParams : (params : List (Option String × Ty)) →
    ((renderParams (ofParams names params)).map dots).sum =
      (((allInFull names params).map own).map dots).sum + 3 * Ty.takenAll names params
  | [] => rfl
  | [(name, ty)] => by
    have hown := dots_own name (head_inFull false ty).symm (layerDots_ofTy false ty)
    have hsign : isEllipsis name (ofTy names false ty) = (name.isNone && ty.isVaList names) :=
      isEllipsis_eq_isVaList false name ty
    simp only [ofParams, allInFull, renderParams, hsign, Ty.takenAll, List.isEmpty_nil, Bool.and_true,
      List.map_cons, List.map_nil, List.sum_singleton]
    cases hbare : (name.isNone && ty.isVaList names) with
    | false =>
      rw [own] at hown
      simpa using hown
    | true =>
      obtain ⟨hname, hty⟩ := Bool.and_eq_true_iff.1 hbare
      obtain ⟨hfull, htaken⟩ := inFull_of_isVaList hty
      rw [if_pos rfl, if_pos rfl, Option.isNone_iff_eq_none.1 hname, hfull, htaken]
      decide
  | (name, ty) :: q :: rest => by
    have hown := dots_own name (head_inFull false ty).symm (layerDots_ofTy false ty)
    have hrest := dots_ofParams (q :: rest)
    have hlist : renderParams (ofParams names ((name, ty) :: q :: rest)) =
        own (name, ofTy names false ty) :: renderParams (ofParams names (q :: rest)) := rfl
    rw [hlist, Ty.takenAll_cons_cons, allInFull.eq_2, List.map_cons, List.map_cons, List.map_cons, List.sum_cons,
      List.sum_cons, hown, hrest]
    omega
end

/-! ### Prototypes -/

/-- An argument as a parameter. -/
def parameter (names : String → String) (a : Argument) : Option String × Declarator :=
  (a.exportName, ofArgument names a)

/-- An argument as a parameter of its own type, with every parameter inside that type too. -/
def parameterInFull (names : String → String) (a : Argument) : Option String × Declarator :=
  (a.exportName, inFull names a.printed.1 a.printed.2)

theorem ofArgument_eq_ofTy (a : Argument) : ofArgument names a = ofTy names a.printed.1 a.printed.2 := by
  obtain ⟨name, exportName, ty, length, cfg⟩ := a
  cases length <;> cases ty <;> rfl

/-- A length is part of a pointer and no parameter inside its target. -/
theorem taken_printed (a : Argument) : a.printed.2.taken names = a.ty.taken names := by
  obtain ⟨name, exportName, ty, length, cfg⟩ := a
  cases length <;> cases ty <;> rfl

theorem isVaList_printed (a : Argument) : a.printed.2.isVaList names = a.ty.isVaList names := by
  obtain ⟨name, exportName, ty, length, cfg⟩ := a
  cases length <;> cases ty <;> rfl

theorem isConst_printed {a : Argument} (h : a.ty.isVaList names = true) : a.printed.1 = false := by
  obtain ⟨name, exportName, ty, length, cfg⟩ := a
  cases length <;> cases ty <;> first | rfl | cases h

theorem isEllipsis_parameter (a : Argument) :
    isEllipsis (parameter names a).1 (parameter names a).2 = a.isBare names := by
  rw [parameter, ofArgument_eq_ofTy, isEllipsis_eq_isVaList, isVaList_printed, Argument.isBare]

/-- An argument is printed in full exactly when nothing inside its type is taken for a sign. -/
theorem own_parameter_iff (a : Argument) :
    own (parameter names a) = own (parameterInFull names a) ↔ a.ty.taken names = 0 := by
  rw [parameter, parameterInFull, ofArgument_eq_ofTy, ← taken_printed]
  constructor
  · intro hsame
    have hhead : (ofTy names a.printed.1 a.printed.2).head = (inFull names a.printed.1 a.printed.2).head :=
      (head_inFull a.printed.1 a.printed.2).symm
    have hdots := dots_own a.exportName hhead (layerDots_ofTy a.printed.1 a.printed.2)
    rw [hsame] at hdots
    omega
  · intro htaken
    rw [inFull_eq_ofTy a.printed.1 a.printed.2 htaken]

/-- The parameters of a prototype from left to right. -/
def printedParams (names : String → String) (args : List Argument) : List String :=
  renderParams (args.map (parameter names))

theorem printedParams_concat (front : List Argument) (a : Argument) : printedParams names (front ++ [a]) =
    front.map (fun b => own (parameter names b)) ++ [if a.isBare names then "..." else own (parameter names a)] := by
  rw [printedParams, List.map_append, List.map_singleton, renderParams_concat, isEllipsis_parameter, List.map_map,
    Function.comp_def]

theorem own_of_isBare {a : Argument} (h : a.isBare names = true) : own (parameterInFull names a) = "va_list" := by
  obtain ⟨hname, hty⟩ := Bool.and_eq_true_iff.1 h
  rw [parameterInFull, Option.isNone_iff_eq_none.1 hname, isConst_printed hty,
    (inFull_of_isVaList ((isVaList_printed a).trans hty)).1]
  decide

theorem isBare_variadicMark : Declaration.variadicMark.isBare names = true := rfl

/-- A prototype ends in dots if it is variadic or the last argument looks as if it were. -/
theorem getLast?_printedParams (args : List Argument) (variadic : Bool) :
    (printedParams names (Declaration.marked variadic args)).getLast? = some "..." ↔
      variadic = true ∨ ∃ a ∈ args.getLast?, a.isBare names = true ∨ own (parameter names a) = "..." := by
  cases variadic with
  | true => simp [Declaration.marked, printedParams_concat, isBare_variadicMark]
  | false =>
    rcases List.eq_nil_or_concat args with rfl | ⟨front, a, rfl⟩
    · simp [Declaration.marked, printedParams, renderParams]
    · cases hbare : a.isBare names with
      | true => simp [Declaration.marked, printedParams_concat, hbare]
      | false => simp [Declaration.marked, printedParams_concat, hbare]

theorem printedParams_eq_iff (args : List Argument) (variadic : Bool) :
    printedParams names (Declaration.marked variadic args) =
        args.map (fun a => own (parameterInFull names a)) ++ (if variadic then ["..."] else []) ↔
      (∀ a ∈ args, a.ty.taken names = 0) ∧ (variadic = true ∨ ∀ a ∈ args.getLast?, a.isBare names = false) := by
  cases variadic with
  | true => simp [Declaration.marked, printedParams_concat, isBare_variadicMark, own_parameter_iff]
  | false =>
    rcases List.eq_nil_or_concat args with rfl | ⟨front, a, rfl⟩
    · simp [Declaration.marked, printedParams, renderParams]
    · cases hbare : a.isBare names with
      | true =>
        have hdots : "..." ≠ own (parameterInFull names a) := by
          rw [own_of_isBare hbare]
          decide
        simp [Declaration.marked, printedParams_concat, hbare, hdots]
      | false => simp [Declaration.marked, printedParams_concat, hbare, own_parameter_iff, or_imp, forall_and]

end Declarator

end CrateHeader
