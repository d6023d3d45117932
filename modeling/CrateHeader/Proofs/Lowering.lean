import CrateHeader.Ty.Lowering

/-!
# Lowering and instantiation

A template is lowered once, its parameters standing for themselves, and an instance replaces them in what
was lowered. Writing the arguments into the expression and lowering that gives the same type but for two
things that lowering sees only when they are written: an `Option` around what becomes a pointer or a
function type, and a function type whose result becomes the never type. `lower_instantiate_iff` says that
these are all the differences there are.
-/

namespace CrateHeader

namespace Expr

/-! ### Writing arguments for parameters -/

/-- Parameters bound to argument expressions in order; a parameter that repeats takes its last argument. -/
def bindings (params : List String) (args : List Expr) : List (String × Expr) :=
  (params.zip args).reverse

mutual
/-- Every argument-free path that the bindings name is replaced, all at once. -/
def instantiate (bound : List (String × Expr)) : Expr → Expr
  | path name [] => (bound.lookup name).getD (path name [])
  | path name (first :: rest) => path name (first.instantiate bound :: instantiateAll bound rest)
  | pointer target isMut isReference => pointer (target.instantiate bound) isMut isReference
  | array element length => array (element.instantiate bound) length
  | function params ret => function (instantiateParams bound params) (instantiateResult bound ret)
  | unit => unit
  | never => never

def instantiateAll (bound : List (String × Expr)) : List Expr → List Expr
  | [] => []
  | e :: rest => e.instantiate bound :: instantiateAll bound rest

def instantiateParams (bound : List (String × Expr)) :
    List (Option String × Expr) → List (Option String × Expr)
  | [] => []
  | (n, e) :: rest => (n, e.instantiate bound) :: instantiateParams bound rest

def instantiateResult (bound : List (String × Expr)) : Option Expr → Option Expr
  | none => none
  | some e => some (e.instantiate bound)
end

mutual
/-- No parameter is given arguments of its own. -/
def usesBare (params : List String) : Expr → Bool
  | path name args => (args.isEmpty || !params.contains name) && usesBareAll params args
  | pointer target _ _ => target.usesBare params
  | array element _ => element.usesBare params
  | function ps ret => usesBareParams params ps && usesBareResult params ret
  | unit => true
  | never => true

def usesBareAll (params : List String) : List Expr → Bool
  | [] => true
  | e :: rest => e.usesBare params && usesBareAll params rest

def usesBareParams (params : List String) : List (Option String × Expr) → Bool
  | [] => true
  | (_, e) :: rest => e.usesBare params && usesBareParams params rest

def usesBareResult (params : List String) : Option Expr → Bool
  | none => true
  | some e => e.usesBare params
end

/-! ### What lowering sees too late -/

/-- What an expression is inside wrappers with the layout of their argument. -/
def core : Expr → Expr
  | path name [inner] => if isTransparentWrapper name then inner.core else path name [inner]
  | e => e

/-- The argument that an expression turns into, if it is a parameter. -/
def argument? (bound : List (String × Expr)) : Expr → Option Expr
  | path name [] => bound.lookup name
  | _ => none

/-- Is an expression a parameter that turns into a pointer or a function type? -/
def becomesPointer (bound : List (String × Expr)) (e : Expr) : Bool :=
  (argument? bound e.core).any fun a => (Ty.ofOption? (a.lower [])).isSome

/-- Is a result a parameter that turns into the never type? -/
def becomesNever (bound : List (String × Expr)) (ret : Option Expr) : Bool :=
  (ret.bind (argument? bound)).any isNever

mutual
/-- No `Option` stands around a parameter that turns into a pointer or a function type, and no function
type returns a parameter that turns into the never type. -/
def isSettled (bound : List (String × Expr)) : Expr → Bool
  | path name args =>
    !(name == "Option" && args.length == 1 && args.any (becomesPointer bound)) && isSettledAll bound args
  | pointer target _ _ => target.isSettled bound
  | array element _ => element.isSettled bound
  | function params ret =>
    isSettledParams bound params && isSettledResult bound ret && !becomesNever bound ret
  | unit => true
  | never => true

def isSettledAll (bound : List (String × Expr)) : List Expr → Bool
  | [] => true
  | e :: rest => e.isSettled bound && isSettledAll bound rest

def isSettledParams (bound : List (String × Expr)) : List (Option String × Expr) → Bool
  | [] => true
  | (_, e) :: rest => e.isSettled bound && isSettledParams bound rest

def isSettledResult (bound : List (String × Expr)) : Option Expr → Bool
  | none => true
  | some e => e.isSettled bound
end

end Expr

namespace Ty

variable {bindings : List (String × Ty)} {name : String} {inner inner' : Ty}

theorem ne_option_of_isPointerWrapper (h : isPointerWrapper name = true) : name ≠ "Option" := by
  rintro rfl
  revert h
  decide

theorem ne_option_of_isTransparentWrapper (h : isTransparentWrapper name = true) : name ≠ "Option" := by
  rintro rfl
  revert h
  decide

theorem isPointerWrapper_of_isTransparentWrapper (h : isTransparentWrapper name = true) :
    isPointerWrapper name = false := by
  simp only [isTransparentWrapper, Bool.or_eq_true, beq_iff_eq] at h
  rcases h with ((rfl | rfl) | rfl) | rfl <;> decide

/-- An `Option` that stays is one around neither a pointer nor a function type. -/
theorem option_eq_iff {ty ty' : Ty} :
    path "Option" [ty] = (ofOption? ty').getD (path "Option" [ty']) ↔ ty = ty' ∧ ofOption? ty = none := by
  cases ty' with
  | pointer target isMut nullable =>
    simp only [ofOption?, Option.getD_some, reduceCtorEq, false_iff, not_and]
    rintro rfl
    simp
  | function params ret never =>
    simp only [ofOption?, Option.getD_some, reduceCtorEq, false_iff, not_and]
    rintro rfl
    simp
  | primitive k =>
    simp only [ofOption?, Option.getD_none, path.injEq, List.cons.injEq, and_true, true_and, iff_self_and]
    rintro rfl
    rfl
  | array element length =>
    simp only [ofOption?, Option.getD_none, path.injEq, List.cons.injEq, and_true, true_and, iff_self_and]
    rintro rfl
    rfl
  | path p args =>
    simp only [ofOption?, Option.getD_none, path.injEq, List.cons.injEq, and_true, true_and, iff_self_and]
    rintro rfl
    rfl

/-- Replacing parameters under a wrapper: the wrapper must simplify before as it does afterwards. -/
theorem substitute_wrap_singleton
    (hpointer : ∀ target isMut nullable, inner = pointer target isMut nullable →
      ∃ target', inner' = pointer target' isMut nullable) :
    (wrap name [inner]).substitute bindings = wrap name [inner'] ↔
      inner.substitute bindings = inner' ∧
        (name = "Option" → ofOption? inner = none → ofOption? (inner.substitute bindings) = none) := by
  unfold wrap
  by_cases hbox : isPointerWrapper name = true
  · simp [hbox, substitute, ne_option_of_isPointerWrapper hbox]
  by_cases hcell : isTransparentWrapper name = true
  · simp [hbox, hcell, ne_option_of_isTransparentWrapper hcell]
  by_cases hoption : name = "Option"
  · subst hoption
    simp only [hbox, hcell, if_true, if_false, Bool.false_eq_true, true_implies]
    cases hnone : ofOption? inner with
    | none =>
      simp only [Option.getD_none, substitute, substituteAll, true_implies]
      exact option_eq_iff
    | some simplified =>
      cases inner with
      | pointer target isMut nullable =>
        obtain ⟨target', rfl⟩ := hpointer target isMut nullable rfl
        cases hnone
        simp [ofOption?, substitute]
      | function params ret never =>
        cases hnone
        cases inner' <;> simp [ofOption?, substitute]
      | _ => cases hnone
  · simp [hbox, hcell, hoption, substitute, substituteAll]

end Ty

namespace Expr

variable {params : List String} {bound : List (String × Expr)}

/-- What the parameters are bound to, lowered. -/
def lowered (bound : List (String × Expr)) : List (String × Ty) := bound.map fun p => (p.1, p.2.lower [])

theorem lookup_lowered (bound : List (String × Expr)) (name : String) :
    (lowered bound).lookup name = (bound.lookup name).map (lower []) := Ty.lookup_mapped (lower []) bound name

theorem lower_path {name : String} (args : List Expr) (h : params.contains name = false) :
    (path name args).lower params = Ty.wrap name (lowerAll params args) := by
  rw [lower, h]
  rfl

/-- A name without arguments lowers to itself, or to the primitive it names if it is no parameter. -/
theorem lower_nil (params : List String) (name : String) :
    (path name []).lower params = .path name [] ∨
      ∃ _ : params.contains name = false, ∃ k, (path name []).lower params = .primitive k := by
  by_cases hname : params.contains name = true
  · exact Or.inl (by rw [lower, if_pos hname])
  · have hname : params.contains name = false := by simpa using hname
    rw [lower_path [] hname, lowerAll, Ty.wrap]
    cases Primitive.ofName? name with
    | some k => exact Or.inr ⟨hname, k, rfl⟩
    | none => exact Or.inl rfl

theorem usesBare_path {name : String} {first : Expr} {rest : List Expr} :
    (path name (first :: rest)).usesBare params = true ↔
      params.contains name = false ∧ usesBareAll params (first :: rest) = true := by
  rw [usesBare, List.isEmpty_cons, Bool.false_or, Bool.and_eq_true, Bool.not_eq_true']

theorem usesBareAll_singleton {e : Expr} : usesBareAll params [e] = e.usesBare params := by
  simp [usesBareAll]

theorem lower_core : (e : Expr) → e.usesBare params = true → e.core.lower params = e.lower params
  | path name [inner], h => by
    obtain ⟨hname, hinner⟩ := usesBare_path.1 h
    rw [usesBareAll_singleton] at hinner
    unfold core
    split
    · next hcell =>
      have hbox := Ty.isPointerWrapper_of_isTransparentWrapper hcell
      rw [lower_core inner hinner, lower_path _ hname]
      simp [lowerAll, Ty.wrap, hbox, hcell]
    · rfl
  | path name [], _ => rfl
  | path name (_ :: _ :: _), _ => rfl
  | pointer _ _ _, _ => rfl
  | array _ _, _ => rfl
  | function _ _, _ => rfl
  | unit, _ => rfl
  | never, _ => rfl

/-- What lowers to a parameter is that parameter, inside wrappers that leave no trace. -/
theorem core_eq_of_lower_eq {p : String} (hp : params.contains p = true) :
    (e : Expr) → e.usesBare params = true → e.lower params = .path p [] → e.core = path p []
  | path name [], _, hlower => by
    rcases lower_nil params name with h | ⟨_, k, h⟩
    · rw [h] at hlower
      cases hlower
      rfl
    · rw [h] at hlower
      cases hlower
  | path name [inner], h, hlower => by
    obtain ⟨hname, hinner⟩ := usesBare_path.1 h
    rw [usesBareAll_singleton] at hinner
    rw [lower_path _ hname, lowerAll, lowerAll, Ty.wrap] at hlower
    split at hlower
    · cases hlower
    · split at hlower
      · next hcell =>
        rw [core, if_pos hcell]
        exact core_eq_of_lower_eq hp inner hinner hlower
      · split at hlower
        · cases hlowered : inner.lower params <;> rw [hlowered] at hlower <;> cases hlower
        · cases hlower
  | path name (a :: b :: rest), h, hlower => by
    rw [lower_path _ (usesBare_path.1 h).1] at hlower
    cases hlower
  | pointer _ _ _, _, hlower => by cases hlower
  | array _ _, _, hlower => by cases hlower
  | function _ _, _, hlower => by cases hlower
  | unit, _, hlower => by cases hlower
  | never, _, hlower => by cases hlower

/-- A parameter turns into a pointer or a function type just where replacing it makes an `Option` around it
simplify that did not before. -/
theorem becomesPointer_iff (hbound : ∀ name, params.contains name = (bound.lookup name).isSome) {e : Expr}
    (h : e.usesBare params = true) :
    becomesPointer bound e = true ↔ Ty.ofOption? (e.lower params) = none ∧
      Ty.ofOption? ((e.lower params).substitute (lowered bound)) ≠ none := by
  constructor
  · intro hbecomes
    rw [← lower_core e h]
    unfold becomesPointer at hbecomes
    cases hcore : e.core with
    | path p args =>
      cases args with
      | cons a rest => simp [hcore, argument?] at hbecomes
      | nil =>
        cases hlookup : bound.lookup p with
        | none => simp [hcore, argument?, hlookup] at hbecomes
        | some a =>
          have hp : params.contains p = true := by rw [hbound, hlookup]; rfl
          simp only [hcore, argument?, hlookup, Option.any_some] at hbecomes
          rw [lower, if_pos hp]
          simp only [Ty.substitute, lookup_lowered, hlookup, Option.map_some, Option.getD_some]
          exact ⟨rfl, Option.isSome_iff_ne_none.1 hbecomes⟩
    | _ => simp [hcore, argument?] at hbecomes
  · rintro ⟨hbefore, hafter⟩
    cases hlower : e.lower params with
    | path p args =>
      rw [hlower] at hafter
      cases args with
      | cons a rest => simp [Ty.substitute, Ty.ofOption?] at hafter
      | nil =>
        cases hlookup : bound.lookup p with
        | none => simp [Ty.substitute, lookup_lowered, hlookup, Ty.ofOption?] at hafter
        | some a =>
          have hp : params.contains p = true := by rw [hbound, hlookup]; rfl
          simp only [Ty.substitute, lookup_lowered, hlookup, Option.map_some, Option.getD_some] at hafter
          unfold becomesPointer
          rw [core_eq_of_lower_eq hp e h hlower, argument?, hlookup]
          exact Option.isSome_iff_ne_none.2 hafter
    | primitive k => simp [hlower, Ty.substitute, Ty.ofOption?] at hafter
    | array element length => simp [hlower, Ty.substitute, Ty.ofOption?] at hafter
    | pointer target isMut nullable => simp [hlower, Ty.ofOption?] at hbefore
    | function ps ret never => simp [hlower, Ty.ofOption?] at hbefore

/-- What lowers to a pointer still does when arguments are written in, with the same marks. -/
theorem lower_pointer {target : Ty} {isMut nullable : Bool} :
    (e : Expr) → e.usesBare params = true → e.lower params = .pointer target isMut nullable →
      ∃ target', (e.instantiate bound).lower [] = .pointer target' isMut nullable
  | path name [], _, hlower => by
    rcases lower_nil params name with h | ⟨_, k, h⟩ <;> rw [h] at hlower <;> cases hlower
  | path name [inner], h, hlower => by
    obtain ⟨hname, hinner⟩ := usesBare_path.1 h
    rw [usesBareAll_singleton] at hinner
    rw [lower_path _ hname, lowerAll, lowerAll, Ty.wrap] at hlower
    rw [instantiate, instantiateAll, lower_path _ rfl, lowerAll, lowerAll, Ty.wrap]
    split at hlower
    · next hbox =>
      cases hlower
      exact ⟨_, if_pos hbox⟩
    · next hbox =>
      rw [if_neg hbox]
      split at hlower
      · next hcell =>
        rw [if_pos hcell]
        exact lower_pointer inner hinner hlower
      · next hcell =>
        rw [if_neg hcell]
        split at hlower
        · next hoption =>
          rw [if_pos hoption]
          cases hlowered : inner.lower params with
          | pointer t m n =>
            rw [hlowered] at hlower
            cases hlower
            obtain ⟨t', ht'⟩ := lower_pointer inner hinner hlowered
            exact ⟨t', by rw [ht']; rfl⟩
          | _ => rw [hlowered] at hlower; cases hlower
        · cases hlower
  | path name (a :: b :: rest), h, hlower => by
    rw [lower_path _ (usesBare_path.1 h).1] at hlower
    cases hlower
  | pointer _ _ _, _, hlower => by
    cases hlower
    exact ⟨_, rfl⟩
  | array _ _, _, hlower => by cases hlower
  | function _ _, _, hlower => by cases hlower
  | unit, _, hlower => by cases hlower
  | never, _, hlower => by cases hlower

/-! ### The law -/

/-- An `Option` around an expression is settled when it simplifies before as it does afterwards. -/
theorem isSettled_option_iff (hbound : ∀ name, params.contains name = (bound.lookup name).isSome)
    {e : Expr} (h : e.usesBare params = true) {name : String} :
    (!(name == "Option" && [e].length == 1 && [e].any (becomesPointer bound))) = true ↔
      (name = "Option" → Ty.ofOption? (e.lower params) = none →
        Ty.ofOption? ((e.lower params).substitute (lowered bound)) = none) := by
  have hiff := becomesPointer_iff hbound h
  simp only [List.length_singleton, beq_self_eq_true, Bool.and_true, List.any_cons, List.any_nil,
    Bool.or_false, Bool.not_eq_true', ← Bool.not_eq_true, Bool.and_eq_true, beq_iff_eq, hiff, not_and,
    ne_eq, Decidable.not_not]

/-- A result that was not the never type is it afterwards just when it was a parameter that becomes it. -/
theorem isNever_instantiateResult (ret : Option Expr) :
    ((ret.map isNever).getD false = ((instantiateResult bound ret).map isNever).getD false) ↔
      becomesNever bound ret = false := by
  cases ret with
  | none => simp [instantiateResult, becomesNever]
  | some e =>
    cases e with
    | path name args =>
      cases args with
      | nil =>
        cases hlookup : bound.lookup name <;>
          simp [instantiateResult, becomesNever, instantiate, argument?, hlookup, isNever]
      | cons first rest => simp [instantiateResult, becomesNever, instantiate, argument?, isNever]
    | _ => simp [instantiateResult, becomesNever, instantiate, argument?, isNever]

mutual
-- The two sides can part only at a path with one argument, which may be a wrapper, and at a result. All other
-- cases hand the question on to their parts.
theorem lower_instantiate_eq_iff (hbound : ∀ name, params.contains name = (bound.lookup name).isSome) :
    (e : Expr) → e.usesBare params = true →
      ((e.lower params).substitute (lowered bound) = (e.instantiate bound).lower [] ↔
        e.isSettled bound = true)
  | path name [], _ => by
    have hsettled : (path name []).isSettled bound = true := by simp [isSettled, isSettledAll]
    refine iff_of_true ?_ hsettled
    cases hlookup : bound.lookup name with
    | some a =>
      rw [lower, if_pos (by rw [hbound, hlookup]; rfl)]
      simp [Ty.substitute, lookup_lowered, instantiate, hlookup]
    | none =>
      have hname : params.contains name = false := by rw [hbound, hlookup]; rfl
      have hlower : (path name []).lower params = (path name []).lower [] := by
        rw [lower_path [] hname, lower_path [] rfl]
        rfl
      simp only [instantiate, hlookup, Option.getD_none]
      rw [hlower]
      rcases lower_nil [] name with h | ⟨_, k, h⟩ <;> rw [h] <;>
        simp [Ty.substitute, lookup_lowered, hlookup]
  | path name [inner], h => by
    obtain ⟨hname, hinner⟩ := usesBare_path.1 h
    rw [usesBareAll_singleton] at hinner
    rw [lower_path _ hname, instantiate, lower_path _ rfl]
    simp only [lowerAll, instantiateAll]
    rw [Ty.substitute_wrap_singleton fun _ _ _ => lower_pointer inner hinner,
      lower_instantiate_eq_iff hbound inner hinner, isSettled, Bool.and_eq_true,
      isSettled_option_iff hbound hinner, isSettledAll, isSettledAll, Bool.and_true]
    exact and_comm
  | path name (a :: b :: rest), h => by
    obtain ⟨hname, hargs⟩ := usesBare_path.1 h
    have hall := lowerAll_instantiate_eq_iff hbound (a :: b :: rest) hargs
    rw [lower_path _ hname, instantiate, lower_path _ rfl]
    simp only [lowerAll, instantiateAll, Ty.wrap, Ty.substitute] at hall ⊢
    rw [Ty.path.injEq, hall]
    simp [isSettled]
  | pointer target isMut isReference, h => by
    rw [usesBare] at h
    simp [lower, Ty.substitute, instantiate, isSettled, lower_instantiate_eq_iff hbound target h]
  | array element length, h => by
    rw [usesBare] at h
    simp [lower, Ty.substitute, instantiate, isSettled, lower_instantiate_eq_iff hbound element h]
  | function ps ret, h => by
    rw [usesBare, Bool.and_eq_true] at h
    rw [lower, Ty.substitute, instantiate, lower, Ty.function.injEq,
      lowerParams_instantiate_eq_iff hbound ps h.1, lowerResult_instantiate_eq_iff hbound ret h.2,
      isNever_instantiateResult, isSettled]
    simp [and_assoc]
  | unit, _ => by simp [lower, instantiate, isSettled, Ty.substitute]
  | never, _ => by simp [lower, instantiate, isSettled, Ty.substitute]

theorem lowerAll_instantiate_eq_iff (hbound : ∀ name, params.contains name = (bound.lookup name).isSome) :
    (es : List Expr) → usesBareAll params es = true →
      (Ty.substituteAll (lowered bound) (lowerAll params es) = lowerAll [] (instantiateAll bound es) ↔
        isSettledAll bound es = true)
  | [], _ => by simp [lowerAll, instantiateAll, isSettledAll, Ty.substituteAll]
  | e :: rest, h => by
    rw [usesBareAll, Bool.and_eq_true] at h
    simp [lowerAll, instantiateAll, isSettledAll, Ty.substituteAll,
      lower_instantiate_eq_iff hbound e h.1, lowerAll_instantiate_eq_iff hbound rest h.2]

theorem lowerParams_instantiate_eq_iff
    (hbound : ∀ name, params.contains name = (bound.lookup name).isSome) :
    (ps : List (Option String × Expr)) → usesBareParams params ps = true →
      (Ty.substituteParams (lowered bound) (lowerParams params ps) =
          lowerParams [] (instantiateParams bound ps) ↔
        isSettledParams bound ps = true)
  | [], _ => by simp [lowerParams, instantiateParams, isSettledParams, Ty.substituteParams]
  | (n, e) :: rest, h => by
    rw [usesBareParams, Bool.and_eq_true] at h
    simp [lowerParams, instantiateParams, isSettledParams, Ty.substituteParams,
      lower_instantiate_eq_iff hbound e h.1, lowerParams_instantiate_eq_iff hbound rest h.2]

theorem lowerResult_instantiate_eq_iff
    (hbound : ∀ name, params.contains name = (bound.lookup name).isSome) :
    (ret : Option Expr) → usesBareResult params ret = true →
      ((lowerResult params ret).substitute (lowered bound) =
          lowerResult [] (instantiateResult bound ret) ↔
        isSettledResult bound ret = true)
  | none, _ => by simp [lowerResult, instantiateResult, isSettledResult, Ty.substitute]
  | some e, h => by
    rw [usesBareResult] at h
    simp [lowerResult, instantiateResult, isSettledResult, lower_instantiate_eq_iff hbound e h]
end

theorem lookup_bindings {args : List Expr} (hlength : params.length = args.length) (name : String) :
    params.contains name = ((bindings params args).lookup name).isSome := by
  have hkeys : (params.zip args).map Prod.fst = params := List.map_fst_zip (Nat.le_of_eq hlength)
  rw [Bool.eq_iff_iff, List.contains_iff_mem, Option.isSome_iff_ne_none, ne_eq,
    List.lookup_eq_none_iff]
  constructor
  · intro hname hnone
    rw [← hkeys] at hname
    obtain ⟨p, hp, rfl⟩ := List.mem_map.1 hname
    simpa using hnone p (List.mem_reverse.2 hp)
  · intro hsome
    refine Decidable.byContradiction fun hname => hsome fun p hp => ?_
    rw [bne_iff_ne]
    rintro rfl
    exact hname (hkeys ▸ List.mem_map_of_mem (List.mem_reverse.1 hp))

theorem lowerAll_eq_map (generics : List String) (es : List Expr) :
    lowerAll generics es = es.map (lower generics) := by
  induction es with
  | nil => rfl
  | cons e rest ih => rw [lowerAll, ih, List.map_cons]

theorem bindings_lowerAll (params : List String) (args : List Expr) :
    Ty.bindings params (lowerAll [] args) = lowered (bindings params args) := by
  rw [Ty.bindings, lowered, bindings, lowerAll_eq_map, List.zip_map_right, List.map_reverse]
  rfl

/-- Lowering commutes with instantiation just where nothing is left for lowering to simplify once the
arguments are known. -/
theorem lower_instantiate_iff {params : List String} {args : List Expr} {e : Expr}
    (hlength : params.length = args.length) (hbare : e.usesBare params = true) :
    (e.lower params).substitute (Ty.bindings params (lowerAll [] args)) =
        (e.instantiate (bindings params args)).lower [] ↔
      e.isSettled (bindings params args) = true := by
  rw [bindings_lowerAll]
  exact lower_instantiate_eq_iff (lookup_bindings hlength) e hbare

/-- A callback with wrappers around parameters, none of which an argument makes simplify further. -/
theorem lower_instantiate_iff_callback :
    let params := ["T", "U"]
    let args := [path "Box" [path "Foo" []], path "i32" []]
    let e := function [(some "at", path "Option" [pointer (path "Cell" [path "T" []]) true false]),
      (none, path "Pair" [array (path "T" []) "4", path "U" []])] (some (path "Option" [path "U" []]))
    params.length = args.length ∧ e.usesBare params = true ∧
      (e.lower params).substitute (Ty.bindings params (lowerAll [] args)) =
        (e.instantiate (bindings params args)).lower [] :=
  ⟨rfl, by decide, (lower_instantiate_iff rfl (by decide)).2 (by decide)⟩

/-- An `Option` around a parameter stays when the parameter becomes a reference, though an `Option` around
the reference is a pointer that may be null. -/
theorem lower_instantiate_option :
    let params := ["T"]
    let args := [pointer (path "Foo" []) false true]
    let e := path "Option" [path "T" []]
    params.length = args.length ∧ e.usesBare params = true ∧
      (e.lower params).substitute (Ty.bindings params (lowerAll [] args)) =
        .path "Option" [.pointer (.path "Foo" []) false false] ∧
      (e.instantiate (bindings params args)).lower [] = .pointer (.path "Foo" []) false true ∧
      (e.lower params).substitute (Ty.bindings params (lowerAll [] args)) ≠
        (e.instantiate (bindings params args)).lower [] := by
  decide

end Expr

end CrateHeader
