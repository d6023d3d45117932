import CrateHeader.Proofs.PathNames
import Mathlib.Data.List.Forall2

/-!
# Substitution

All names are replaced at once, and what is put in for one is not looked at again. `Ty.Instantiates` says what
becomes of a type, without saying how; `instantiates_iff` is that a substitution does this and nothing else. A
substitution after another is a single one, which binds a name of the first to what the second makes of its type.
What becomes of a type depends on its own names alone; therefore it does not matter how the parameters of a template
are called, and an argument may mention names that they have.
-/

namespace CrateHeader

namespace Ty

variable {bound bound' first second : List (String × Ty)} {params fresh : List String} {args : List Ty}

/-! ### What becomes of a type -/

/-- The second type is the first with every parameter replaced by its argument, all at once. A parameter is a path
without arguments, and one that repeats takes its last argument. A path with arguments keeps its name, even that of a
parameter. -/
inductive Instantiates (params : List String) (args : List Ty) : Ty → Ty → Prop where
  | primitive (kind : Primitive) : Instantiates params args (.primitive kind) (.primitive kind)
  | parameter {name : String} {arg : Ty} {front back : List (String × Ty)}
      (hgiven : params.zip args = front ++ (name, arg) :: back) (hlast : ∀ p ∈ back, name ≠ p.1) :
      Instantiates params args (.path name []) arg
  | other {name : String} (hother : ∀ p ∈ params.zip args, name ≠ p.1) :
      Instantiates params args (.path name []) (.path name [])
  | path {name : String} {first first' : Ty} {rest rest' : List Ty}
      (hargs : List.Forall₂ (Instantiates params args) (first :: rest) (first' :: rest')) :
      Instantiates params args (.path name (first :: rest)) (.path name (first' :: rest'))
  | pointer {target target' : Ty} {isMut nullable : Bool} (htarget : Instantiates params args target target') :
      Instantiates params args (.pointer target isMut nullable) (.pointer target' isMut nullable)
  | array {element element' : Ty} {length : String} (helement : Instantiates params args element element') :
      Instantiates params args (.array element length) (.array element' length)
  | function {inputs inputs' : List (Option String × Ty)} {ret ret' : Ty} {never : Bool}
      (hnames : inputs.map Prod.fst = inputs'.map Prod.fst)
      (hinputs : List.Forall₂ (Instantiates params args) (inputs.map Prod.snd) (inputs'.map Prod.snd))
      (hret : Instantiates params args ret ret') :
      Instantiates params args (.function inputs ret never) (.function inputs' ret' never)

/-- A name finds the last argument that it is given. -/
theorem lookup_bindings_eq_some {name : String} {arg : Ty} : (bindings params args).lookup name = some arg ↔
    ∃ front back, params.zip args = front ++ (name, arg) :: back ∧ ∀ p ∈ back, name ≠ p.1 := by
  rw [bindings, List.lookup_eq_some_iff]
  constructor
  · rintro ⟨back, front, hzip, hlast⟩
    refine ⟨front.reverse, back.reverse, ?_, fun p hp => bne_iff_ne.1 (hlast p (List.mem_reverse.1 hp))⟩
    rw [← List.reverse_reverse (params.zip args), hzip]
    simp
  · rintro ⟨front, back, hzip, hlast⟩
    exact ⟨back.reverse, front.reverse, by simp [hzip], fun p hp => bne_iff_ne.2 (hlast p (List.mem_reverse.1 hp))⟩

theorem lookup_bindings_eq_none {name : String} :
    (bindings params args).lookup name = none ↔ ∀ p ∈ params.zip args, name ≠ p.1 := by
  simp only [bindings, List.lookup_eq_none_iff, List.mem_reverse, bne_iff_ne]

theorem map_fst_substituteParams (bound : List (String × Ty)) (inputs : List (Option String × Ty)) :
    inputs.map Prod.fst = (substituteParams bound inputs).map Prod.fst := by
  rw [substituteParams_eq_map, List.map_map]
  rfl

mutual
theorem instantiates_substitute (params : List String) (args : List Ty) : (ty : Ty) →
    Instantiates params args ty (ty.substitute (bindings params args))
  | primitive kind => .primitive kind
  | path name [] => by
    rw [substitute]
    cases h : (bindings params args).lookup name with
    | none => exact .other (lookup_bindings_eq_none.1 h)
    | some arg =>
      obtain ⟨front, back, hgiven, hlast⟩ := lookup_bindings_eq_some.1 h
      exact .parameter hgiven hlast
  | path name (t :: rest) => .path (instantiates_substituteAll params args (t :: rest))
  | pointer target _ _ => .pointer (instantiates_substitute params args target)
  | array element _ => .array (instantiates_substitute params args element)
  | function inputs ret _ =>
    .function (map_fst_substituteParams _ inputs) (instantiates_substituteParams params args inputs)
      (instantiates_substitute params args ret)

theorem instantiates_substituteAll (params : List String) (args : List Ty) : (tys : List Ty) →
    List.Forall₂ (Instantiates params args) tys (substituteAll (bindings params args) tys)
  | [] => .nil
  | ty :: rest => .cons (instantiates_substitute params args ty) (instantiates_substituteAll params args rest)

theorem instantiates_substituteParams (params : List String) (args : List Ty) :
    (inputs : List (Option String × Ty)) → List.Forall₂ (Instantiates params args) (inputs.map Prod.snd)
      ((substituteParams (bindings params args) inputs).map Prod.snd)
  | [] => .nil
  | (_, ty) :: rest =>
    .cons (instantiates_substitute params args ty) (instantiates_substituteParams params args rest)
end

mutual
theorem eq_substitute : (ty : Ty) → {ty' : Ty} → Instantiates params args ty ty' →
    ty' = ty.substitute (bindings params args)
  | primitive _, _, .primitive _ => rfl
  | path name [], _, h => by
    cases h with
    | parameter hgiven hlast =>
      rw [substitute, lookup_bindings_eq_some.2 ⟨_, _, hgiven, hlast⟩]
      rfl
    | other hother =>
      rw [substitute, lookup_bindings_eq_none.2 hother]
      rfl
  | path _ (t :: rest), _, .path hargs => by simp only [substitute, eq_substituteAll (t :: rest) hargs]
  | pointer target _ _, _, .pointer htarget => by rw [eq_substitute target htarget, substitute]
  | array element _, _, .array helement => by rw [eq_substitute element helement, substitute]
  | function inputs ret _, _, .function hnames hinputs hret => by
    rw [eq_substituteParams inputs hnames hinputs, eq_substitute ret hret, substitute]

theorem eq_substituteAll : (tys : List Ty) → {tys' : List Ty} → List.Forall₂ (Instantiates params args) tys tys' →
    tys' = substituteAll (bindings params args) tys
  | [], _, .nil => rfl
  | ty :: rest, _, .cons hty hrest => by rw [eq_substitute ty hty, eq_substituteAll rest hrest, substituteAll]

theorem eq_substituteParams : (inputs : List (Option String × Ty)) → {inputs' : List (Option String × Ty)} →
    inputs.map Prod.fst = inputs'.map Prod.fst →
    List.Forall₂ (Instantiates params args) (inputs.map Prod.snd) (inputs'.map Prod.snd) →
      inputs' = substituteParams (bindings params args) inputs
  | [], [], _, _ => rfl
  | (_, ty) :: rest, (_, _) :: _, hnames, .cons hty hrest => by
    obtain ⟨hname, hothers⟩ := List.cons_eq_cons.1 hnames
    rw [substituteParams, ← eq_substitute ty hty, ← eq_substituteParams rest hothers hrest]
    exact congrArg (fun n => (n, _) :: _) hname.symm
end

/-- Replacing all parameters at once is what a substitution does. -/
theorem instantiates_iff {ty ty' : Ty} :
    Instantiates params args ty ty' ↔ ty' = ty.substitute (bindings params args) := by
  refine ⟨eq_substitute ty, ?_⟩
  rintro rfl
  exact instantiates_substitute params args ty

/-! ### One substitution after another -/

/-- The bindings of a substitution that is followed by another. -/
def andThen (first second : List (String × Ty)) : List (String × Ty) :=
  first.map (fun b => (b.1, b.2.substitute second)) ++ second

theorem lookup_andThen (first second : List (String × Ty)) (name : String) : (andThen first second).lookup name =
    ((first.lookup name).map (substitute second)).or (second.lookup name) := by
  rw [andThen, List.lookup_append, lookup_mapped]

mutual
theorem substitute_substitute (first second : List (String × Ty)) : (ty : Ty) →
    (ty.substitute first).substitute second = ty.substitute (andThen first second)
  | primitive _ => rfl
  | path name [] => by
    rw [substitute, substitute, lookup_andThen]
    cases first.lookup name with
    | none => rw [Option.getD_none, substitute, Option.map_none, Option.none_or]
    | some t => rfl
  | path name (t :: rest) => by
    simp only [substitute, substituteAll, substitute_substitute first second t,
      substituteAll_substituteAll first second rest]
  | pointer target _ _ => by simp only [substitute, substitute_substitute first second target]
  | array element _ => by simp only [substitute, substitute_substitute first second element]
  | function params ret _ => by
    simp only [substitute, substituteParams_substituteParams first second params,
      substitute_substitute first second ret]

theorem substituteAll_substituteAll (first second : List (String × Ty)) : (tys : List Ty) →
    substituteAll second (substituteAll first tys) = substituteAll (andThen first second) tys
  | [] => rfl
  | ty :: rest => by
    simp only [substituteAll, substitute_substitute first second ty, substituteAll_substituteAll first second rest]

theorem substituteParams_substituteParams (first second : List (String × Ty)) :
    (params : List (Option String × Ty)) →
      substituteParams second (substituteParams first params) = substituteParams (andThen first second) params
  | [] => rfl
  | (_, ty) :: rest => by
    simp only [substituteParams, substitute_substitute first second ty,
      substituteParams_substituteParams first second rest]
end

/-! ### The names that count -/

mutual
/-- Bindings that agree on the names of a type make the same of it. -/
theorem substitute_congr : (ty : Ty) → (∀ n ∈ ty.pathNames, bound.lookup n = bound'.lookup n) →
    ty.substitute bound = ty.substitute bound'
  | primitive _, _ => rfl
  | path name [], h => by rw [substitute, substitute, h name List.mem_cons_self]
  | path name (t :: rest), h => by
    have hargs : ∀ n ∈ pathNamesAll (t :: rest), bound.lookup n = bound'.lookup n :=
      fun n hn => h n (List.mem_cons_of_mem _ hn)
    have ht := substitute_congr t fun n hn => hargs n (List.mem_append_left _ hn)
    have hrest := substituteAll_congr rest fun n hn => hargs n (List.mem_append_right _ hn)
    simp only [substitute, substituteAll, ht, hrest]
  | pointer target _ _, h => by simp only [substitute, substitute_congr target h]
  | array element _, h => by simp only [substitute, substitute_congr element h]
  | function params ret _, h => by
    have hparams := substituteParams_congr params fun n hn => h n (List.mem_append_left _ hn)
    have hret := substitute_congr ret fun n hn => h n (List.mem_append_right _ hn)
    simp only [substitute, hparams, hret]

theorem substituteAll_congr : (tys : List Ty) → (∀ n ∈ pathNamesAll tys, bound.lookup n = bound'.lookup n) →
    substituteAll bound tys = substituteAll bound' tys
  | [], _ => rfl
  | ty :: rest, h => by
    have hty := substitute_congr ty fun n hn => h n (List.mem_append_left _ hn)
    have hrest := substituteAll_congr rest fun n hn => h n (List.mem_append_right _ hn)
    simp only [substituteAll, hty, hrest]

theorem substituteParams_congr : (params : List (Option String × Ty)) →
    (∀ n ∈ pathNamesParams params, bound.lookup n = bound'.lookup n) →
      substituteParams bound params = substituteParams bound' params
  | [], _ => rfl
  | (_, ty) :: rest, h => by
    have hty := substitute_congr ty fun n hn => h n (List.mem_append_left _ hn)
    have hrest := substituteParams_congr rest fun n hn => h n (List.mem_append_right _ hn)
    simp only [substituteParams, hty, hrest]
end

/-! ### The names of parameters -/

theorem bindings_cons (param : String) (params : List String) (arg : Ty) (args : List Ty) :
    bindings (param :: params) (arg :: args) = bindings params args ++ [(param, arg)] := List.reverse_cons ..

theorem map_bindings (f : Ty → Ty) (params : List String) (args : List Ty) :
    (bindings params args).map (fun b => (b.1, f b.2)) = bindings params (args.map f) := by
  rw [bindings, bindings, List.map_reverse, List.zip_map_right]
  rfl

theorem lookup_bindings_of_not_mem {name : String} (h : name ∉ params) :
    (bindings params args).lookup name = none := by
  refine List.lookup_eq_none_iff.2 fun p hp => ?_
  rw [bne_iff_ne]
  rintro rfl
  exact h (List.of_mem_zip (List.mem_reverse.1 hp)).1

/-- Parameters that differ are replaced by their arguments, each by its own. -/
theorem map_substitute_bindings (hfresh : fresh.Nodup) (hlength : fresh.length = args.length) :
    fresh.map (fun q => (path q []).substitute (bindings fresh args)) = args := by
  induction fresh generalizing args with
  | nil => exact (List.length_eq_zero_iff.1 hlength.symm).symm
  | cons q rest ih =>
    obtain _ | ⟨a, as⟩ := args
    · cases hlength
    · obtain ⟨hq, hrest⟩ := List.nodup_cons.1 hfresh
      have hhead : (path q []).substitute (bindings (q :: rest) (a :: as)) = a := by
        rw [substitute, bindings_cons, List.lookup_append, lookup_bindings_of_not_mem hq, List.lookup_cons_self]
        rfl
      have htail : ∀ n ∈ rest, (path n []).substitute (bindings (q :: rest) (a :: as)) =
          (path n []).substitute (bindings rest as) := by
        intro n hn
        have hlast : [(q, a)].lookup n = none := by
          have hne : (n == q) = false := beq_eq_false_iff_ne.2 fun h => hq (h ▸ hn)
          rw [List.lookup_cons, hne, List.lookup_nil]
        rw [substitute, substitute, bindings_cons, List.lookup_append, hlast, Option.or_none]
      rw [List.map_cons, hhead, List.map_congr_left htail, ih hrest (Nat.succ.inj hlength)]

/-- The parameters may have other names, as long as the type has none of them. -/
theorem substitute_fresh (hfresh : fresh.Nodup) (hlength : fresh.length = args.length) {ty : Ty}
    (hnames : ∀ n ∈ ty.pathNames, n ∉ fresh) :
    (ty.substitute (bindings params (fresh.map (path · [])))).substitute (bindings fresh args) =
      ty.substitute (bindings params args) := by
  have hbound : (bindings params (fresh.map (path · []))).map (fun b => (b.1, b.2.substitute (bindings fresh args))) =
      bindings params args := by
    rw [map_bindings, List.map_map]
    exact congrArg (bindings params) (map_substitute_bindings hfresh hlength)
  rw [substitute_substitute]
  refine substitute_congr ty fun n hn => ?_
  rw [andThen, hbound, List.lookup_append, lookup_bindings_of_not_mem (hnames n hn), Option.or_none]

/-- Two substitutions are one, whose bindings are those of the first, with the second one carried out in them, and
the other ones of the second. It does not matter how parameters are called, whatever names the arguments have. -/
theorem substitute_composes {whole : List (String × Ty)} (hwhole : ∀ name, whole.lookup name =
      ((first.lookup name).map (substitute second)).or (second.lookup name)) (ty : Ty) :
    (ty.substitute first).substitute second = ty.substitute whole ∧
    ∀ params fresh args, fresh.Nodup → fresh.length = args.length → (∀ n ∈ ty.pathNames, n ∉ fresh) →
      (ty.substitute (bindings params (fresh.map (path · [])))).substitute (bindings fresh args) =
        ty.substitute (bindings params args) := by
  refine ⟨?_, fun params fresh args hfresh hlength hnames => substitute_fresh hfresh hlength hnames⟩
  rw [substitute_substitute]
  exact substitute_congr ty fun n _ => (lookup_andThen first second n).trans (hwhole n).symm

/-! ### Parameters that change places -/

/-- A function that is given an `A` and a pair with an `A` of its own, for four of `B`. -/
def exchange : Ty := .function
  [(some "a", .path "A" []), (none, .pointer (.path "Pair" [.path "B" [], .path "A" [.path "A" []]]) true false)]
  (.array (.path "B" []) "4") false

def swap : List (String × Ty) := [("A", .path "B" []), ("B", .path "A" [])]

/-- Exchanged twice, the parameters are back in their places; an argument that mentions one is put in as it is. -/
theorem substitute_composes_exchange :
    (∀ name, ([("A", path "A" []), ("B", path "B" [])] : List (String × Ty)).lookup name =
      ((swap.lookup name).map (substitute swap)).or (swap.lookup name)) ∧
    (exchange.substitute swap).substitute swap = exchange ∧
    (∀ n ∈ exchange.pathNames, n ∉ ["X", "Y"]) ∧
    (exchange.substitute (bindings ["A", "B"] [.path "X" [], .path "Y" []])).substitute
        (bindings ["X", "Y"] [.path "B" [], .path "Slot" [.path "A" []]]) =
      .function
        [(some "a", .path "B" []),
          (none, .pointer (.path "Pair" [.path "Slot" [.path "A" []], .path "A" [.path "B" []]]) true false)]
        (.array (.path "Slot" [.path "A" []]) "4") false := by
  have hwhole : ∀ name, ([("A", path "A" []), ("B", path "B" [])] : List (String × Ty)).lookup name =
      ((swap.lookup name).map (substitute swap)).or (swap.lookup name) := by
    intro name
    by_cases ha : name = "A"
    · subst ha
      rfl
    · by_cases hb : name = "B"
      · subst hb
        rfl
      · simp [swap, List.lookup_cons, beq_eq_false_iff_ne.2 ha, beq_eq_false_iff_ne.2 hb]
  have hnames : ∀ n ∈ exchange.pathNames, n ∉ ["X", "Y"] := by decide
  obtain ⟨htwice, hfresh⟩ := substitute_composes hwhole exchange
  exact ⟨hwhole, htwice, hnames, hfresh ["A", "B"] ["X", "Y"] [.path "B" [], .path "Slot" [.path "A" []]]
    (by decide) rfl hnames⟩

end Ty

/-- The types in a body change one by one. -/
theorem Body.instantiates_types (params : List String) (args : List Ty) (b : Body) :
    List.Forall₂ (Ty.Instantiates params args) b.types
      (b.mapTypes (Ty.substitute (Ty.bindings params args))).types := by
  rw [types_mapTypes, List.forall₂_map_right_iff]
  exact List.forall₂_same.2 fun ty _ => Ty.instantiates_iff.2 rfl

end CrateHeader
