import CrateHeader.Proofs.Lowering
import CrateHeader.Proofs.TypePieces

/-!
# Types written out and read again

The text of a type is read as an expression of the same form, and what lowering gives is lowered to itself: the
wrappers that it takes away are gone, and none that it leaves can be taken away later. So a type expression that was
read, lowered and written out is read and lowered to the same type, but for what a text does not show.
`read_text_lower` is this round trip.
-/

namespace CrateHeader

namespace Expr

mutual
/-- The names of all paths in an expression. -/
def names : Expr → List String
  | path name args => name :: namesAll args
  | pointer target _ _ => target.names
  | array element _ => element.names
  | function params ret => namesParams params ++ namesResult ret
  | unit => []
  | never => []

def namesAll : List Expr → List String
  | [] => []
  | e :: rest => e.names ++ namesAll rest

def namesParams : List (Option String × Expr) → List String
  | [] => []
  | (_, e) :: rest => e.names ++ namesParams rest

def namesResult : Option Expr → List String
  | none => []
  | some e => e.names
end

end Expr

namespace Ty

variable {generics : List String} {name length : String}

/-! ### What a text shows of a type -/

mutual
/-- A type as its text shows it: pointers may be null, parameters have no names and functions return. -/
def plain : Ty → Ty
  | primitive k => primitive k
  | path name args => path name (plainAll args)
  | pointer target isMut _ => pointer target.plain isMut true
  | array element length => array element.plain length
  | function params ret _ => function (plainParams params) ret.plain false

def plainAll : List Ty → List Ty
  | [] => []
  | t :: rest => t.plain :: plainAll rest

def plainParams : List (Option String × Ty) → List (Option String × Ty)
  | [] => []
  | (_, t) :: rest => (none, t.plain) :: plainParams rest
end

mutual
/-- The expression that the text of a type writes. -/
def expr : Ty → Expr
  | primitive k => .path k.spelling []
  | path name args => .path name (exprAll args)
  | pointer target isMut _ => .pointer target.expr isMut false
  | array element length => .array element.expr length
  | function params ret _ => .function (exprParams params) (some ret.expr)

def exprAll : List Ty → List Expr
  | [] => []
  | t :: rest => t.expr :: exprAll rest

def exprParams : List (Option String × Ty) → List (Option String × Expr)
  | [] => []
  | (_, t) :: rest => (none, t.expr) :: exprParams rest
end

theorem exprAll_eq_map (ts : List Ty) : exprAll ts = ts.map expr := by
  induction ts with
  | nil => rfl
  | cons t rest ih => simp [exprAll, ih]

theorem exprParams_eq_map (ps : List (Option String × Ty)) :
    exprParams ps = (ps.map (·.2)).map fun t => (none, t.expr) := by
  induction ps with
  | nil => rfl
  | cons p rest ih => simp [exprParams, ih]

mutual
/-- Types that differ in nothing that a text shows have the same text. -/
theorem text_plain : (t : Ty) → t.plain.text = t.text
  | primitive _ => rfl
  | path _ [] => rfl
  | path _ (t :: rest) => by
    have hall := textAll_plain (t :: rest)
    rw [plainAll] at hall
    simp only [plain, plainAll, text, hall]
  | pointer target _ _ => by simp only [plain, text, text_plain target]
  | array element _ => by simp only [plain, text, text_plain element]
  | function params ret _ => by simp only [plain, text, textParams_plain params, text_plain ret]

theorem textAll_plain : (ts : List Ty) → textAll (plainAll ts) = textAll ts
  | [] => rfl
  | t :: rest => by simp only [plainAll, textAll, text_plain t, textAll_plain rest]

theorem textParams_plain : (ps : List (Option String × Ty)) → textParams (plainParams ps) = textParams ps
  | [] => rfl
  | (_, t) :: rest => by simp only [plainParams, textParams, text_plain t, textParams_plain rest]
end

/-! ### Lowering what was lowered -/

mutual
/-- A type that lowering leaves as it is: generic parameters have no arguments, and no wrapper can be taken away. -/
def IsNormal (generics : List String) : Ty → Prop
  | primitive _ => True
  | path name args =>
    if generics.contains name then args = [] else wrap name args = path name args ∧ AreNormal generics args
  | pointer target _ _ => target.IsNormal generics
  | array element _ => element.IsNormal generics
  | function params ret _ => ParamsAreNormal generics params ∧ ret.IsNormal generics

def AreNormal (generics : List String) : List Ty → Prop
  | [] => True
  | t :: rest => t.IsNormal generics ∧ AreNormal generics rest

def ParamsAreNormal (generics : List String) : List (Option String × Ty) → Prop
  | [] => True
  | (_, t) :: rest => t.IsNormal generics ∧ ParamsAreNormal generics rest
end

theorem ne_path_self (t : Ty) : t ≠ path name [t] := by
  intro h
  have hsize := congrArg sizeOf h
  simp at hsize
  omega

theorem ofOption?_isNormal {t simplified : Ty} (h : t.IsNormal generics) (hsome : ofOption? t = some simplified) :
    simplified.IsNormal generics := by
  cases t with
  | pointer target isMut nullable => cases hsome; exact h
  | function params ret never => cases hsome; exact h
  | _ => cases hsome

theorem wrap_singleton (name : String) (inner : Ty) : wrap name [inner] =
    if isPointerWrapper name then pointer inner true false
    else if isTransparentWrapper name then inner
    else if name = "Option" then (ofOption? inner).getD (path name [inner])
    else path name [inner] := rfl

theorem wrap_singleton_cases (name : String) (inner : Ty) : wrap name [inner] = path name [inner] ∨
    wrap name [inner] = pointer inner true false ∨ wrap name [inner] = inner ∨
    ofOption? inner = some (wrap name [inner]) := by
  rw [wrap_singleton]
  split
  · exact .inr (.inl rfl)
  split
  · exact .inr (.inr (.inl rfl))
  split
  · cases hnone : ofOption? inner with
    | none => exact .inl rfl
    | some simplified => exact .inr (.inr (.inr rfl))
  · exact .inl rfl

theorem wrap_singleton_iff {inner : Ty} : wrap name [inner] = path name [inner] ↔
    isPointerWrapper name = false ∧ isTransparentWrapper name = false ∧
      (name = "Option" → ofOption? inner = none) := by
  rw [wrap_singleton]
  by_cases hbox : isPointerWrapper name = true
  · simp [hbox]
  by_cases hcell : isTransparentWrapper name = true
  · simp [hbox, hcell, ne_path_self]
  by_cases hoption : name = "Option"
  · cases hnone : ofOption? inner with
    | none => simp [hbox, hcell]
    | some simplified =>
      have hne : simplified ≠ path name [inner] := by
        cases inner <;> cases hnone <;> exact Ty.noConfusion
      rw [if_neg hbox, if_neg hcell, if_pos hoption]
      exact iff_of_false hne fun h => absurd (h.2.2 hoption) (Option.some_ne_none _)
  · simp [hbox, hcell, hoption]

theorem wrap_isNormal {args : List Ty} (hname : generics.contains name = false) (h : AreNormal generics args) :
    (wrap name args).IsNormal generics := by
  have hpath : wrap name args = path name args → (wrap name args).IsNormal generics := by
    intro heq
    rw [heq, IsNormal, hname]
    exact ⟨heq, h⟩
  match args, h, hpath with
  | [], _, hpath =>
    cases hprimitive : Primitive.ofName? name with
    | some k => simp [wrap, hprimitive, IsNormal]
    | none => exact hpath (by simp [wrap, hprimitive])
  | [inner], ⟨hinner, hrest⟩, hpath =>
    rcases wrap_singleton_cases name inner with heq | heq | heq | hsome
    · exact hpath heq
    · rw [heq]
      exact hinner
    · rw [heq]
      exact hinner
    · exact ofOption?_isNormal hinner hsome
  | first :: second :: rest, _, hpath => exact hpath rfl

theorem ofOption?_plain {t : Ty} : ofOption? t.plain = none ↔ ofOption? t = none := by
  cases t <;> simp [plain, ofOption?]

theorem wrap_plain {args : List Ty} (h : wrap name args = path name args) :
    wrap name (plainAll args) = path name (plainAll args) := by
  match args, h with
  | [], h => exact h
  | [inner], h =>
    obtain ⟨hbox, hcell, hoption⟩ := wrap_singleton_iff.1 h
    exact wrap_singleton_iff.2 ⟨hbox, hcell, fun hname => ofOption?_plain.2 (hoption hname)⟩
  | first :: second :: rest, _ => rfl

mutual
/-- A type that lowering leaves as it is comes back from the expression that its text writes. -/
theorem lower_expr (hprimitives : ∀ k : Primitive, k.spelling ∉ generics) : (t : Ty) → t.IsNormal generics →
    t.expr.lower generics = t.plain
  | primitive k, _ => by
    have hname : generics.contains k.spelling = false := by simpa using hprimitives k
    rw [expr, Expr.lower, hname]
    simp [Expr.lowerAll, wrap, Primitive.ofName?_spelling, plain]
  | path name args, h => by
    rw [expr, Expr.lower, plain]
    rw [IsNormal] at h
    split
    · next hname =>
      rw [if_pos hname] at h
      rw [h]
      rfl
    · next hname =>
      rw [if_neg hname] at h
      rw [lowerAll_exprAll hprimitives args h.2]
      exact wrap_plain h.1
  | pointer target isMut nullable, h => by
    simp only [expr, Expr.lower, plain, lower_expr hprimitives target h, Bool.not_false]
  | array element length, h => by
    simp only [expr, Expr.lower, plain, lower_expr hprimitives element h]
  | function params ret never, h => by
    have hnever : ret.expr.isNever = false := by cases ret <;> rfl
    simp only [expr, Expr.lower, Expr.lowerResult, plain, lowerParams_exprParams hprimitives params h.1,
      lower_expr hprimitives ret h.2, Option.map_some, Option.getD_some, hnever]

theorem lowerAll_exprAll (hprimitives : ∀ k : Primitive, k.spelling ∉ generics) : (ts : List Ty) →
    AreNormal generics ts → Expr.lowerAll generics (exprAll ts) = plainAll ts
  | [], _ => rfl
  | t :: rest, h => by
    simp only [exprAll, Expr.lowerAll, plainAll, lower_expr hprimitives t h.1, lowerAll_exprAll hprimitives rest h.2]

theorem lowerParams_exprParams (hprimitives : ∀ k : Primitive, k.spelling ∉ generics) :
    (ps : List (Option String × Ty)) → ParamsAreNormal generics ps →
    Expr.lowerParams generics (exprParams ps) = plainParams ps
  | [], _ => rfl
  | (_, t) :: rest, h => by
    simp only [exprParams, Expr.lowerParams, plainParams, lower_expr hprimitives t h.1,
      lowerParams_exprParams hprimitives rest h.2]
end

/-! ### Types that can be written out -/

mutual
/-- All names in a type are names that a path may have, and all lengths are put together from tokens. -/
def IsSpelled : Ty → Prop
  | primitive _ => True
  | path name args => Expr.isTypeName name = true ∧ AreSpelled args
  | pointer target _ _ => target.IsSpelled
  | array element length => element.IsSpelled ∧ TyToken.IsLength length
  | function params ret _ => ParamsAreSpelled params ∧ ret.IsSpelled

def AreSpelled : List Ty → Prop
  | [] => True
  | t :: rest => t.IsSpelled ∧ AreSpelled rest

def ParamsAreSpelled : List (Option String × Ty) → Prop
  | [] => True
  | (_, t) :: rest => t.IsSpelled ∧ ParamsAreSpelled rest
end

theorem wrap_isSpelled {args : List Ty} (hname : Expr.isTypeName name = true) (h : AreSpelled args) :
    (wrap name args).IsSpelled := by
  match args, h with
  | [], _ =>
    cases hprimitive : Primitive.ofName? name with
    | some k => simp [wrap, hprimitive, IsSpelled]
    | none => simp [wrap, hprimitive, IsSpelled, AreSpelled, hname]
  | [inner], h =>
    rcases wrap_singleton_cases name inner with heq | heq | heq | hsome
    · rw [heq]
      exact ⟨hname, h⟩
    · rw [heq]
      exact h.1
    · rw [heq]
      exact h.1
    · cases inner with
      | pointer target isMut nullable =>
        rw [← Option.some.inj hsome]
        exact h.1
      | function params ret never =>
        rw [← Option.some.inj hsome]
        exact h.1
      | _ => cases hsome
  | first :: second :: rest, h => exact ⟨hname, h⟩

end Ty

namespace Expr

mutual
theorem lower_isNormal (generics : List String) : (e : Expr) → (e.lower generics).IsNormal generics
  | path name args => by
    rw [lower]
    split
    · next hname =>
      rw [Ty.IsNormal, if_pos hname]
    · next hname => exact Ty.wrap_isNormal (by simpa using hname) (lowerAll_areNormal generics args)
  | pointer target _ _ => lower_isNormal generics target
  | array element _ => lower_isNormal generics element
  | function params ret => ⟨lowerParams_areNormal generics params, lowerResult_isNormal generics ret⟩
  | unit => trivial
  | never => trivial

theorem lowerAll_areNormal (generics : List String) : (es : List Expr) →
    Ty.AreNormal generics (lowerAll generics es)
  | [] => trivial
  | e :: rest => ⟨lower_isNormal generics e, lowerAll_areNormal generics rest⟩

theorem lowerParams_areNormal (generics : List String) : (ps : List (Option String × Expr)) →
    Ty.ParamsAreNormal generics (lowerParams generics ps)
  | [] => trivial
  | (_, e) :: rest => ⟨lower_isNormal generics e, lowerParams_areNormal generics rest⟩

theorem lowerResult_isNormal (generics : List String) : (ret : Option Expr) →
    (lowerResult generics ret).IsNormal generics
  | none => trivial
  | some e => lower_isNormal generics e
end

/-- All names and lengths in an expression, or in several, are as a text spells them. -/
def AllSpelled (names lengths : List String) : Prop :=
  (∀ n ∈ names, isTypeName n = true) ∧ ∀ l ∈ lengths, TyToken.IsLength l

theorem AllSpelled.append {names names' lengths lengths' : List String}
    (h : AllSpelled (names ++ names') (lengths ++ lengths')) : AllSpelled names lengths ∧ AllSpelled names' lengths' := by
  obtain ⟨hnames, hlengths⟩ := h
  rw [List.forall_mem_append] at hnames hlengths
  exact ⟨⟨hnames.1, hlengths.1⟩, hnames.2, hlengths.2⟩

mutual
theorem lower_isSpelled (generics : List String) : (e : Expr) → AllSpelled e.names e.lengths →
    (e.lower generics).IsSpelled
  | path name args, h => by
    obtain ⟨hname, hargs⟩ := List.forall_mem_cons.1 h.1
    rw [lower]
    split
    · exact ⟨hname, trivial⟩
    · exact Ty.wrap_isSpelled hname (lowerAll_areSpelled generics args ⟨hargs, h.2⟩)
  | pointer target _ _, h => lower_isSpelled generics target h
  | array element _, h => by
    obtain ⟨hlength, hlengths⟩ := List.forall_mem_cons.1 h.2
    exact ⟨lower_isSpelled generics element ⟨h.1, hlengths⟩, hlength⟩
  | function params ret, h => by
    obtain ⟨hparams, hret⟩ := AllSpelled.append h
    exact ⟨lowerParams_areSpelled generics params hparams, lowerResult_isSpelled generics ret hret⟩
  | unit, _ => trivial
  | never, _ => trivial

theorem lowerAll_areSpelled (generics : List String) : (es : List Expr) → AllSpelled (namesAll es) (lengthsAll es) →
    Ty.AreSpelled (lowerAll generics es)
  | [], _ => trivial
  | e :: rest, h => by
    obtain ⟨he, hrest⟩ := AllSpelled.append h
    exact ⟨lower_isSpelled generics e he, lowerAll_areSpelled generics rest hrest⟩

theorem lowerParams_areSpelled (generics : List String) : (ps : List (Option String × Expr)) →
    AllSpelled (namesParams ps) (lengthsParams ps) → Ty.ParamsAreSpelled (lowerParams generics ps)
  | [], _ => trivial
  | (_, e) :: rest, h => by
    obtain ⟨he, hrest⟩ := AllSpelled.append h
    exact ⟨lower_isSpelled generics e he, lowerParams_areSpelled generics rest hrest⟩

theorem lowerResult_isSpelled (generics : List String) : (ret : Option Expr) →
    AllSpelled (namesResult ret) (lengthsResult ret) → (lowerResult generics ret).IsSpelled
  | none, _ => trivial
  | some e, h => lower_isSpelled generics e h
end

end Expr

namespace Expr

open TyToken (Marks Spells StartsApart marks_mark spells_word startsApart_cons)

variable {s : String} {ts us rest : List TyToken} {e target element ret : Expr} {name length : String}

/-! ### What a text writes -/

/-- A text whose tokens are read as an expression wherever a type may stand. -/
structure Writes (s : String) (ts : List TyToken) (e : Expr) : Prop where
  spells : Spells s ts
  trimmed : Text.stripRight s = s
  yields : Yields .type ts e 0

theorem Writes.ne_nil (h : Writes s ts e) : ts ≠ [] := by
  rintro rfl
  obtain ⟨hlt, -⟩ := h.yields.all.gives rfl
  cases hlt

theorem Writes.ne_empty (h : Writes s ts e) : s ≠ "" := h.spells.ne_empty h.ne_nil

theorem Writes.blank (h : Writes s ts e) : Spells (" " ++ s) ts := h.spells.blank h.ne_nil

theorem trimmed_append {a b : String} (hb : Text.stripRight b = b) (hne : b ≠ "") :
    Text.stripRight (a ++ b) = a ++ b := by
  rw [CToken.stripRight_append, hb, if_neg hne]

theorem startsApart_append {a : String} (h : ∀ rest, StartsApart (a.toList ++ rest)) (b : String)
    (rest : List Char) : StartsApart ((a ++ b).toList ++ rest) := by
  rw [String.toList_append, List.append_assoc]
  exact h _

theorem startsApart_blank (rest : List Char) : StartsApart (" ".toList ++ rest) := startsApart_cons rfl (by decide)

theorem writes_name (hname : isTypeName name = true) : Writes name [.word name] (.path name []) where
  spells := spells_word (Bool.and_eq_true_iff.1 hname).1
  trimmed := CToken.stripRight_of_isWord (Bool.and_eq_true_iff.1 hname).1
  yields := .path (startsPath_of_isTypeName hname) []

theorem writes_pointer (isMut : Bool) (h : Writes s ts target) :
    Writes ((if isMut then "*mut " else "*const ") ++ s)
      (.mark .star :: .word (if isMut then "mut" else "const") :: ts) (.pointer target isMut false) where
  spells := by
    have hstar : Marks "*" [.mark .star] := marks_mark (m := .star) (by decide)
    have hword : isWord (if isMut then "mut" else "const") = true := by cases isMut <;> decide
    have htext : (if isMut then "*mut " else "*const ") ++ s =
        "*" ++ ((if isMut then "mut" else "const") ++ (" " ++ s)) := by
      cases isMut <;> simp only [← String.append_assoc] <;> rfl
    rw [htext]
    exact hstar.append_spells ((spells_word hword).append h.blank (startsApart_append startsApart_blank s))
  trimmed := trimmed_append h.trimmed h.ne_empty
  yields := by
    have hqualifier : (if isMut then "mut" else "const") = "const" ∨ (if isMut then "mut" else "const") = "mut" := by
      cases isMut <;> simp
    cases isMut <;> simpa using h.yields.pointer hqualifier

theorem writes_array (h : Writes s ts element) (hlength : TyToken.IsLength length) :
    ∃ us, Writes ("[" ++ s ++ "; " ++ length ++ "]") us (.array element length) := by
  obtain ⟨ls, hspells, hne, hbracket, hjoin⟩ := hlength.exists_spells
  have hopen : Marks "[" [.mark .openBracket] := marks_mark (m := .openBracket) (by decide)
  have hsemicolon : Marks ";" [.mark .semicolon] := marks_mark (m := .semicolon) (by decide)
  have hclose : Marks "]" [.mark .closeBracket] := marks_mark (m := .closeBracket) (by decide)
  have htext : "[" ++ s ++ "; " ++ length ++ "]" = "[" ++ (s ++ (";" ++ (" " ++ (length ++ "]")))) := by
    have hblank : "; " = ";" ++ " " := rfl
    simp only [hblank, String.append_assoc]
  refine ⟨.mark .openBracket :: (ts ++ .mark .semicolon :: (ls ++ [.mark .closeBracket])), ?_, ?_, ?_⟩
  · rw [htext]
    have hlength := hspells.append_marks hclose fun _ => startsApart_cons rfl (by decide)
    have hend := hsemicolon.append_spells (hlength.spells.blank (by simp))
    have hapart := startsApart_append (a := ";") (fun _ => startsApart_cons rfl (by decide)) (" " ++ (length ++ "]"))
    exact hopen.append_spells (h.spells.append hend hapart)
  · exact trimmed_append rfl (by decide)
  · rw [← hjoin]
    exact h.yields.array hne hbracket

/-- Types with commas between them, as generic arguments and as parameters. -/
theorem exists_separated : (tys : List Ty) → tys ≠ [] → (∀ t ∈ tys, ∃ ts, Writes t.text ts t.expr) →
    ∃ ts, ts ≠ [] ∧ Spells (", ".intercalate (tys.map Ty.text)) ts ∧
      Yields .arguments (ts ++ [.mark .greater]) (tys.map Ty.expr) 0 ∧
      Yields .parameters (ts ++ [.mark .closeParen]) (tys.map fun t => (none, t.expr)) 0
  | [t], _, h => by
    obtain ⟨ts, ht⟩ := h t (by simp)
    refine ⟨ts, ht.ne_nil, ?_, ht.yields.lastArgument, ht.yields.lastParameter isLabel_none⟩
    rw [List.map_singleton, String.intercalate_singleton]
    exact ht.spells
  | t :: u :: tys, _, h => by
    obtain ⟨ts, ht⟩ := h t (by simp)
    obtain ⟨us, hne, hspells, hargs, hparams⟩ :=
      exists_separated (u :: tys) (by simp) fun v hv => h v (List.mem_cons_of_mem t hv)
    have hcomma : Marks "," [.mark .comma] := marks_mark (m := .comma) (by decide)
    refine ⟨ts ++ .mark .comma :: us, by simp, ?_, ?_, ?_⟩
    · have hrest := hcomma.append_spells (hspells.blank hne)
      have hapart := startsApart_append (a := ",") (fun _ => startsApart_cons rfl (by decide))
        (" " ++ ", ".intercalate ((u :: tys).map Ty.text))
      have htext : ", ".intercalate ((t :: u :: tys).map Ty.text) =
          t.text ++ ("," ++ (" " ++ ", ".intercalate ((u :: tys).map Ty.text))) := by
        have hblank : ", " = "," ++ " " := rfl
        simp only [List.map_cons, String.intercalate_cons_cons, String.append_assoc]
        simp only [hblank, String.append_assoc]
      rw [htext]
      exact ht.spells.append hrest hapart
    · rw [List.append_assoc, List.cons_append]
      exact ht.yields.nextArgument hargs
    · rw [List.append_assoc, List.cons_append]
      exact ht.yields.nextParameter isLabel_none hparams

theorem writes_path {args : List Ty} (hname : isTypeName name = true) (hne : args ≠ [])
    (h : ∀ t ∈ args, ∃ ts, Writes t.text ts t.expr) :
    ∃ us, Writes (name ++ "<" ++ ", ".intercalate (args.map Ty.text) ++ ">") us (.path name (args.map Ty.expr)) := by
  obtain ⟨ts, hts, hspells, hargs, -⟩ := exists_separated args hne h
  have hless : Marks "<" [.mark .less] := marks_mark (m := .less) (by decide)
  have hgreater : Marks ">" [.mark .greater] := marks_mark (m := .greater) (by decide)
  refine ⟨.word name :: .mark .less :: (ts ++ [.mark .greater]), ?_, ?_, ?_⟩
  · have hend := hspells.append_marks hgreater fun _ => startsApart_cons rfl (by decide)
    have hapart := startsApart_append (a := "<") (fun _ => startsApart_cons rfl (by decide))
      (", ".intercalate (args.map Ty.text) ++ ">")
    have hword := (spells_word (Bool.and_eq_true_iff.1 hname).1).append_marks (hless.append hend) hapart
    simp only [String.append_assoc]
    exact hword.spells
  · exact trimmed_append rfl (by decide)
  · exact .generic (startsPath_of_isTypeName hname) [] hargs

theorem exists_parameters {tys : List Ty} (h : ∀ t ∈ tys, ∃ ts, Writes t.text ts t.expr) :
    ∃ ts, Marks (", ".intercalate (tys.map Ty.text) ++ ")") (ts ++ [.mark .closeParen]) ∧
      Yields .parameters (ts ++ [.mark .closeParen]) (tys.map fun t => (none, t.expr)) 0 := by
  have hclose : Marks ")" [.mark .closeParen] := marks_mark (m := .closeParen) (by decide)
  by_cases hne : tys = []
  · subst hne
    exact ⟨[], hclose, .noParameters⟩
  · obtain ⟨ts, -, hspells, -, hparams⟩ := exists_separated tys hne h
    exact ⟨ts, hspells.append_marks hclose fun _ => startsApart_cons rfl (by decide), hparams⟩

theorem writes_function {tys : List Ty} (h : ∀ t ∈ tys, ∃ ts, Writes t.text ts t.expr) (hret : Writes s us ret) :
    ∃ vs, Writes ("fn(" ++ ", ".intercalate (tys.map Ty.text) ++ ") -> " ++ s) vs
      (.function (tys.map fun t => (none, t.expr)) (some ret)) := by
  obtain ⟨ts, hmarks, hparams⟩ := exists_parameters h
  have hopen : Marks "(" [.mark .openParen] := marks_mark (m := .openParen) (by decide)
  have harrow : Marks "->" [.mark .arrow] := marks_mark (m := .arrow) (by decide)
  refine ⟨.word "fn" :: .mark .openParen :: (ts ++ .mark .closeParen :: .mark .arrow :: us), ?_, ?_, ?_⟩
  · have htext : "fn(" ++ ", ".intercalate (tys.map Ty.text) ++ ") -> " ++ s =
        "fn" ++ ("(" ++ ((", ".intercalate (tys.map Ty.text) ++ ")") ++ (" " ++ ("->" ++ (" " ++ s))))) := by
      have hfront : "fn(" = "fn" ++ "(" := rfl
      have hback : ") -> " = ")" ++ (" " ++ ("->" ++ " ")) := rfl
      simp only [hfront, hback, String.append_assoc]
    have hresult := (harrow.append_spells hret.blank).blank (List.cons_ne_nil _ _)
    have hcall := hopen.append_spells (hmarks.append_spells hresult)
    have hapart := startsApart_append (a := "(") (fun _ => startsApart_cons rfl (by decide))
      ((", ".intercalate (tys.map Ty.text) ++ ")") ++ (" " ++ ("->" ++ (" " ++ s))))
    have hspells := (spells_word (s := "fn") (by decide)).append hcall hapart
    rw [htext]
    simpa using hspells
  · exact trimmed_append hret.trimmed hret.ne_empty
  · have hfunction := hparams.functionTo false none hret.yields
    rwa [List.append_assoc, List.cons_append, List.nil_append] at hfunction

theorem Writes.read (h : Writes s ts e) : Expr.read s = .ok e := by
  have htrim : Text.trimRight s.toList = s.toList := by
    have hstrip := congrArg String.toList h.trimmed
    rwa [Text.stripRight, String.toList_ofList] at hstrip
  refine read_of_gives ?_ (h.yields.all.gives rfl)
  rw [htrim]
  exact h.spells.readAll

end Expr

namespace Ty

theorem isTypeName_spelling (k : Primitive) : Expr.isTypeName k.spelling = true := by cases k <;> decide

mutual
/-- The text of a type writes the expression of the same form. -/
theorem writes_text : (t : Ty) → t.IsSpelled → ∃ ts, Expr.Writes t.text ts t.expr
  | primitive k, _ => ⟨_, Expr.writes_name (isTypeName_spelling k)⟩
  | path name [], h => ⟨_, Expr.writes_name h.1⟩
  | path name (t :: rest), h => by
    rw [text, expr, textAll_eq_map, exprAll_eq_map]
    · exact Expr.writes_path h.1 (by simp) (writes_textAll (t :: rest) h.2)
    · simp
  | pointer target isMut _, h => by
    obtain ⟨ts, htarget⟩ := writes_text target h
    exact ⟨_, Expr.writes_pointer isMut htarget⟩
  | array element length, h => by
    obtain ⟨ts, helement⟩ := writes_text element h.1
    exact Expr.writes_array helement h.2
  | function params ret _, h => by
    obtain ⟨us, hret⟩ := writes_text ret h.2
    rw [text, expr, textParams_eq_map, exprParams_eq_map]
    have hall := Expr.writes_function (writes_textParams params h.1) hret
    rwa [List.map_map] at hall

theorem writes_textAll : (ts : List Ty) → AreSpelled ts → ∀ t ∈ ts, ∃ us, Expr.Writes t.text us t.expr
  | [], _ => fun _ ht => absurd ht List.not_mem_nil
  | t :: rest, h => List.forall_mem_cons.2 ⟨writes_text t h.1, writes_textAll rest h.2⟩

theorem writes_textParams : (ps : List (Option String × Ty)) → ParamsAreSpelled ps →
    ∀ t ∈ ps.map (·.2), ∃ us, Expr.Writes t.text us t.expr
  | [], _ => fun _ ht => absurd ht List.not_mem_nil
  | (_, t) :: rest, h => List.forall_mem_cons.2 ⟨writes_text t h.1, writes_textParams rest h.2⟩
end

/-- What was read, lowered and written out is read and lowered to the same type, but for what a text does not
show. The names of paths must be words other than those that a function type starts with, and no primitive may
be spelled like a generic parameter. -/
theorem read_text_lower {text : String} {e : Expr} (hread : Expr.read text = .ok e)
    (hnames : ∀ n ∈ e.names, Expr.isTypeName n = true) (hprimitives : ∀ k : Primitive, k.spelling ∉ generics) :
    Ty.read generics (e.lower generics).text = .ok (e.lower generics).plain := by
  have hspelled := Expr.lower_isSpelled generics e ⟨hnames, Expr.isLength_of_read hread⟩
  obtain ⟨ts, hwrites⟩ := writes_text (e.lower generics) hspelled
  rw [Ty.read, hwrites.read]
  exact congrArg Except.ok (lower_expr hprimitives _ (Expr.lower_isNormal generics e))

/-- A callback that takes a named slice and does not return, beside a wrapper that stays. -/
def callbackTable : Expr :=
  .path "Table" [.path "T" [], .pointer (.function [(some "row",
    .pointer (.array (.path "uint8_t" []) "2::N") false true)] (some .never)) false true,
    .path "Option" [.path "Cell" []]]

theorem read_text_lower_callbacks :
    Expr.read "Table<T, &fn(row: &[uint8_t; 2 : : N]) -> !, Option<Cell>>" = .ok callbackTable ∧
      (callbackTable.lower ["T"]).text = "Table<T, *const fn(*const [u8; 2::N]) -> c_void, Option<Cell>>" ∧
      Ty.read ["T"] (callbackTable.lower ["T"]).text = .ok (.path "Table" [.path "T" [],
        .pointer (.function [(none, .pointer (.array (.primitive .u8) "2::N") false true)] .void false) false true,
        .path "Option" [.path "Cell" []]]) := by
  have hread : Expr.read "Table<T, &fn(row: &[uint8_t; 2 : : N]) -> !, Option<Cell>>" = .ok callbackTable := by cbv
  have hprimitives : ∀ k : Primitive, k.spelling ∉ ["T"] := by
    intro k
    cases k <;> decide
  exact ⟨hread, by cbv, read_text_lower hread (by decide) hprimitives⟩

end Ty

end CrateHeader
