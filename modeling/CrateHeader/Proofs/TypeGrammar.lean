import CrateHeader.Ty.Reader
import Mathlib.Data.List.TakeWhile
import Mathlib.Tactic.Common

/-!
# The grammar of type texts

Every way in which the reader of type texts succeeds, as a relation between the tokens it is given, what it makes
of them and the tokens it leaves. `reads_of_gives` opens the reader once; what is true of everything that was read
is proved by induction on the relation.
-/

namespace CrateHeader

namespace Expr

variable {ts us rest : List TyToken} {e : Expr} {first : String} {t : TyToken} {label : Option TyToken}

/-- What a reader makes of the tokens in front of the rest. -/
def Gives {α : Type} {tokens : List TyToken} (r : Reading α tokens) (a : α) (rest : List TyToken) : Prop :=
  ∃ h, r = .ok (a, ⟨rest, h⟩)

theorem bind_eq {ε α β : Type} {x : Except ε α} {a : α} (h : x = .ok a) (f : α → Except ε β) : (x >>= f) = f a := by
  rw [h]
  rfl

theorem bind_ok {ε α β : Type} {x : Except ε α} {f : α → Except ε β} {b : β} (h : (x >>= f) = .ok b) :
    ∃ a, x = .ok a ∧ f a = .ok b := by
  cases x with
  | error e => cases h
  | ok a => exact ⟨a, rfl, h⟩

theorem expect_self (token : TyToken) : expect token (token :: rest) = .ok ((), ⟨rest, Nat.lt_succ_self _⟩) := if_pos rfl

theorem expect_ok {token : TyToken} {r : Unit × { rest : List TyToken // rest.length < ts.length }}
    (h : expect token ts = .ok r) : ts = token :: r.2.1 := by
  cases ts with
  | nil => cases h
  | cons t ts =>
    simp only [expect] at h
    split at h
    · next ht =>
      cases h
      rw [ht]
    · cases h

theorem readTypeName_ok {r : String × { rest : List TyToken // rest.length < ts.length }}
    (h : readTypeName ts = .ok r) :
    ts = .word r.1 :: r.2.1 ∧ (r.1.toList.head?.map Text.isNameStart).getD false = true := by
  unfold readTypeName at h
  split at h
  · cases h
  · split at h
    · next hstart =>
      cases h
      exact ⟨rfl, hstart⟩
    · cases h
  · cases h

/-! ### Paths, labels and the words in front of a function type -/

/-- May a path start with this word? -/
def startsPath (first : String) : Bool :=
  (first.toList.head?.map Text.isNameStart).getD false && !(["fn", "extern", "unsafe"].contains first)

/-- Neither a path nor a list of arguments goes on here. -/
def endsPath : List TyToken → Bool
  | .mark .scope :: _ | .mark .less :: _ => false
  | _ => true

/-- Further segments of a path, each behind a double colon. -/
def segmentTokens : List TyToken → List TyToken
  | [] => []
  | t :: names => .mark .scope :: t :: segmentTokens names

/-- What a path is called by its segments. -/
def lastName (first : String) : List TyToken → String
  | [] => first
  | t :: names => lastName t.text names

theorem readSegments_segmentTokens (first : String) (names : List TyToken) (hrest : ∀ us, rest ≠ .mark .scope :: us) :
    ∃ h, readSegments first (segmentTokens names ++ rest) = .ok (lastName first names, ⟨rest, h⟩) := by
  induction names generalizing first with
  | nil =>
    refine ⟨Nat.le_refl _, ?_⟩
    simp only [segmentTokens, List.nil_append]
    unfold readSegments
    split
    · exact absurd rfl (hrest _)
    · exact absurd rfl (hrest _)
    · rfl
  | cons t names ih =>
    obtain ⟨hle, heq⟩ := ih t.text
    exact ⟨by simp [segmentTokens] at hle ⊢; omega, bind_eq heq _⟩

theorem exists_segmentTokens {r : String × { rest : List TyToken // rest.length ≤ ts.length }}
    (h : readSegments first ts = .ok r) :
    ∃ names, ts = segmentTokens names ++ r.2.1 ∧ r.1 = lastName first names ∧ ∀ us, r.2.1 ≠ .mark .scope :: us := by
  fun_induction readSegments first ts with
  | case1 first next ts ih =>
    obtain ⟨left, hleft, h⟩ := bind_ok h
    cases h
    obtain ⟨names, hts, hname, hend⟩ := ih hleft
    exact ⟨next :: names, by rw [segmentTokens, List.cons_append, List.cons_append, ← hts], hname, hend⟩
  | case2 => cases h
  | case3 first ts hmore hone =>
    cases h
    refine ⟨[], rfl, rfl, fun us hus => ?_⟩
    cases us with
    | nil => exact hone hus
    | cons t us => exact hmore t us hus

/-- May a type start here, without a parameter name in front of it? -/
def startsType : List TyToken → Bool
  | .mark .closeParen :: _ | .mark .greater :: _ | .mark .colon :: _ => false
  | _ :: .mark .colon :: _ => false
  | _ => true

theorem readParameterName_of_startsType (h : startsType ts = true) :
    readParameterName ts = (none, ⟨ts, Nat.le_refl _⟩) := by
  unfold readParameterName
  split
  · unfold startsType at h
    split at h <;> simp_all
  · rfl

/-- The tokens that name a parameter. -/
def labelTokens : Option TyToken → List TyToken
  | none => []
  | some t => [t, .mark .colon]

def labelName : Option TyToken → Option String
  | none => none
  | some t => if t = .word "_" then none else some t.text

/-- May these tokens name a parameter, if there are any? -/
def isLabel : Option TyToken → Bool
  | none => true
  | some t => isParameterName t && t != .mark .closeParen

theorem isLabel_none : isLabel none = true := rfl

theorem readParameterName_label (hlabel : isLabel label = true) (hstart : label = none → startsType ts = true) :
    ∃ h, readParameterName (labelTokens label ++ ts) = (labelName label, ⟨ts, h⟩) := by
  cases label with
  | none => exact ⟨_, readParameterName_of_startsType (hstart rfl)⟩
  | some t =>
    obtain ⟨hname, -⟩ := Bool.and_eq_true_iff.1 hlabel
    refine ⟨by simp [labelTokens]; omega, ?_⟩
    simp only [labelTokens, List.cons_append, List.nil_append, readParameterName, if_pos hname]
    rfl

theorem exists_label (hmore : ∀ us, ts ≠ .mark .closeParen :: us) : ∃ label, isLabel label = true ∧
    ts = labelTokens label ++ (readParameterName ts).2.1 ∧ (readParameterName ts).1 = labelName label := by
  unfold readParameterName
  split
  · next token us =>
    split
    · next hname =>
      have hclose : token ≠ .mark .closeParen := by
        rintro rfl
        exact hmore _ rfl
      exact ⟨some token, by simp [isLabel, hname, hclose], rfl, rfl⟩
    · exact ⟨none, rfl, rfl, rfl⟩
  · exact ⟨none, rfl, rfl, rfl⟩

/-- The words in front of a function type's parameters, with a calling convention that may be left open. -/
def functionWords (isUnsafe : Bool) (convention : Option (Option String)) : List TyToken :=
  (if isUnsafe then [.word "unsafe"] else []) ++
    match convention with
    | none => [.word "fn"]
    | some none => [.word "extern", .word "fn"]
    | some (some s) => [.word "extern", .quoted s, .word "fn"]

theorem skipQualifiers_functionWords (isUnsafe : Bool) (convention : Option (Option String)) (ts : List TyToken) :
    skipQualifiers (functionWords isUnsafe convention ++ ts) = .word "fn" :: ts := by
  rcases isUnsafe with - | - <;> rcases convention with - | - | s <;> rfl

theorem exists_convention (h : skipConvention ts = .word "fn" :: us) :
    ∃ convention, ts = functionWords false convention ++ us := by
  unfold skipConvention at h
  split at h
  · next s rest =>
    subst h
    exact ⟨some (some s), rfl⟩
  · subst h
    exact ⟨some none, rfl⟩
  · subst h
    exact ⟨none, rfl⟩

theorem exists_functionWords (h : skipQualifiers ts = .word "fn" :: us) :
    ∃ isUnsafe convention, ts = functionWords isUnsafe convention ++ us := by
  unfold skipQualifiers at h
  split at h
  · obtain ⟨convention, rfl⟩ := exists_convention h
    exact ⟨true, convention, rfl⟩
  · obtain ⟨convention, rfl⟩ := exists_convention h
    exact ⟨false, convention, rfl⟩

/-! ### The grammar -/

/-- What is read: a type, or parameters or generic arguments up to and with the mark that closes them. -/
inductive Form where
  | type
  | parameters
  | arguments

abbrev Form.Value : Form → Type
  | type => Expr
  | parameters => List (Option String × Expr)
  | arguments => List Expr

def Form.read : (f : Form) → (tokens : List TyToken) → Reading f.Value tokens
  | type => readType
  | parameters => readParameters
  | arguments => readArguments

/-- The tokens in front of the last ones write a value. -/
inductive Reads : (f : Form) → List TyToken → f.Value → List TyToken → Prop
  | pointer {ts rest : List TyToken} {target : Expr} {qualifier : String}
      (hqualifier : qualifier = "const" ∨ qualifier = "mut") (h : Reads .type ts target rest) :
      Reads .type (.mark .star :: .word qualifier :: ts) (.pointer target (qualifier = "mut") false) rest
  | exclusive {ts rest : List TyToken} {target : Expr} (h : Reads .type ts target rest) :
      Reads .type (.mark .amp :: .word "mut" :: ts) (.pointer target true true) rest
  | shared {ts rest : List TyToken} {target : Expr} (hmut : ∀ us, ts ≠ .word "mut" :: us)
      (h : Reads .type ts target rest) : Reads .type (.mark .amp :: ts) (.pointer target false true) rest
  | array {ts us rest : List TyToken} {element : Expr} (h : Reads .type ts element (.mark .semicolon :: (us ++
      .mark .closeBracket :: rest))) (hne : us ≠ []) (hbracket : .mark .closeBracket ∉ us) :
      Reads .type (.mark .openBracket :: ts) (.array element (String.join (us.map TyToken.text))) rest
  | unit {rest : List TyToken} : Reads .type (.mark .openParen :: .mark .closeParen :: rest) .unit rest
  | parens {ts rest : List TyToken} {e : Expr} (h : Reads .type ts e (.mark .closeParen :: rest)) :
      Reads .type (.mark .openParen :: ts) e rest
  | never {rest : List TyToken} : Reads .type (.mark .bang :: rest) .never rest
  | function {ts rest : List TyToken} {params : List (Option String × Expr)} (isUnsafe : Bool)
      (convention : Option (Option String)) (h : Reads .parameters ts params rest)
      (hend : ∀ us, rest ≠ .mark .arrow :: us) :
      Reads .type (functionWords isUnsafe convention ++ .mark .openParen :: ts) (.function params none) rest
  | functionTo {ts us rest : List TyToken} {params : List (Option String × Expr)} {ret : Expr} (isUnsafe : Bool)
      (convention : Option (Option String)) (h : Reads .parameters ts params (.mark .arrow :: us))
      (hret : Reads .type us ret rest) :
      Reads .type (functionWords isUnsafe convention ++ .mark .openParen :: ts) (.function params (some ret)) rest
  | path {rest : List TyToken} {first : String} (hfirst : startsPath first = true) (names : List TyToken)
      (hend : endsPath rest = true) :
      Reads .type (.word first :: (segmentTokens names ++ rest)) (.path (lastName first names) []) rest
  | generic {ts rest : List TyToken} {first : String} {args : List Expr} (hfirst : startsPath first = true)
      (names : List TyToken) (h : Reads .arguments ts args rest) :
      Reads .type (.word first :: (segmentTokens names ++ .mark .less :: ts)) (.path (lastName first names) args) rest
  | noParameters {rest : List TyToken} : Reads .parameters (.mark .closeParen :: rest) [] rest
  | lastParameter {ts rest : List TyToken} {label : Option TyToken} {e : Expr} (hlabel : isLabel label = true)
      (h : Reads .type ts e (.mark .closeParen :: rest)) :
      Reads .parameters (labelTokens label ++ ts) [(labelName label, e)] rest
  | nextParameter {ts us rest : List TyToken} {label : Option TyToken} {e : Expr}
      {params : List (Option String × Expr)} (hlabel : isLabel label = true)
      (h : Reads .type ts e (.mark .comma :: us)) (hnext : Reads .parameters us params rest) :
      Reads .parameters (labelTokens label ++ ts) ((labelName label, e) :: params) rest
  | noArguments {rest : List TyToken} : Reads .arguments (.mark .greater :: rest) [] rest
  | lastArgument {ts rest : List TyToken} {e : Expr} (h : Reads .type ts e (.mark .greater :: rest)) :
      Reads .arguments ts [e] rest
  | nextArgument {ts us rest : List TyToken} {e : Expr} {es : List Expr} (h : Reads .type ts e (.mark .comma :: us))
      (hnext : Reads .arguments us es rest) : Reads .arguments ts (e :: es) rest

theorem exists_length {length : String} (h : Gives (readLength ts) length rest) : ∃ us,
    ts = us ++ .mark .closeBracket :: rest ∧ us ≠ [] ∧ .mark .closeBracket ∉ us ∧
      length = String.join (us.map TyToken.text) := by
  obtain ⟨hlt, heq⟩ := h
  simp only [readLength] at heq
  split at heq
  · cases heq
  · next token left hleft =>
    split at heq
    · cases heq
    · next hne =>
      cases heq
      have htoken : token = .mark .closeBracket := by
        have hhead := List.head?_dropWhile_not (· != TyToken.mark .closeBracket) ts
        simpa [hleft] using hhead
      have hsplit := List.takeWhile_append_dropWhile (p := (· != .mark .closeBracket)) (l := ts)
      rw [hleft, htoken] at hsplit
      refine ⟨_, hsplit.symm, hne, fun hmem => ?_, rfl⟩
      exact absurd (List.mem_takeWhile_imp hmem) (by decide)

theorem reads_array (ih : ∀ e rest, Gives (readType ts) e rest → Reads .type ts e rest)
    (h : Gives (readType (.mark .openBracket :: ts)) e rest) : Reads .type (.mark .openBracket :: ts) e rest := by
  obtain ⟨hlt, heq⟩ := h
  rw [readType] at heq
  obtain ⟨⟨element, rest₁, h₁⟩, helement, heq⟩ := bind_ok heq
  obtain ⟨⟨⟨⟩, rest₂, h₂⟩, hsemicolon, heq⟩ := bind_ok heq
  obtain ⟨⟨length, rest₃, h₃⟩, hlength, heq⟩ := bind_ok heq
  cases heq
  obtain rfl : rest₁ = .mark .semicolon :: rest₂ := expect_ok hsemicolon
  obtain ⟨us, rfl, hne, hbracket, rfl⟩ := exists_length ⟨h₃, hlength⟩
  exact .array (ih _ _ ⟨h₁, helement⟩) hne hbracket

theorem reads_parens (hunit : ∀ us, ts ≠ .mark .closeParen :: us)
    (ih : ∀ e rest, Gives (readType ts) e rest → Reads .type ts e rest)
    (h : Gives (readType (.mark .openParen :: ts)) e rest) : Reads .type (.mark .openParen :: ts) e rest := by
  obtain ⟨hlt, heq⟩ := h
  rw [readType] at heq
  · obtain ⟨⟨inner, rest₁, h₁⟩, hinner, heq⟩ := bind_ok heq
    dsimp only at heq
    split at heq
    · cases heq
    · obtain ⟨⟨⟨⟩, rest₂, h₂⟩, hclose, heq⟩ := bind_ok heq
      cases heq
      obtain rfl : rest₁ = .mark .closeParen :: rest₂ := expect_ok hclose
      exact .parens (ih _ _ ⟨h₁, hinner⟩)
  · exact hunit

theorem startsPath_of_word {w : String} (hstart : (w.toList.head?.map Text.isNameStart).getD false = true)
    (hword : ¬(TyToken.word w = .word "unsafe" ∨ TyToken.word w = .word "extern" ∨ TyToken.word w = .word "fn")) :
    startsPath w = true := by
  rw [startsPath, hstart]
  simpa [not_or, and_comm, and_left_comm, and_assoc] using hword

theorem reads_path
    (hword : ∀ t us, ts = t :: us → ¬(t = .word "unsafe" ∨ t = .word "extern" ∨ t = .word "fn"))
    (ih : ∀ us, us.length + 1 < ts.length → ∀ es rest, Gives (readArguments us) es rest → Reads .arguments us es rest)
    (h : Gives (readPath ts) e rest) : Reads .type ts e rest := by
  obtain ⟨hlt, heq⟩ := h
  rw [readPath] at heq
  obtain ⟨⟨first, rest₁, h₁⟩, hfirst, heq⟩ := bind_ok heq
  obtain ⟨⟨name, rest₂, h₂⟩, hname, heq⟩ := bind_ok heq
  obtain ⟨rfl, hstart⟩ : ts = .word first :: rest₁ ∧ _ := readTypeName_ok hfirst
  obtain ⟨names, hrest₁, hlast, hend⟩ := exists_segmentTokens hname
  have hpath : startsPath first = true := startsPath_of_word hstart (hword _ _ rfl)
  dsimp only at hrest₁ hlast hend heq
  subst hlast
  split at heq
  · next rest₃ h₃ =>
    obtain ⟨⟨args, left, h⟩, hargs, heq⟩ := bind_ok heq
    cases heq
    rw [hrest₁]
    exact .generic hpath names (ih rest₃ (Nat.lt_of_le_of_lt h₃ h₁) args left ⟨h, hargs⟩)
  · next hless =>
    cases heq
    rw [hrest₁]
    refine .path hpath names ?_
    unfold endsPath
    split
    · exact absurd rfl (hend _)
    · exact (hless _ _ rfl HEq.rfl).elim
    · rfl

theorem reads_arguments (hmore : ∀ us, ts ≠ .mark .greater :: us)
    (ihtype : ∀ e rest, Gives (readType ts) e rest → Reads .type ts e rest)
    (ih : ∀ us, us.length + 1 < ts.length → ∀ es rest, Gives (readArguments us) es rest → Reads .arguments us es rest)
    {es : List Expr} (h : Gives (readArguments ts) es rest) : Reads .arguments ts es rest := by
  obtain ⟨hlt, heq⟩ := h
  rw [readArguments] at heq
  · obtain ⟨⟨e, rest₁, h₁⟩, htype, heq⟩ := bind_ok heq
    have hfirst := ihtype e rest₁ ⟨h₁, htype⟩
    dsimp only at heq
    split at heq
    · next rest₂ h₂ =>
      obtain ⟨⟨others, left, h⟩, hothers, heq⟩ := bind_ok heq
      cases heq
      exact .nextArgument hfirst (ih rest₂ h₂ others left ⟨h, hothers⟩)
    · cases heq
      exact .lastArgument hfirst
    · cases heq
  · exact hmore

theorem reads_parameters (hmore : ∀ us, ts ≠ .mark .closeParen :: us)
    (ihtype : ∀ e rest, Gives (readType (readParameterName ts).2.1) e rest →
      Reads .type (readParameterName ts).2.1 e rest)
    (ih : ∀ us, us.length + 1 < (readParameterName ts).2.1.length →
      ∀ params rest, Gives (readParameters us) params rest → Reads .parameters us params rest)
    {params : List (Option String × Expr)} (h : Gives (readParameters ts) params rest) :
    Reads .parameters ts params rest := by
  obtain ⟨hlt, heq⟩ := h
  obtain ⟨label, hlabel, hts, hname⟩ := exists_label hmore
  rw [readParameters] at heq
  · generalize readParameterName ts = named at *
    obtain ⟨name, us, hus⟩ := named
    dsimp only at hts hname ihtype ih
    subst hts hname
    obtain ⟨⟨e, rest₁, h₁⟩, htype, heq⟩ := bind_ok heq
    have hfirst := ihtype e rest₁ ⟨h₁, htype⟩
    dsimp only at heq
    split at heq
    · next rest₂ h₂ =>
      obtain ⟨⟨others, left, h⟩, hothers, heq⟩ := bind_ok heq
      cases heq
      exact .nextParameter hlabel hfirst (ih rest₂ h₂ others left ⟨h, hothers⟩)
    · cases heq
      exact .lastParameter hlabel hfirst
    · cases heq
  · exact hmore

theorem reads_function
    (ihparams : ∀ us, us.length + 1 < (skipQualifiers ts).length →
      ∀ params rest, Gives (readParameters us) params rest → Reads .parameters us params rest)
    (ihret : ∀ us, us.length + 3 < (skipQualifiers ts).length →
      ∀ e rest, Gives (readType us) e rest → Reads .type us e rest)
    (h : Gives (readFunction ts) e rest) : Reads .type ts e rest := by
  obtain ⟨hlt, heq⟩ := h
  rw [readFunction] at heq
  obtain ⟨⟨⟨⟩, rest₂, h₂⟩, hfn, heq⟩ := bind_ok heq
  obtain ⟨⟨⟨⟩, rest₃, h₃⟩, hopen, heq⟩ := bind_ok heq
  obtain ⟨⟨params, rest₄, h₄⟩, hparams, heq⟩ := bind_ok heq
  have hskipped : skipQualifiers ts = .word "fn" :: rest₂ := expect_ok hfn
  obtain rfl : rest₂ = .mark .openParen :: rest₃ := expect_ok hopen
  obtain ⟨isUnsafe, convention, rfl⟩ := exists_functionWords hskipped
  have hread := ihparams rest₃ h₂ params rest₄ ⟨h₄, hparams⟩
  dsimp only at heq
  split at heq
  · next rest₅ h₅ =>
    obtain ⟨⟨ret, left, h⟩, hret, heq⟩ := bind_ok heq
    cases heq
    refine .functionTo isUnsafe convention hread (ihret rest₅ ?_ ret left ⟨h, hret⟩)
    simp only [List.length_cons] at h₂ h₅
    omega
  · next harrow =>
    cases heq
    exact .function isUnsafe convention hread fun us hus => by
      subst hus
      exact harrow us _ rfl HEq.rfl

/-- A reader that fails reads nothing. -/
theorem reads_error {f : Form} {α : Type} {tokens : List TyToken} {r : Reading α tokens} {error : TySyntaxError}
    {a : α} {b : f.Value} (h : r = .error error) (hgives : Gives r a rest) : Reads f ts b rest := by
  obtain ⟨hlt, heq⟩ := hgives
  rw [h] at heq
  cases heq

theorem reads_readers :
    (∀ ts e rest, Gives (readType ts) e rest → Reads .type ts e rest) ∧
    (∀ ts, (∀ t us, ts = t :: us → ¬(t = .word "unsafe" ∨ t = .word "extern" ∨ t = .word "fn")) →
      ∀ e rest, Gives (readPath ts) e rest → Reads .type ts e rest) ∧
    (∀ ts es rest, Gives (readArguments ts) es rest → Reads .arguments ts es rest) ∧
    (∀ ts e rest, Gives (readFunction ts) e rest → Reads .type ts e rest) ∧
    ∀ ts params rest, Gives (readParameters ts) params rest → Reads .parameters ts params rest := by
  apply readType.mutual_induct
  case case1 => exact fun e rest => reads_error (by rw [readType])
  case case2 => exact fun e rest => reads_error (by rw [readType])
  case case3 =>
    rintro qualifier ts hqualifier ih e rest ⟨hlt, heq⟩
    rw [readType, if_pos hqualifier] at heq
    obtain ⟨⟨target, left, h⟩, htarget, heq⟩ := bind_ok heq
    cases heq
    exact .pointer hqualifier (ih _ _ ⟨h, htarget⟩)
  case case4 =>
    intro qualifier ts hqualifier e rest
    exact reads_error (by rw [readType, if_neg hqualifier])
  case case5 =>
    intro head tail hhead e rest
    exact reads_error (by rw [readType]; exact hhead)
  case case6 =>
    rintro ts ih e rest ⟨hlt, heq⟩
    rw [readType] at heq
    obtain ⟨⟨target, left, h⟩, htarget, heq⟩ := bind_ok heq
    cases heq
    exact .exclusive (ih _ _ ⟨h, htarget⟩)
  case case7 =>
    rintro ts hmut ih e rest ⟨hlt, heq⟩
    rw [readType] at heq
    · obtain ⟨⟨target, left, h⟩, htarget, heq⟩ := bind_ok heq
      cases heq
      exact .shared hmut (ih _ _ ⟨h, htarget⟩)
    · exact hmut
  case case8 => exact fun ts ih e rest => reads_array ih
  case case9 =>
    rintro ts e rest ⟨hlt, heq⟩
    rw [readType] at heq
    cases heq
    exact .unit
  case case10 => exact fun ts hunit ih e rest => reads_parens hunit ih
  case case11 =>
    rintro ts e rest ⟨hlt, heq⟩
    rw [readType] at heq
    cases heq
    exact .never
  case case12 =>
    intro token ts h₁ h₂ h₃ h₄ h₅ h₆ h₇ h₈ h₉ hfn ih
    rwa [readType, if_pos hfn]
    all_goals assumption
  case case13 =>
    intro token ts h₁ h₂ h₃ h₄ h₅ h₆ h₇ h₈ h₉ hword ih
    rw [readType, if_neg hword]
    · refine ih fun t us hts => ?_
      cases hts
      exact hword
    all_goals assumption
  case case14 =>
    intro ts ih hword e rest
    exact reads_path hword fun us hus => ih (.mark .less :: us) hus (.mark .less :: us) us (Nat.le_refl _)
  case case15 =>
    rintro ts es rest ⟨hlt, heq⟩
    rw [readArguments] at heq
    cases heq
    exact .noArguments
  case case16 =>
    intro ts hmore ihtype ih es rest
    exact reads_arguments hmore ihtype fun us hus => ih (.mark .comma :: us) us hus
  case case17 =>
    intro ts hskip ihparams ihret e rest
    refine reads_function (fun us hus => ihparams (.mark .openParen :: us) hus us (Nat.lt_succ_self _)) ?_
    intro us hus
    exact ihret (.mark .openParen :: .mark .closeParen :: .mark .arrow :: us) hus _ (Nat.lt_succ_self _) [] us
      (Nat.lt_succ_self _)
  case case18 =>
    rintro ts params rest ⟨hlt, heq⟩
    rw [readParameters] at heq
    cases heq
    exact .noParameters
  case case19 =>
    intro ts hmore name us hle hname ihtype ih params rest
    have hleft : (readParameterName ts).2.1 = us := by rw [hname]
    refine reads_parameters hmore (by rwa [hleft]) fun vs hvs => ?_
    rw [hleft] at hvs
    exact ih (.mark .comma :: vs) vs hvs

/-- Whatever a reader makes of some tokens, they write. -/
theorem reads_of_gives {f : Form} {a : f.Value} (h : Gives (f.read ts) a rest) : Reads f ts a rest := by
  obtain ⟨htype, -, harguments, -, hparameters⟩ := reads_readers
  cases f with
  | type => exact htype ts a rest h
  | parameters => exact hparameters ts a rest h
  | arguments => exact harguments ts a rest h

/-- A text is read by reading all of its tokens as one type. -/
theorem read_ok {text : String} (h : read text = .ok e) : ∃ tokens,
    TyToken.readAll (Text.trimRight text.toList) = .ok tokens ∧ Gives (readType tokens) e [] := by
  simp only [read] at h
  split at h
  · cases h
  · next tokens htokens =>
    refine ⟨tokens, htokens, ?_⟩
    unfold ofTokens at h
    split at h
    · cases h
    · next hlt heq =>
      cases h
      exact ⟨hlt, heq⟩
    · cases h

theorem read_of_gives {text : String} {tokens : List TyToken}
    (htokens : TyToken.readAll (Text.trimRight text.toList) = .ok tokens) (h : Gives (readType tokens) e []) :
    read text = .ok e := by
  obtain ⟨hlt, heq⟩ := h
  simp only [read, htokens, ofTokens, heq]

end Expr

end CrateHeader
