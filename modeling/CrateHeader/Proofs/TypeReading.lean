import CrateHeader.Proofs.TypeGrammar
import CrateHeader.Proofs.TypeSpelling

/-!
# The rules of type texts

What the reader of type texts makes of each production of the grammar, first with the rest of the tokens left open and
then wherever the tokens may stand. Every rule also says what happens when one part starts with a comma, which is
what lifetimes in front of arguments leave behind: the reader stops there.
-/

namespace CrateHeader

namespace Expr

variable {ts us rest left : List TyToken} {e element target ret : Expr} {es args : List Expr}
  {params : List (Option String × Expr)} {first name length : String} {label : Option TyToken} {n m : Nat}

/-- The names that a path of one word may have. -/
def isTypeName (name : String) : Bool := isWord name && !(["fn", "extern", "unsafe"].contains name)

theorem startsPath_of_isTypeName (hname : isTypeName name = true) : startsPath name = true := by
  obtain ⟨hword, hkeyword⟩ := Bool.and_eq_true_iff.1 hname
  obtain ⟨c, cs, hcs, hc, -⟩ := CToken.exists_of_isWord hword
  rw [startsPath, hcs, hkeyword]
  simp [hc]

theorem startsType_cons {t : TyToken} (hmark : t ≠ .mark .closeParen ∧ t ≠ .mark .greater ∧ t ≠ .mark .colon)
    (hnext : ts.head? ≠ some (.mark .colon)) : startsType (t :: ts) = true := by
  unfold startsType
  split <;> simp_all

theorem head?_of_startsType (h : startsType ts = true) : ts.head? ≠ some (.mark .colon) := by
  cases ts with
  | nil => simp
  | cons t ts =>
    intro hhead
    obtain rfl : t = .mark .colon := Option.some.inj hhead
    cases h

/-- Does a type end here, on its own or as a part of another? -/
def endsType : List TyToken → Bool
  | [] | .mark .comma :: _ | .mark .closeParen :: _ | .mark .semicolon :: _ | .mark .greater :: _ => true
  | _ => false

theorem endsPath_of_endsType (h : endsType rest = true) : endsPath rest = true := by
  unfold endsType at h
  split at h <;> first | rfl | cases h

theorem head?_of_endsType (h : endsType rest = true) : rest.head? ≠ some (.mark .colon) := by
  unfold endsType at h
  split at h <;> simp_all

/-! ### Readers that are stopped by a comma -/

/-- A reader makes something of the tokens in front of the rest, or is stopped by a comma if there are any that it
must not meet. -/
structure Takes {α : Type} {tokens : List TyToken} (r : Reading α tokens) (a : α) (rest : List TyToken)
    (commas : Nat) : Prop where
  gives : commas = 0 → Gives r a rest
  refuses : 0 < commas → r = .error (.noTypeName ",")

section takes

variable {α β : Type} {a : α} {b : β}

theorem Takes.done {tokens : List TyToken} {h : rest.length < tokens.length} :
    Takes (.ok (a, ⟨rest, h⟩) : Reading α tokens) a rest 0 where
  gives _ := ⟨h, rfl⟩
  refuses hpos := absurd hpos (Nat.lt_irrefl 0)

theorem Takes.of_eq {r r' : Reading α ts} (heq : r = r') (h : Takes r' a rest n) : Takes r a rest n := heq ▸ h

/-- The first part with a comma stops the reader, whatever stands behind it. -/
theorem Takes.bind {r : Reading α ts} {f : α × { rest : List TyToken // rest.length < ts.length } → Reading β us}
    (h : Takes r a rest n) (hnext : ∀ hlt, Takes (f (a, ⟨rest, hlt⟩)) b left m) : Takes (r >>= f) b left (n + m) where
  gives hzero := by
    obtain ⟨hn, hm⟩ := Nat.add_eq_zero_iff.1 hzero
    obtain ⟨hlt, heq⟩ := h.gives hn
    obtain ⟨hshort, hlast⟩ := (hnext hlt).gives hm
    exact ⟨hshort, (bind_eq heq f).trans hlast⟩
  refuses hpos := by
    rcases Nat.eq_zero_or_pos n with rfl | hn
    · obtain ⟨hlt, heq⟩ := h.gives rfl
      exact (bind_eq heq f).trans ((hnext hlt).refuses (by omega))
    · rw [h.refuses hn]
      rfl

theorem Takes.followed {r : Reading α ts}
    {f : α × { rest : List TyToken // rest.length < ts.length } → Reading β us} (h : Takes r a rest n)
    (hnext : ∀ hlt, Takes (f (a, ⟨rest, hlt⟩)) b left 0) : Takes (r >>= f) b left n := h.bind hnext

end takes

/-! ### One rule for each production -/

theorem takes_pointer {qualifier : String} (hqualifier : qualifier = "const" ∨ qualifier = "mut")
    (h : Takes (readType ts) target rest n) :
    Takes (readType (.mark .star :: .word qualifier :: ts)) (.pointer target (qualifier = "mut") false) rest n := by
  rw [readType, if_pos hqualifier]
  exact h.followed fun _ => .done

theorem takes_exclusive (h : Takes (readType ts) target rest n) :
    Takes (readType (.mark .amp :: .word "mut" :: ts)) (.pointer target true true) rest n := by
  rw [readType]
  exact h.followed fun _ => .done

theorem takes_shared (hmut : ∀ us, ts ≠ .word "mut" :: us) (h : Takes (readType ts) target rest n) :
    Takes (readType (.mark .amp :: ts)) (.pointer target false true) rest n := by
  rw [readType]
  · exact h.followed fun _ => .done
  · exact hmut

theorem length_join (hne : us ≠ []) (hbracket : .mark .closeBracket ∉ us) :
    Gives (readLength (us ++ .mark .closeBracket :: rest)) (String.join (us.map TyToken.text)) rest := by
  have hall : ∀ t ∈ us, (t != .mark .closeBracket) = true := by
    intro t ht
    rw [bne_iff_ne]
    rintro rfl
    exact hbracket ht
  have hdrop : (us ++ .mark .closeBracket :: rest).dropWhile (· != .mark .closeBracket) =
      .mark .closeBracket :: rest := by
    rw [List.dropWhile_append_of_pos hall]
    rfl
  have htake : (us ++ .mark .closeBracket :: rest).takeWhile (· != .mark .closeBracket) = us := by
    rw [List.takeWhile_append_of_pos hall]
    simp
  refine ⟨by simp; omega, ?_⟩
  simp only [readLength]
  split
  · next hnil => rw [hdrop] at hnil; cases hnil
  · next hcons =>
    rw [hdrop] at hcons
    cases hcons
    split
    · next htaken => exact absurd (htake.symm.trans htaken) hne
    · simp only [htake]

theorem takes_array (h : Takes (readType ts) element (.mark .semicolon :: us) n)
    (hlength : Gives (readLength us) length rest) :
    Takes (readType (.mark .openBracket :: ts)) (.array element length) rest n := by
  obtain ⟨hlt, heq⟩ := hlength
  rw [readType]
  refine h.followed fun _ => ?_
  refine .of_eq (bind_eq (expect_self _) _) ?_
  exact .of_eq (bind_eq heq _) .done

theorem takes_unit : Takes (readType (.mark .openParen :: .mark .closeParen :: rest)) .unit rest 0 := by
  rw [readType]
  exact .done

theorem takes_parens (hstart : startsType ts = true) (h : Takes (readType ts) e (.mark .closeParen :: rest) n) :
    Takes (readType (.mark .openParen :: ts)) e rest n := by
  rw [readType]
  · refine h.followed fun _ => ?_
    exact .of_eq (bind_eq (expect_self _) _) .done
  · rintro us rfl
    cases hstart

theorem takes_never : Takes (readType (.mark .bang :: rest)) .never rest 0 := by
  rw [readType]
  exact .done

theorem functionWords_head (isUnsafe : Bool) (convention : Option (Option String)) (ts : List TyToken) :
    ∃ w us, functionWords isUnsafe convention ++ ts = .word w :: us ∧
      (TyToken.word w = .word "unsafe" ∨ TyToken.word w = .word "extern" ∨ TyToken.word w = .word "fn") := by
  rcases isUnsafe with - | - <;> rcases convention with - | - | s <;> exact ⟨_, _, rfl, by decide⟩

theorem type_functionWords (isUnsafe : Bool) (convention : Option (Option String)) :
    readType (functionWords isUnsafe convention ++ ts) = readFunction (functionWords isUnsafe convention ++ ts) := by
  obtain ⟨w, us, hwords, hw⟩ := functionWords_head isUnsafe convention ts
  rw [hwords, readType, if_pos hw]
  all_goals simp

theorem expect_of_eq {token : TyToken} (h : ts = token :: rest) : ∃ hlt, expect token ts = .ok ((), ⟨rest, hlt⟩) := by
  subst h
  exact ⟨_, expect_self token⟩

theorem takes_function (isUnsafe : Bool) (convention : Option (Option String))
    (h : Takes (readParameters ts) params rest n) (hend : ∀ us, rest ≠ .mark .arrow :: us) :
    Takes (readType (functionWords isUnsafe convention ++ .mark .openParen :: ts)) (.function params none) rest n := by
  obtain ⟨hlt, hfn⟩ := expect_of_eq (skipQualifiers_functionWords isUnsafe convention (.mark .openParen :: ts))
  rw [type_functionWords, readFunction]
  refine .of_eq (bind_eq hfn _) ?_
  refine .of_eq (bind_eq (expect_self _) _) ?_
  refine h.followed fun _ => ?_
  dsimp only
  split
  · exact absurd rfl (hend _)
  · exact .done

theorem takes_functionTo (isUnsafe : Bool) (convention : Option (Option String))
    (h : Takes (readParameters ts) params (.mark .arrow :: us) n) (hret : Takes (readType us) ret rest m) :
    Takes (readType (functionWords isUnsafe convention ++ .mark .openParen :: ts)) (.function params (some ret)) rest
      (n + m) := by
  obtain ⟨hlt, hfn⟩ := expect_of_eq (skipQualifiers_functionWords isUnsafe convention (.mark .openParen :: ts))
  rw [type_functionWords, readFunction]
  refine .of_eq (bind_eq hfn _) ?_
  refine .of_eq (bind_eq (expect_self _) _) ?_
  exact h.bind fun _ => hret.followed fun _ => .done

theorem typeName_word (hname : startsPath name = true) :
    readTypeName (.word name :: rest) = .ok (name, ⟨rest, by simp⟩) := by
  rw [readTypeName, if_pos (Bool.and_eq_true_iff.1 hname).1]

theorem type_word (hname : startsPath name = true) :
    readType (.word name :: rest) = readPath (.word name :: rest) := by
  obtain ⟨-, hkeyword⟩ := Bool.and_eq_true_iff.1 hname
  have hnot : ¬(TyToken.word name = .word "unsafe" ∨ TyToken.word name = .word "extern" ∨
      TyToken.word name = .word "fn") := by
    rintro (h | h | h) <;> cases h <;> exact absurd hkeyword (by decide)
  rw [readType, if_neg hnot]
  all_goals simp

theorem takes_path (hfirst : startsPath first = true) (names : List TyToken) (hend : endsPath rest = true) :
    Takes (readType (.word first :: (segmentTokens names ++ rest))) (.path (lastName first names) []) rest 0 := by
  have hscope : ∀ us, rest ≠ .mark .scope :: us := by
    rintro us rfl
    cases hend
  obtain ⟨hle, hsegments⟩ := readSegments_segmentTokens first names hscope
  rw [type_word hfirst, readPath]
  refine .of_eq (bind_eq (typeName_word hfirst) _) ?_
  refine .of_eq (bind_eq hsegments _) ?_
  dsimp only
  split
  · cases hend
  · exact .done

theorem takes_generic (hfirst : startsPath first = true) (names : List TyToken)
    (h : Takes (readArguments ts) args rest n) :
    Takes (readType (.word first :: (segmentTokens names ++ .mark .less :: ts))) (.path (lastName first names) args)
      rest n := by
  have hscope : ∀ us, TyToken.mark .less :: ts ≠ .mark .scope :: us := by simp
  obtain ⟨hle, hsegments⟩ := readSegments_segmentTokens first names hscope
  rw [type_word hfirst, readPath]
  refine .of_eq (bind_eq (typeName_word hfirst) _) ?_
  refine .of_eq (bind_eq hsegments _) ?_
  exact h.followed fun _ => .done

theorem takes_noParameters : Takes (readParameters (.mark .closeParen :: rest)) [] rest 0 := by
  rw [readParameters]
  exact .done

theorem label_ne_closeParen (hlabel : isLabel label = true) (hstart : startsType ts = true) :
    ∀ us, labelTokens label ++ ts ≠ .mark .closeParen :: us := by
  rintro us heq
  cases label with
  | none =>
    rw [labelTokens, List.nil_append] at heq
    subst heq
    cases hstart
  | some t =>
    cases heq
    cases hlabel

theorem takes_lastParameter (hlabel : isLabel label = true) (hstart : startsType ts = true)
    (h : Takes (readType ts) e (.mark .closeParen :: rest) n) :
    Takes (readParameters (labelTokens label ++ ts)) [(labelName label, e)] rest n := by
  obtain ⟨hle, hname⟩ := readParameterName_label hlabel fun _ => hstart
  rw [readParameters]
  · generalize readParameterName _ = named at hname ⊢
    subst hname
    exact h.followed fun _ => .done
  · exact label_ne_closeParen hlabel hstart

theorem takes_nextParameter (hlabel : isLabel label = true) (hstart : startsType ts = true)
    (h : Takes (readType ts) e (.mark .comma :: us) n) (hnext : Takes (readParameters us) params rest m) :
    Takes (readParameters (labelTokens label ++ ts)) ((labelName label, e) :: params) rest (n + m) := by
  obtain ⟨hle, hname⟩ := readParameterName_label hlabel fun _ => hstart
  rw [readParameters]
  · generalize readParameterName _ = named at hname ⊢
    subst hname
    exact h.bind fun _ => hnext.followed fun _ => .done
  · exact label_ne_closeParen hlabel hstart

theorem takes_noArguments : Takes (readArguments (.mark .greater :: rest)) [] rest 0 := by
  rw [readArguments]
  exact .done

theorem takes_lastArgument (hstart : startsType ts = true) (h : Takes (readType ts) e (.mark .greater :: rest) n) :
    Takes (readArguments ts) [e] rest n := by
  rw [readArguments]
  · exact h.followed fun _ => .done
  · rintro us rfl
    cases hstart

theorem takes_nextArgument (hstart : startsType ts = true) (h : Takes (readType ts) e (.mark .comma :: us) n)
    (hnext : Takes (readArguments us) es rest m) : Takes (readArguments ts) (e :: es) rest (n + m) := by
  rw [readArguments]
  · exact h.bind fun _ => hnext.followed fun _ => .done
  · rintro us rfl
    cases hstart

/-- Commas in front of generic arguments are met where the first of them is expected. -/
theorem takes_commas (k : Nat) (h : Takes (readArguments ts) args rest n) :
    Takes (readArguments (List.replicate k (.mark .comma) ++ ts)) args rest (n + k) := by
  cases k with
  | zero => exact h
  | succ k =>
    refine ⟨fun hzero => by omega, fun _ => ?_⟩
    rw [List.replicate_succ, List.cons_append, readArguments]
    · rw [readType, if_neg (by simp), readPath]
      · rfl
      all_goals simp
    · simp

/-! ### Tokens that are read wherever they may stand -/

/-- What may stand behind. -/
def Form.Ends : Form → List TyToken → Prop
  | type, rest => endsType rest = true
  | parameters, _ | arguments, _ => True

/-- Tokens that write a value wherever they may stand, but for commas that the reader must not meet. In a list of
parameters a type must not look like a name in front of a colon. -/
structure Yields (f : Form) (ts : List TyToken) (a : f.Value) (commas : Nat) : Prop where
  starts : f = .type → ∀ rest, endsType rest = true → startsType (ts ++ rest) = true
  takes : ∀ rest, f.Ends rest → Takes (f.read (ts ++ rest)) a rest commas

theorem Takes.congr {f : Form} {a : f.Value} (heq : ts = us) (h : Takes (f.read us) a rest n) :
    Takes (f.read ts) a rest n := heq ▸ h

theorem startsType_behind {t : TyToken} (hmark : t ≠ .mark .closeParen ∧ t ≠ .mark .greater ∧ t ≠ .mark .colon)
    (h : startsType ts = true) : startsType (t :: ts) = true := startsType_cons hmark (head?_of_startsType h)

theorem startsType_path (first : String) (names : List TyToken) (hhead : ts.head? ≠ some (.mark .colon)) :
    startsType (.word first :: (segmentTokens names ++ ts)) = true := by
  refine startsType_cons (by simp) ?_
  cases names with
  | nil => exact hhead
  | cons => simp [segmentTokens]

theorem startsType_functionWords (isUnsafe : Bool) (convention : Option (Option String)) (ts : List TyToken) :
    startsType (functionWords isUnsafe convention ++ .mark .openParen :: ts) = true := by
  rcases isUnsafe with - | - <;> rcases convention with - | - | s <;> rfl

theorem Yields.pointer {qualifier : String} (hqualifier : qualifier = "const" ∨ qualifier = "mut")
    (h : Yields .type ts target n) :
    Yields .type (.mark .star :: .word qualifier :: ts) (.pointer target (qualifier = "mut") false) n where
  starts _ _ _ := rfl
  takes rest hrest := takes_pointer hqualifier (h.takes rest hrest)

theorem Yields.exclusive (h : Yields .type ts target n) :
    Yields .type (.mark .amp :: .word "mut" :: ts) (.pointer target true true) n where
  starts _ _ _ := rfl
  takes rest hrest := takes_exclusive (h.takes rest hrest)

theorem Yields.shared (hmut : ∀ rest us, ts ++ rest ≠ .word "mut" :: us) (h : Yields .type ts target n) :
    Yields .type (.mark .amp :: ts) (.pointer target false true) n where
  starts _ rest hrest := startsType_behind (by decide) (h.starts rfl rest hrest)
  takes rest hrest := takes_shared (hmut rest) (h.takes rest hrest)

theorem Yields.array (hne : us ≠ []) (hbracket : .mark .closeBracket ∉ us) (h : Yields .type ts element n) :
    Yields .type (.mark .openBracket :: (ts ++ .mark .semicolon :: (us ++ [.mark .closeBracket])))
      (.array element (String.join (us.map TyToken.text))) n where
  starts _ rest _ := by
    have hstarts := h.starts rfl (.mark .semicolon :: (us ++ .mark .closeBracket :: rest)) rfl
    simpa using startsType_behind (t := .mark .openBracket) (by decide) hstarts
  takes rest _ := by
    have htakes := h.takes (.mark .semicolon :: (us ++ .mark .closeBracket :: rest)) rfl
    exact .congr (by simp) (takes_array htakes (length_join hne hbracket))

theorem Yields.unit : Yields .type [.mark .openParen, .mark .closeParen] .unit 0 where
  starts _ _ _ := rfl
  takes _ _ := takes_unit

theorem Yields.parens (h : Yields .type ts e n) :
    Yields .type (.mark .openParen :: (ts ++ [.mark .closeParen])) e n where
  starts _ rest _ := by
    have hstarts := h.starts rfl (.mark .closeParen :: rest) rfl
    simpa using startsType_behind (t := .mark .openParen) (by decide) hstarts
  takes rest _ := by
    have hstarts := h.starts rfl (.mark .closeParen :: rest) rfl
    exact .congr (by simp) (takes_parens hstarts (h.takes (.mark .closeParen :: rest) rfl))

theorem Yields.never : Yields .type [.mark .bang] .never 0 where
  starts _ _ hrest := startsType_cons (by decide) (head?_of_endsType hrest)
  takes _ _ := takes_never

theorem Yields.function (isUnsafe : Bool) (convention : Option (Option String)) (h : Yields .parameters ts params n) :
    Yields .type (functionWords isUnsafe convention ++ .mark .openParen :: ts) (.function params none) n where
  starts _ rest _ := by simpa using startsType_functionWords isUnsafe convention (ts ++ rest)
  takes rest hrest := by
    have harrow : ∀ us, rest ≠ .mark .arrow :: us := by
      rintro us rfl
      cases hrest
    exact .congr (by simp) (takes_function isUnsafe convention (h.takes rest trivial) harrow)

theorem Yields.functionTo (isUnsafe : Bool) (convention : Option (Option String))
    (h : Yields .parameters ts params n) (hret : Yields .type us ret m) :
    Yields .type (functionWords isUnsafe convention ++ .mark .openParen :: (ts ++ .mark .arrow :: us))
      (.function params (some ret)) (n + m) where
  starts _ rest _ := by simpa using startsType_functionWords isUnsafe convention (ts ++ .mark .arrow :: (us ++ rest))
  takes rest hrest := by
    have htakes := h.takes (.mark .arrow :: (us ++ rest)) trivial
    exact .congr (by simp) (takes_functionTo isUnsafe convention htakes (hret.takes rest hrest))

theorem Yields.path (hfirst : startsPath first = true) (names : List TyToken) :
    Yields .type (.word first :: segmentTokens names) (.path (lastName first names) []) 0 where
  starts _ _ hrest := startsType_path first names (head?_of_endsType hrest)
  takes _ hrest := takes_path hfirst names (endsPath_of_endsType hrest)

theorem Yields.generic (hfirst : startsPath first = true) (names : List TyToken) (h : Yields .arguments ts args n) :
    Yields .type (.word first :: (segmentTokens names ++ .mark .less :: ts)) (.path (lastName first names) args) n where
  starts _ rest _ := by
    have hhead : (TyToken.mark .less :: (ts ++ rest)).head? ≠ some (.mark .colon) := by simp
    simpa using startsType_path first names hhead
  takes rest _ := .congr (by simp) (takes_generic hfirst names (h.takes rest trivial))

theorem Yields.noParameters : Yields .parameters [.mark .closeParen] [] 0 where
  starts hf := nomatch hf
  takes _ _ := takes_noParameters

theorem Yields.lastParameter (hlabel : isLabel label = true) (h : Yields .type ts e n) :
    Yields .parameters (labelTokens label ++ (ts ++ [.mark .closeParen])) [(labelName label, e)] n where
  starts hf := nomatch hf
  takes rest _ := by
    have hstarts := h.starts rfl (.mark .closeParen :: rest) rfl
    exact .congr (by simp) (takes_lastParameter hlabel hstarts (h.takes (.mark .closeParen :: rest) rfl))

theorem Yields.nextParameter (hlabel : isLabel label = true) (h : Yields .type ts e n)
    (hnext : Yields .parameters us params m) :
    Yields .parameters (labelTokens label ++ (ts ++ .mark .comma :: us)) ((labelName label, e) :: params) (n + m) where
  starts hf := nomatch hf
  takes rest _ := by
    have hstarts := h.starts rfl (.mark .comma :: (us ++ rest)) rfl
    have htakes := h.takes (.mark .comma :: (us ++ rest)) rfl
    exact .congr (by simp) (takes_nextParameter hlabel hstarts htakes (hnext.takes rest trivial))

theorem Yields.noArguments : Yields .arguments [.mark .greater] [] 0 where
  starts hf := nomatch hf
  takes _ _ := takes_noArguments

theorem Yields.lastArgument (h : Yields .type ts e n) : Yields .arguments (ts ++ [.mark .greater]) [e] n where
  starts hf := nomatch hf
  takes rest _ := by
    have hstarts := h.starts rfl (.mark .greater :: rest) rfl
    exact .congr (by simp) (takes_lastArgument hstarts (h.takes (.mark .greater :: rest) rfl))

theorem Yields.nextArgument (h : Yields .type ts e n) (hnext : Yields .arguments us es m) :
    Yields .arguments (ts ++ .mark .comma :: us) (e :: es) (n + m) where
  starts hf := nomatch hf
  takes rest _ := by
    have hstarts := h.starts rfl (.mark .comma :: (us ++ rest)) rfl
    have htakes := h.takes (.mark .comma :: (us ++ rest)) rfl
    exact .congr (by simp) (takes_nextArgument hstarts htakes (hnext.takes rest trivial))

theorem Yields.commas (k : Nat) (h : Yields .arguments ts args n) :
    Yields .arguments (List.replicate k (.mark .comma) ++ ts) args (n + k) where
  starts hf := nomatch hf
  takes rest _ := .congr (by simp) (takes_commas k (h.takes rest trivial))

theorem Yields.all (h : Yields .type ts e n) : Takes (readType ts) e [] n :=
  .congr (f := .type) (List.append_nil ts).symm (h.takes [] rfl)

end Expr

end CrateHeader
