import CrateHeader.Proofs.Spelling
import CrateHeader.Ty.Token
import Mathlib.Data.List.TakeWhile

/-!
# What type texts spell

The tokens of a type text are those of its pieces, as long as no word and no colon runs on into the next piece.
The text of an array length is free: the texts of its tokens are put together without the blanks that stood
between them, so that words run together and two colons become one mark. Read once more it may have other
tokens, but they make up the same text.
-/

namespace CrateHeader

namespace TyToken

variable {s rest : List Char} {ts us : List TyToken}

/-! ### One token -/

theorem readOne?_of_isBlank {c : Char} (h : Text.isBlank c = true) : readOne? (c :: s) = none := by
  have hname : Text.isNameChar c = false := by
    cases hc : Text.isNameChar c with
    | false => rfl
    | true => rw [CToken.isBlank_of_isNameChar hc] at h; cases h
  have hmark : readMark? (c :: s) = none := by
    unfold readMark?
    split
    case h_15 => rfl
    -- No mark starts with a blank.
    all_goals
      rename_i heq
      rw [(List.cons.inj heq).1] at h
      exact absurd h (by decide)
  have hquote : c ≠ '\'' := by
    rintro rfl
    exact absurd h (by decide)
  have hdouble : c ≠ '"' := by
    rintro rfl
    exact absurd h (by decide)
  simp only [readOne?, if_neg hquote, if_neg hdouble, hname, hmark, Bool.false_eq_true, if_false, Option.map_none]

theorem trimLeft_of_readOne? {t : Option TyToken} (h : readOne? s = some (t, rest)) : Text.trimLeft s = s := by
  cases s with
  | nil => rfl
  | cons c s =>
    cases hc : Text.isBlank c with
    | true => rw [readOne?_of_isBlank hc] at h; cases h
    | false => simp [Text.trimLeft, hc]

theorem readAll_nil : readAll [] = .ok [] := by
  rw [readAll]
  rfl

theorem readAll_of_readOne? {t : TyToken} (h : readOne? s = some (some t, rest)) (hrest : readAll rest = .ok ts) :
    readAll s = .ok (t :: ts) := by
  have hne : s ≠ [] := by
    rintro rfl
    cases h
  have htrim := trimLeft_of_readOne? h
  rw [readAll, if_neg hne]
  split
  · next hnone => rw [htrim, h] at hnone; cases hnone
  · next token rest' hsome =>
    rw [htrim, h] at hsome
    cases hsome
    rw [hrest]
    rfl

/-- A blank in front of more text is passed over. -/
theorem readAll_blank (hne : s ≠ []) (h : readAll s = .ok ts) : readAll (' ' :: s) = .ok ts := by
  have htrim : Text.trimLeft (' ' :: s) = Text.trimLeft s := rfl
  rw [readAll, if_neg hne] at h
  rw [readAll, if_neg (List.cons_ne_nil _ _)]
  split at h
  · cases h
  · next token rest hsome =>
    split
    · next hnone => rw [htrim, hsome] at hnone; cases hnone
    · next token' rest' hsome' =>
      rw [htrim, hsome] at hsome'
      cases hsome'
      exact h

/-! ### Pieces of a text -/

/-- Does neither a word nor a colon run on into a text? -/
def StartsApart (s : List Char) : Prop := ∀ c ∈ s.head?, Text.isNameChar c = false ∧ c ≠ ':'

theorem startsApart_cons {c : Char} (h : Text.isNameChar c = false) (hcolon : c ≠ ':') :
    StartsApart (c :: s) := by
  intro d hd
  cases hd
  exact ⟨h, hcolon⟩

theorem takeWhile_append (h : StartsApart rest) :
    (s ++ rest).takeWhile Text.isNameChar = s.takeWhile Text.isNameChar := by
  induction s with
  | nil =>
    cases rest with
    | nil => rfl
    | cons c rest => simp [(h c rfl).1]
  | cons c s ih =>
    rw [List.cons_append, List.takeWhile_cons, List.takeWhile_cons, ih]

theorem dropWhile_append (h : StartsApart rest) :
    (s ++ rest).dropWhile Text.isNameChar = s.dropWhile Text.isNameChar ++ rest := by
  induction s with
  | nil =>
    cases rest with
    | nil => rfl
    | cons c rest => simp [(h c rfl).1]
  | cons c s ih =>
    rw [List.cons_append, List.dropWhile_cons, List.dropWhile_cons, ih]
    split <;> rfl

/-- The tokens of a text, whatever follows it. -/
def Marks (s : String) (ts : List TyToken) : Prop :=
  ∀ rest us, readAll rest = .ok us → readAll (s.toList ++ rest) = .ok (ts ++ us)

/-- The tokens of a text that nothing runs on from. -/
def Spells (s : String) (ts : List TyToken) : Prop :=
  ∀ rest us, StartsApart rest → readAll rest = .ok us → readAll (s.toList ++ rest) = .ok (ts ++ us)

theorem readOne?_word {c : Char} (hc : Text.isNameChar c = true) (hrest : StartsApart rest) :
    readOne? (c :: s ++ rest) = some (some (word (String.ofList (c :: s.takeWhile Text.isNameChar))),
      s.dropWhile Text.isNameChar ++ rest) := by
  have hquote : c ≠ '\'' := by
    rintro rfl
    exact absurd hc (by decide)
  have hdouble : c ≠ '"' := by
    rintro rfl
    exact absurd hc (by decide)
  simp only [List.cons_append, readOne?, if_neg hquote, if_neg hdouble, if_pos hc, takeWhile_append hrest,
    dropWhile_append hrest]

theorem readOne?_colon (h : s.head? ≠ some ':') : readOne? (':' :: s) = some (some (mark .colon), s) := by
  cases s with
  | nil => rfl
  | cons d s =>
    have hd : d ≠ ':' := by simpa using h
    have hmark : readMark? (':' :: d :: s) = some (.colon, d :: s) := by
      unfold readMark?
      split <;> simp_all
    simp only [readOne?, hmark]
    rfl

theorem readOne?_mark {m : Mark} (hcolon : m ≠ .colon) : readOne? (m.text.toList ++ s) = some (some (mark m), s) := by
  cases m <;> first | rfl | contradiction

section Pieces

variable {a b s : String}

theorem Marks.spells (h : Marks s ts) : Spells s ts := fun rest us _ => h rest us

theorem marks_empty : Marks "" [] := fun _ _ h => h

theorem marks_mark {m : Mark} (h : m ≠ .colon) : Marks m.text [mark m] := fun _ _ =>
  readAll_of_readOne? (readOne?_mark h)

/-- A run of name characters, which may start with a digit. -/
theorem spells_run (hne : s ≠ "") (hall : ∀ c ∈ s.toList, Text.isNameChar c = true) : Spells s [word s] := by
  intro rest us hrest hus
  obtain ⟨c, cs, hcs⟩ := List.exists_cons_of_ne_nil (String.toList_eq_nil_iff.not.2 hne)
  rw [hcs] at hall
  have htake : cs.takeWhile Text.isNameChar = cs :=
    List.takeWhile_eq_self_iff.2 fun d hd => hall d (List.mem_cons_of_mem c hd)
  have hdrop : cs.dropWhile Text.isNameChar = [] :=
    List.dropWhile_eq_nil_iff.2 fun d hd => hall d (List.mem_cons_of_mem c hd)
  rw [hcs]
  refine readAll_of_readOne? ?_ hus
  rw [readOne?_word (hall c (by simp)) hrest, htake, hdrop, ← hcs, String.ofList_toList]
  rfl

theorem spells_word (h : isWord s = true) : Spells s [word s] := by
  refine spells_run ?_ fun c hc => CToken.isNameChar_of_mem h hc
  rintro rfl
  cases h

theorem Marks.append (ha : Marks a ts) (hb : Marks b us) : Marks (a ++ b) (ts ++ us) := by
  intro rest vs hvs
  rw [String.toList_append, List.append_assoc, List.append_assoc]
  exact ha _ _ (hb rest vs hvs)

theorem Marks.append_spells (ha : Marks a ts) (hb : Spells b us) : Spells (a ++ b) (ts ++ us) := by
  intro rest vs hrest hvs
  rw [String.toList_append, List.append_assoc, List.append_assoc]
  exact ha _ _ (hb rest vs hrest hvs)

/-- A text may stand in front of one that nothing runs on into. -/
theorem Spells.append (ha : Spells a ts) (hb : Spells b us) (hapart : ∀ rest, StartsApart (b.toList ++ rest)) :
    Spells (a ++ b) (ts ++ us) := by
  intro rest vs hrest hvs
  rw [String.toList_append, List.append_assoc, List.append_assoc]
  exact ha _ _ (hapart rest) (hb rest vs hrest hvs)

theorem Spells.append_marks (ha : Spells a ts) (hb : Marks b us) (hapart : ∀ rest, StartsApart (b.toList ++ rest)) :
    Marks (a ++ b) (ts ++ us) := by
  intro rest vs hvs
  rw [String.toList_append, List.append_assoc, List.append_assoc]
  exact ha _ _ (hapart rest) (hb rest vs hvs)

/-- The tokens of a text on its own. -/
theorem Spells.readAll (h : Spells s ts) : TyToken.readAll s.toList = .ok ts := by
  have hall := h [] [] (by simp [StartsApart]) readAll_nil
  simpa using hall

theorem Spells.ne_empty (h : Spells s ts) (hne : ts ≠ []) : s ≠ "" := by
  rintro rfl
  have hall := h.readAll
  have hempty : TyToken.readAll "".toList = .ok [] := readAll_nil
  rw [hempty] at hall
  exact hne (Except.ok.inj hall).symm

/-- A blank may stand in front of a text. -/
theorem Spells.blank (h : Spells s ts) (hne : ts ≠ []) : Spells (" " ++ s) ts := by
  intro rest us hrest hus
  have hs : s.toList ++ rest ≠ [] := by
    intro hnil
    have hempty := (List.append_eq_nil_iff.1 hnil).1
    exact h.ne_empty hne (String.toList_eq_nil_iff.1 hempty)
  rw [String.toList_append, List.append_assoc]
  exact readAll_blank hs (h rest us hrest hus)

end Pieces

/-! ### Free text -/

/-- The text of tokens put together, none of them a closing bracket. Two colons may be one mark or two. -/
inductive Plain : List Char → Prop where
  | nil : Plain []
  | word {c : Char} {s : List Char} : Text.isNameChar c = true → Plain s → Plain (c :: s)
  | mark {m : Mark} {s : List Char} : m ≠ .closeBracket → m ≠ .scope → Plain s → Plain (m.text.toList ++ s)
  | quoted {held s : List Char} : '"' ∉ held → Plain s → Plain ('"' :: (held ++ '"' :: s))

theorem Plain.append {s t : List Char} (hs : Plain s) (ht : Plain t) : Plain (s ++ t) := by
  induction hs with
  | nil => exact ht
  | word hc _ ih => exact .word hc ih
  | mark hm hscope _ ih =>
    rw [List.append_assoc]
    exact .mark hm hscope ih
  | quoted hheld _ ih =>
    rw [List.cons_append, List.append_assoc, List.cons_append]
    exact .quoted hheld ih

theorem head_text (m : Mark) : ∃ c s, m.text.toList = c :: s ∧ Text.isNameChar c = false ∧ (c = ':' → s = [] ∨ m = .scope) := by
  cases m <;> exact ⟨_, _, rfl, rfl, by decide⟩

theorem Plain.of_word {c : Char} (h : Plain (c :: s)) (hc : Text.isNameChar c = true) : Plain s := by
  generalize heq : c :: s = l at h
  cases h with
  | nil => cases heq
  | word _ h =>
    cases heq
    exact h
  | @mark m _ _ _ _ =>
    obtain ⟨d, t, ht, hd, -⟩ := head_text m
    rw [ht] at heq
    rw [(List.cons.inj heq).1, hd] at hc
    cases hc
  | quoted _ _ =>
    rw [(List.cons.inj heq).1] at hc
    exact absurd hc (by decide)

theorem Plain.of_colon (h : Plain (':' :: s)) : Plain s := by
  generalize heq : ':' :: s = l at h
  cases h with
  | nil => cases heq
  | word hc _ =>
    cases heq
    exact absurd hc (by decide)
  | @mark m _ _ hscope h =>
    obtain ⟨d, t, ht, -, hcolon⟩ := head_text m
    rw [ht] at heq
    obtain ⟨hd, hs⟩ := List.cons.inj heq
    obtain rfl : t = [] := (hcolon hd.symm).resolve_right hscope
    rw [hs]
    exact h
  | quoted _ _ => exact absurd (List.cons.inj heq).1 (by decide)

theorem Plain.dropWhile (h : Plain s) : Plain (s.dropWhile Text.isNameChar) := by
  induction s with
  | nil => exact h
  | cons c s ih =>
    rw [List.dropWhile_cons]
    split
    · next hc => exact ih (h.of_word hc)
    · exact h

theorem readOne?_quoted {held : List Char} (h : '"' ∉ held) :
    readOne? ('"' :: (held ++ '"' :: s)) = some (some (quoted (String.ofList held)), s) := by
  have hall : ∀ c ∈ held, (c != '"') = true := by
    intro c hc
    rw [bne_iff_ne]
    rintro rfl
    exact h hc
  have hdrop : (held ++ '"' :: s).dropWhile (· != '"') = '"' :: s := by
    rw [List.dropWhile_append_of_pos hall]
    rfl
  have htake : (held ++ '"' :: s).takeWhile (· != '"') = held := by
    rw [List.takeWhile_append_of_pos hall]
    simp
  have hquote : ('"' : Char) ≠ '\'' := by decide
  simp only [readOne?, if_neg hquote, if_true, readQuoted?, hdrop, htake, Option.map_some]

/-- A free text has a token in front, which does not depend on what follows the whole text. -/
theorem Plain.exists_readOne? (h : Plain s) (hne : s ≠ []) : ∃ t left, t ≠ .mark .closeBracket ∧
    s = t.text.toList ++ left ∧ Plain left ∧
    ∀ rest, StartsApart rest → readOne? (s ++ rest) = some (some t, left ++ rest) := by
  cases h with
  | nil => exact absurd rfl hne
  | @word c s hc h =>
    refine ⟨_, _, ?_, ?_, h.dropWhile, fun rest hrest => readOne?_word hc hrest⟩
    · exact TyToken.noConfusion
    · simp only [text, String.toList_ofList, List.cons_append, List.takeWhile_append_dropWhile]
  | @mark m s hm hscope h =>
    by_cases hcolon : m = .colon
    · subst hcolon
      by_cases hd : s.head? = some ':'
      · -- A second colon makes it one mark with the first.
        obtain ⟨s, rfl⟩ := List.head?_eq_some_iff.1 hd
        exact ⟨.mark .scope, s, by decide, rfl, h.of_colon, fun rest _ => rfl⟩
      · refine ⟨.mark .colon, s, by decide, rfl, h, fun rest hrest => readOne?_colon ?_⟩
        cases s with
        | nil => exact fun hhead => (hrest ':' hhead).2 rfl
        | cons d s => simpa using hd
    · refine ⟨.mark m, s, by simpa using hm, rfl, h, fun rest _ => ?_⟩
      rw [List.append_assoc]
      exact readOne?_mark hcolon
  | @quoted held s hheld h =>
    refine ⟨.quoted (String.ofList held), s, TyToken.noConfusion, by simp [text], h, fun rest _ => ?_⟩
    rw [List.cons_append, List.append_assoc, List.cons_append]
    exact readOne?_quoted hheld

/-- The tokens of a free text make it up again. -/
theorem Plain.exists_spells (h : Plain s) : ∃ ts, Spells (String.ofList s) ts ∧ .mark .closeBracket ∉ ts ∧
    String.join (ts.map text) = String.ofList s := by
  induction hn : s.length using Nat.strongRecOn generalizing s with
  | _ n ih =>
    by_cases hne : s = []
    · subst hne
      exact ⟨[], marks_empty.spells, List.not_mem_nil, rfl⟩
    obtain ⟨t, left, ht, hs, hleft, hread⟩ := h.exists_readOne? hne
    have hshort : left.length < n := by
      have hone := length_readOne? (hread [] (by simp [StartsApart]))
      simpa [hn] using hone
    obtain ⟨ts, hspells, hts, hjoin⟩ := ih left.length hshort hleft rfl
    refine ⟨t :: ts, ?_, by simp [ht.symm, hts], ?_⟩
    · intro rest us hrest hus
      rw [String.toList_ofList]
      have hall := hspells rest us hrest hus
      rw [String.toList_ofList] at hall
      exact readAll_of_readOne? (hread rest hrest) hall
    · rw [List.map_cons, String.join_cons, hjoin, hs, String.ofList_append, String.ofList_toList]

/-! ### Tokens that were read -/

/-- What a token that was read looks like. -/
def IsRead : TyToken → Prop
  | mark _ => True
  | word w => w ≠ "" ∧ ∀ c ∈ w.toList, Text.isNameChar c = true
  | quoted s => '"' ∉ s.toList

theorem isRead_of_readOne? {t : TyToken} (h : readOne? s = some (some t, rest)) : t.IsRead := by
  cases s with
  | nil => cases h
  | cons c s =>
    simp only [readOne?] at h
    split at h
    · -- A lifetime is no token.
      split at h
      · split at h <;> cases h
      · cases h
    · split at h
      · obtain ⟨⟨held, after⟩, hheld, heq⟩ := Option.map_eq_some_iff.1 h
        cases heq
        unfold readQuoted? at hheld
        split at hheld
        · cases hheld
          intro hmem
          have hc := List.mem_takeWhile_imp (by simpa using hmem)
          exact absurd hc (by decide)
        · cases hheld
      · split at h
        · next hc =>
          cases h
          refine ⟨by simp, fun d hd => ?_⟩
          rw [String.toList_ofList] at hd
          rcases List.mem_cons.1 hd with rfl | hd
          · exact hc
          · exact List.mem_takeWhile_imp hd
        · obtain ⟨⟨m, after⟩, -, heq⟩ := Option.map_eq_some_iff.1 h
          cases heq
          trivial

theorem isRead_of_readAll (h : readAll s = .ok ts) : ∀ t ∈ ts, t.IsRead := by
  fun_induction readAll s generalizing ts with
  | case1 =>
    cases h
    simp
  | case2 => cases h
  | case3 s hne token rest hone hlt n herror ih =>
    cases h
  | case4 s hne token rest hone hlt tokens hok ih =>
    cases h
    intro t ht
    rcases List.mem_append.1 ht with ht | ht
    · rw [Option.mem_toList] at ht
      rw [ht] at hone
      exact isRead_of_readOne? hone
    · exact ih hok t ht

theorem plain_text {t : TyToken} (h : t.IsRead) (hne : t ≠ .mark .closeBracket) : Plain t.text.toList := by
  cases t with
  | mark m =>
    by_cases hscope : m = .scope
    · subst hscope
      exact .mark (m := .colon) (by decide) (by decide) (.mark (m := .colon) (by decide) (by decide) .nil)
    · have hm : m ≠ .closeBracket := by simpa using hne
      simpa [text] using Plain.mark hm hscope .nil
  | word w =>
    have hchars : ∀ l : List Char, (∀ c ∈ l, Text.isNameChar c = true) → Plain l := by
      intro l hl
      induction l with
      | nil => exact .nil
      | cons c l ih => exact .word (hl c (by simp)) (ih fun d hd => hl d (by simp [hd]))
    exact hchars _ h.2
  | quoted s =>
    have hquoted : Plain ('"' :: (s.toList ++ ['"'])) := .quoted h .nil
    simpa [text] using hquoted

theorem text_ne_empty {t : TyToken} (h : t.IsRead) : t.text ≠ "" := by
  cases t with
  | mark m => cases m <;> decide
  | word w => exact h.1
  | quoted s => simp [text]

/-- The length of an array as it is put together from its tokens. -/
def IsLength (length : String) : Prop := length ≠ "" ∧ Plain length.toList

theorem isLength_join (hne : ts ≠ []) (h : ∀ t ∈ ts, t.IsRead) (hbracket : .mark .closeBracket ∉ ts) :
    IsLength (String.join (ts.map text)) := by
  constructor
  · cases ts with
    | nil => exact absurd rfl hne
    | cons t ts =>
      have ht := text_ne_empty (h t (by simp))
      simp [ht]
  · clear hne
    induction ts with
    | nil => exact .nil
    | cons t ts ih =>
      obtain ⟨hmark, hrest⟩ := not_or.1 (mt List.mem_cons.2 hbracket)
      have htext := plain_text (h t (by simp)) (Ne.symm hmark)
      rw [List.map_cons, String.join_cons, String.toList_append]
      exact htext.append (ih (fun u hu => h u (by simp [hu])) hrest)

theorem IsLength.exists_spells {length : String} (h : IsLength length) : ∃ ts, Spells length ts ∧ ts ≠ [] ∧
    .mark .closeBracket ∉ ts ∧ String.join (ts.map text) = length := by
  obtain ⟨ts, hspells, hbracket, hjoin⟩ := h.2.exists_spells
  rw [String.ofList_toList] at hspells hjoin
  refine ⟨ts, hspells, ?_, hbracket, hjoin⟩
  rintro rfl
  exact h.1 hjoin.symm

end TyToken

end CrateHeader
