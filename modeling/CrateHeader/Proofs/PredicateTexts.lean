import CrateHeader.Cfg.Reader
import CrateHeader.Proofs.Spelling

/-!
# Predicates written out and read again

The text of a predicate is read as that predicate as long as its names are words and no value has a quotation mark
in it. Every text that is read gives such a predicate, and conjunctions of such predicates are such predicates, so
nothing that comes from texts is lost by writing it out. `read_text` is this round trip.
-/

namespace CrateHeader

namespace CfgToken

variable {s rest : List Char} {t : CfgToken} {ts us : List CfgToken} {a b word held : String}

/-! ### One token -/

theorem readOne?_of_isBlank {c : Char} (h : Text.isBlank c = true) : readOne? (c :: s) = none := by
  have hname : Text.isNameStart c = false := by
    cases hc : Text.isNameStart c with
    | false => rfl
    | true =>
      have hnot := CToken.isBlank_of_isNameChar (CToken.isNameChar_of_isNameStart hc)
      rw [h] at hnot
      cases hnot
  unfold readOne?
  split
  case h_6 d tail _ _ _ _ _ heq =>
    cases heq
    rw [if_neg (by simp [hname])]
  case h_7 heq => cases heq
  -- No mark is a blank.
  all_goals
    rename_i heq
    rw [(List.cons.inj heq).1] at h
    exact absurd h (by decide)

theorem trimLeft_of_readOne? (h : readOne? s = some (t, rest)) : Text.trimLeft s = s := by
  cases s with
  | nil => rfl
  | cons c s =>
    cases hc : Text.isBlank c with
    | false => simp [Text.trimLeft, hc]
    | true =>
      rw [readOne?_of_isBlank hc] at h
      cases h

theorem readAll_nil : readAll [] = .ok [] := by
  rw [readAll]
  rfl

theorem readAll_of_readOne? (h : readOne? s = some (t, rest)) (hus : readAll rest = .ok us) :
    readAll s = .ok (t :: us) := by
  have hne : s ≠ [] := by
    rintro rfl
    cases h
  have htrim := trimLeft_of_readOne? h
  rw [readAll, if_neg hne]
  split
  · next hnone =>
    rw [htrim, h] at hnone
    cases hnone
  · next t' rest' hsome =>
    rw [htrim, h] at hsome
    cases hsome
    rw [hus]

theorem readAll_blank (hne : s ≠ []) (h : readAll s = .ok ts) : readAll (' ' :: s) = .ok ts := by
  have htrim : Text.trimLeft (' ' :: s) = Text.trimLeft s := rfl
  rw [readAll, if_neg hne] at h
  rw [readAll, if_neg (List.cons_ne_nil _ _)]
  split at h
  · cases h
  · next t rest hsome =>
    split
    · next hnone =>
      rw [htrim, hsome] at hnone
      cases hnone
    · next t' rest' hsome' =>
      rw [htrim, hsome] at hsome'
      cases hsome'
      exact h

theorem readOne?_name (hword : isWord word = true) (hrest : CToken.StartsApart rest) :
    readOne? (word.toList ++ rest) = some (.name word, rest) := by
  obtain ⟨c, cs, hcs, hc, hall⟩ := CToken.exists_of_isWord hword
  rw [hcs, List.cons_append]
  unfold readOne?
  split
  case h_6 d tail _ _ _ _ _ heq =>
    cases heq
    rw [if_pos hc, CToken.takeWhile_append hall hrest, CToken.dropWhile_append hall hrest, ← hcs, String.ofList_toList]
  case h_7 heq => cases heq
  -- No name starts with a mark.
  all_goals
    rename_i heq
    rw [(List.cons.inj heq).1] at hc
    exact absurd hc (by decide)

theorem readOne?_quoted (h : '"' ∉ held.toList) :
    readOne? ('"' :: (held.toList ++ '"' :: rest)) = some (.quoted held, rest) := by
  have hall : ∀ c ∈ held.toList, (c != '"') = true := by
    intro c hc
    rw [bne_iff_ne]
    rintro rfl
    exact h hc
  have hdrop : (held.toList ++ '"' :: rest).dropWhile (· != '"') = '"' :: rest := by
    rw [List.dropWhile_append_of_pos hall]
    rfl
  have htake : (held.toList ++ '"' :: rest).takeWhile (· != '"') = held.toList := by
    rw [List.takeWhile_append_of_pos hall]
    simp
  simp only [readOne?, hdrop, htake, String.ofList_toList]

/-! ### Pieces of a text -/

/-- The tokens of a text that no name runs on from. -/
def Spells (s : String) (ts : List CfgToken) : Prop :=
  ∀ rest us, CToken.StartsApart rest → readAll rest = .ok us → readAll (s.toList ++ rest) = .ok (ts ++ us)

theorem spells_name (h : isWord word = true) : Spells word [.name word] := fun _ _ hrest hus =>
  readAll_of_readOne? (readOne?_name h hrest) hus

theorem spells_empty : Spells "" [] := fun _ _ _ h => h

theorem Spells.ne_empty (h : Spells a ts) (hne : ts ≠ []) : a ≠ "" := by
  rintro rfl
  have hall := h [] [] (by simp [CToken.StartsApart]) readAll_nil
  rw [List.append_nil, List.append_nil] at hall
  exact hne (Except.ok.inj (hall.symm.trans readAll_nil))

theorem spells_value (hword : isWord word = true) (hheld : '"' ∉ held.toList) :
    Spells (word ++ " = \"" ++ held ++ "\"") [.name word, .equals, .quoted held] := by
  intro rest us _ hus
  have htext : (word ++ " = \"" ++ held ++ "\"").toList ++ rest =
      word.toList ++ ' ' :: '=' :: ' ' :: '"' :: (held.toList ++ '"' :: rest) := by simp
  have hquoted := readAll_of_readOne? (readOne?_quoted hheld) hus
  have hequals := readAll_of_readOne? (s := '=' :: ' ' :: '"' :: (held.toList ++ '"' :: rest)) rfl
    (readAll_blank (List.cons_ne_nil _ _) hquoted)
  rw [htext]
  exact readAll_of_readOne? (readOne?_name hword (CToken.startsApart_cons rfl))
    (readAll_blank (List.cons_ne_nil _ _) hequals)

variable (word) in
/-- A name with a list in parentheses behind it. -/
theorem Spells.called (hword : isWord word = true) (h : Spells a ts) :
    Spells (word ++ "(" ++ a ++ ")") (.name word :: .openParen :: (ts ++ [.closeParen])) := by
  intro rest us _ hus
  have htext : (word ++ "(" ++ a ++ ")").toList ++ rest = word.toList ++ '(' :: (a.toList ++ ')' :: rest) := by simp
  have hclose : readAll (')' :: rest) = .ok (.closeParen :: us) := readAll_of_readOne? rfl hus
  have hinner := h _ _ (CToken.startsApart_cons rfl) hclose
  have hopen := readAll_of_readOne? (s := '(' :: (a.toList ++ ')' :: rest)) rfl hinner
  rw [htext, readAll_of_readOne? (readOne?_name hword (CToken.startsApart_cons rfl)) hopen]
  simp

theorem Spells.listed (ha : Spells a ts) (hb : Spells b us) (hne : us ≠ []) :
    Spells (a ++ ", " ++ b) (ts ++ .comma :: us) := by
  intro rest vs hrest hvs
  have htext : (a ++ ", " ++ b).toList ++ rest = a.toList ++ ',' :: ' ' :: (b.toList ++ rest) := by simp
  have hstart : b.toList ++ rest ≠ [] := fun hnil =>
    hb.ne_empty hne (String.toList_eq_nil_iff.1 (List.append_eq_nil_iff.1 hnil).1)
  have hcomma := readAll_of_readOne? (s := ',' :: ' ' :: (b.toList ++ rest)) rfl
    (readAll_blank hstart (hb rest vs hrest hvs))
  rw [htext, ha _ _ (CToken.startsApart_cons rfl) hcomma, List.append_assoc, List.cons_append]

/-! ### Tokens that were read -/

/-- What a token that was read looks like. -/
def IsRead : CfgToken → Prop
  | name s => isWord s = true
  | quoted s => '"' ∉ s.toList
  | _ => True

theorem isRead_of_readOne? (h : readOne? s = some (t, rest)) : t.IsRead := by
  unfold readOne? at h
  split at h
  case h_5 tail =>
    split at h
    · cases h
      rw [IsRead, String.toList_ofList]
      intro hmem
      exact absurd (List.mem_takeWhile_imp hmem) (by decide)
    · cases h
  case h_6 c tail _ _ _ _ _ =>
    split at h
    · next hc =>
      cases h
      rw [IsRead, isWord, String.toList_ofList]
      exact Bool.and_eq_true_iff.2 ⟨hc, List.all_eq_true.2 fun d hd => List.mem_takeWhile_imp hd⟩
    · cases h
  case h_7 => cases h
  all_goals
    cases h
    trivial

theorem isRead_of_readAll (h : readAll s = .ok ts) : ∀ t ∈ ts, t.IsRead := by
  fun_induction readAll s generalizing ts with
  | case1 =>
    cases h
    simp
  | case2 => cases h
  | case3 => cases h
  | case4 s hne t rest hone hlt us hus ih =>
    cases h
    exact List.forall_mem_cons.2 ⟨isRead_of_readOne? hone, ih hus⟩

end CfgToken

namespace Cfg

variable {ts us rest : List CfgToken} {c item : Cfg} {cs items : List Cfg} {word held : String}

/-! ### Rules of the grammar -/

/-- What a reader makes of the tokens in front of the rest. -/
def Gives {α : Type} {tokens : List CfgToken} (r : Reading α tokens) (a : α) (rest : List CfgToken) : Prop :=
  ∃ h, r = .ok (a, ⟨rest, h⟩)

/-- Does neither a list in parentheses nor a value go on here? -/
def endsPredicate : List CfgToken → Bool
  | .openParen :: _ | .equals :: _ => false
  | _ => true

theorem predicate_flag (hrest : endsPredicate rest = true) :
    Gives (readPredicate (.name word :: rest)) (flag word) rest := by
  refine ⟨by simp, ?_⟩
  rw [readPredicate]
  · rintro left rfl
    cases hrest
  · rintro v left rfl
    cases hrest
  · rintro rfl
    cases hrest
  · rintro left rfl
    cases hrest

theorem predicate_value :
    Gives (readPredicate (.name word :: .equals :: .quoted held :: rest)) (value word held) rest :=
  ⟨by simp; omega, by rw [readPredicate]⟩

theorem predicate_all (h : Gives (readItems ts) items rest) :
    Gives (readPredicate (.name "all" :: .openParen :: ts)) (all items) rest := by
  obtain ⟨hlt, heq⟩ := h
  refine ⟨by simp; omega, ?_⟩
  rw [readPredicate, if_pos (.inl rfl), heq]
  rfl

theorem predicate_any (h : Gives (readItems ts) items rest) :
    Gives (readPredicate (.name "any" :: .openParen :: ts)) (any items) rest := by
  obtain ⟨hlt, heq⟩ := h
  refine ⟨by simp; omega, ?_⟩
  rw [readPredicate, if_pos (.inr (.inl rfl)), heq]
  rfl

theorem predicate_not (h : Gives (readItems ts) [item] rest) :
    Gives (readPredicate (.name "not" :: .openParen :: ts)) (not item) rest := by
  obtain ⟨hlt, heq⟩ := h
  refine ⟨by simp; omega, ?_⟩
  rw [readPredicate, if_pos (.inr (.inr rfl)), heq]
  rfl

theorem items_nil : Gives (readItems (.closeParen :: rest)) [] rest := ⟨by simp, by rw [readItems]⟩

theorem items_last (hts : ∀ us, ts ≠ .closeParen :: us) (h : Gives (readPredicate ts) item (.closeParen :: rest)) :
    Gives (readItems ts) [item] rest := by
  obtain ⟨hlt, heq⟩ := h
  refine ⟨by simp at hlt; omega, ?_⟩
  rw [readItems, heq]
  · rfl
  · exact hts

theorem items_cons (hts : ∀ us, ts ≠ .closeParen :: us) (h : Gives (readPredicate ts) item (.comma :: us))
    (hrest : Gives (readItems us) items rest) : Gives (readItems ts) (item :: items) rest := by
  obtain ⟨hlt₁, heq₁⟩ := h
  obtain ⟨hlt₂, heq₂⟩ := hrest
  refine ⟨by simp at hlt₁; omega, ?_⟩
  rw [readItems, heq₁]
  · show (readItems us >>= _) = _
    rw [heq₂]
    rfl
  · exact hts

/-! ### The tokens of a predicate -/

mutual
/-- The tokens that the text of a predicate is made of. -/
def tokens : Cfg → List CfgToken
  | flag name => [.name name]
  | value key v => [.name key, .equals, .quoted v]
  | all items => .name "all" :: .openParen :: (tokensAll items ++ [.closeParen])
  | any items => .name "any" :: .openParen :: (tokensAll items ++ [.closeParen])
  | not item => .name "not" :: .openParen :: (item.tokens ++ [.closeParen])

/-- The tokens of several predicates, with commas between them. -/
def tokensAll : List Cfg → List CfgToken
  | [] => []
  | [c] => c.tokens
  | c :: d :: rest => c.tokens ++ .comma :: tokensAll (d :: rest)
end

/-- The tokens of a predicate begin with a name. -/
theorem exists_tokens (c : Cfg) : ∃ name ts, c.tokens = .name name :: ts := by
  cases c <;> exact ⟨_, _, by rw [tokens]⟩

theorem tokens_ne_nil (c : Cfg) : c.tokens ≠ [] := by
  obtain ⟨name, ts, hts⟩ := c.exists_tokens
  rw [hts]
  exact List.cons_ne_nil _ _

theorem tokensAll_ne_nil : (cs : List Cfg) → cs ≠ [] → tokensAll cs ≠ []
  | [], h => absurd rfl h
  | [c], _ => by
    rw [tokensAll]
    exact c.tokens_ne_nil
  | c :: d :: rest, _ => by
    rw [tokensAll]
    exact List.append_ne_nil_of_left_ne_nil c.tokens_ne_nil _

theorem tokens_append_ne_closeParen (c : Cfg) (ts us : List CfgToken) : c.tokens ++ ts ≠ .closeParen :: us := by
  obtain ⟨name, left, hleft⟩ := c.exists_tokens
  rw [hleft]
  exact fun h => CfgToken.noConfusion (List.cons.inj h).1

mutual
/-- A predicate is read from its tokens, whatever follows them that does not go on. -/
theorem readPredicate_tokens : (c : Cfg) → (rest : List CfgToken) → endsPredicate rest = true →
    Gives (readPredicate (c.tokens ++ rest)) c rest
  | flag name, rest, hrest => by
    rw [tokens]
    exact predicate_flag hrest
  | value key v, rest, _ => by
    rw [tokens]
    exact predicate_value
  | all items, rest, _ => by
    rw [tokens, List.cons_append, List.cons_append, List.append_assoc]
    exact predicate_all (readItems_tokensAll items rest)
  | any items, rest, _ => by
    rw [tokens, List.cons_append, List.cons_append, List.append_assoc]
    exact predicate_any (readItems_tokensAll items rest)
  | not item, rest, _ => by
    rw [tokens, List.cons_append, List.cons_append, List.append_assoc]
    have hitem := readPredicate_tokens item (.closeParen :: rest) rfl
    exact predicate_not (items_last (item.tokens_append_ne_closeParen _) hitem)

theorem readItems_tokensAll : (cs : List Cfg) → (rest : List CfgToken) →
    Gives (readItems (tokensAll cs ++ ([.closeParen] ++ rest))) cs rest
  | [], rest => items_nil
  | [c], rest => by
    rw [tokensAll]
    have hitem := readPredicate_tokens c (.closeParen :: rest) rfl
    exact items_last (c.tokens_append_ne_closeParen _) hitem
  | c :: d :: others, rest => by
    rw [tokensAll, List.append_assoc, List.cons_append]
    have hitem := readPredicate_tokens c (.comma :: (tokensAll (d :: others) ++ ([.closeParen] ++ rest))) rfl
    exact items_cons (c.tokens_append_ne_closeParen _) hitem (readItems_tokensAll (d :: others) rest)
end

/-! ### Predicates that can be written out -/

/-- All names among some leaves are words, and no value has a quotation mark in it. -/
structure ArePlain (leaves : List Cfg) : Prop where
  flags : ∀ name, flag name ∈ leaves → isWord name = true
  keys : ∀ key v, value key v ∈ leaves → isWord key = true
  values : ∀ key v, value key v ∈ leaves → '"' ∉ v.toList

/-- A predicate whose flags and keys are words and whose values have no quotation mark in them. -/
def IsPlain (c : Cfg) : Prop := ArePlain c.leaves

theorem ArePlain.mono {ls ms : List Cfg} (h : ArePlain ms) (hsub : ls ⊆ ms) : ArePlain ls where
  flags name hname := h.flags name (hsub hname)
  keys key v hvalue := h.keys key v (hsub hvalue)
  values key v hvalue := h.values key v (hsub hvalue)

theorem arePlain_append {ls ms : List Cfg} : ArePlain (ls ++ ms) ↔ ArePlain ls ∧ ArePlain ms := by
  constructor
  · exact fun h => ⟨h.mono (List.subset_append_left ls ms), h.mono (List.subset_append_right ls ms)⟩
  · rintro ⟨hls, hms⟩
    refine ⟨fun name hname => ?_, fun key v hvalue => ?_, fun key v hvalue => ?_⟩
    · exact (List.mem_append.1 hname).elim (hls.flags name) (hms.flags name)
    · exact (List.mem_append.1 hvalue).elim (hls.keys key v) (hms.keys key v)
    · exact (List.mem_append.1 hvalue).elim (hls.values key v) (hms.values key v)

mutual
theorem spells_text : (c : Cfg) → c.IsPlain → CfgToken.Spells c.text c.tokens
  | flag name, h => by
    rw [text, tokens]
    exact CfgToken.spells_name (h.flags name (by simp [leaves]))
  | value key v, h => by
    rw [text, tokens]
    exact CfgToken.spells_value (h.keys key v (by simp [leaves])) (h.values key v (by simp [leaves]))
  | all items, h => by
    rw [text, tokens]
    exact .called "all" (by decide) (spells_textAll items h)
  | any items, h => by
    rw [text, tokens]
    exact .called "any" (by decide) (spells_textAll items h)
  | not item, h => by
    rw [text, tokens]
    exact .called "not" (by decide) (spells_text item h)

theorem spells_textAll : (cs : List Cfg) → ArePlain (leavesAll cs) →
    CfgToken.Spells (", ".intercalate (textAll cs)) (tokensAll cs)
  | [], _ => CfgToken.spells_empty
  | [c], h => by
    rw [textAll, textAll, String.intercalate_singleton, tokensAll]
    rw [leavesAll, arePlain_append] at h
    exact spells_text c h.1
  | c :: d :: rest, h => by
    rw [leavesAll, arePlain_append] at h
    have hrest := spells_textAll (d :: rest) h.2
    rw [textAll, textAll, String.intercalate_cons_cons, tokensAll]
    rw [textAll] at hrest
    exact (spells_text c h.1).listed hrest (tokensAll_ne_nil _ (List.cons_ne_nil d rest))
end

theorem stripRight_text (h : c.IsPlain) : Text.stripRight c.text = c.text := by
  cases c with
  | flag name => exact CToken.stripRight_of_isWord (h.flags name (by simp [leaves]))
  | value key v => exact CToken.stripRight_append_of_last _ rfl (by decide)
  | all items => exact CToken.stripRight_append_of_last _ rfl (by decide)
  | any items => exact CToken.stripRight_append_of_last _ rfl (by decide)
  | not item => exact CToken.stripRight_append_of_last _ rfl (by decide)

/-! ### Predicates that were read -/

theorem arePlain_nil : ArePlain [] := ⟨by simp, by simp, by simp⟩

theorem isPlain_flag (h : isWord word = true) : (flag word).IsPlain :=
  ⟨by simp [leaves, h], by simp [leaves], by simp [leaves]⟩

theorem isPlain_value (hword : isWord word = true) (hheld : '"' ∉ held.toList) : (value word held).IsPlain :=
  ⟨by simp [leaves], by simp [leaves, hword], by simp [leaves, hheld]⟩

/-- From tokens that were read, a reader makes something with plain leaves, and it leaves such tokens. -/
def Sound {α : Type} {tokens : List CfgToken} (r : Reading α tokens) (leaves : α → List Cfg) : Prop :=
  (∀ t ∈ tokens, t.IsRead) → ∀ a rest, Gives r a rest → ArePlain (leaves a) ∧ ∀ t ∈ rest, t.IsRead

theorem sound_error {α : Type} {tokens : List CfgToken} {r : Reading α tokens} {leaves : α → List Cfg}
    {error : CfgSyntaxError} (h : r = .error error) : Sound r leaves := by
  rintro - a rest ⟨hlt, heq⟩
  rw [h] at heq
  cases heq

theorem sound_flag (h : Gives (readPredicate (.name word :: rest)) (flag word) rest) :
    Sound (readPredicate (.name word :: rest)) leaves := by
  rintro hread a left ⟨hlt', heq'⟩
  obtain ⟨hlt, heq⟩ := h
  rw [heq] at heq'
  cases heq'
  obtain ⟨hword, hrest⟩ := List.forall_mem_cons.1 hread
  exact ⟨isPlain_flag hword, hrest⟩

theorem sound_call (hword : word = "all" ∨ word = "any" ∨ word = "not") (ih : Sound (readItems ts) leavesAll) :
    Sound (readPredicate (.name word :: .openParen :: ts)) leaves := by
  rintro hread c rest ⟨hlt, heq⟩
  have hts : ∀ t ∈ ts, t.IsRead := fun t ht => hread t (by simp [ht])
  rw [readPredicate, if_pos hword] at heq
  cases hitems : readItems ts with
  | error e =>
    rw [hitems] at heq
    cases heq
  | ok found =>
    obtain ⟨items, left, hleft⟩ := found
    obtain ⟨hplain, hrest⟩ := ih hts items left ⟨hleft, hitems⟩
    rw [hitems] at heq
    dsimp only [bind, Except.bind] at heq
    split at heq
    · cases heq
      exact ⟨hplain, hrest⟩
    split at heq
    · cases heq
      exact ⟨hplain, hrest⟩
    split at heq
    · cases heq
      refine ⟨hplain.mono ?_, hrest⟩
      simp [leaves, leavesAll]
    · cases heq

theorem sound_items (hts : ∀ us, ts ≠ .closeParen :: us) (ihitem : Sound (readPredicate ts) leaves)
    (ih : ∀ us, us.length + 1 < ts.length → Sound (readItems us) leavesAll) : Sound (readItems ts) leavesAll := by
  rintro hread items rest ⟨hlt, heq⟩
  rw [readItems] at heq
  · cases hitem : readPredicate ts with
    | error e =>
      rw [hitem] at heq
      cases heq
    | ok found =>
      obtain ⟨item, left, hleft⟩ := found
      obtain ⟨hplain, hrest⟩ := ihitem hread item left ⟨hleft, hitem⟩
      rw [hitem] at heq
      dsimp only [bind, Except.bind] at heq
      split at heq
      · next us hus =>
        cases hothers : readItems us with
        | error e =>
          rw [hothers] at heq
          cases heq
        | ok found =>
          obtain ⟨others, left, hleft⟩ := found
          rw [hothers] at heq
          cases heq
          obtain ⟨hall, hrest⟩ := ih us hus (fun t ht => hrest t (List.mem_cons_of_mem _ ht)) others _ ⟨hleft, hothers⟩
          rw [leavesAll, arePlain_append]
          exact ⟨⟨hplain, hall⟩, hrest⟩
      · cases heq
        rw [leavesAll, leavesAll, List.append_nil]
        exact ⟨hplain, fun t ht => hrest t (List.mem_cons_of_mem _ ht)⟩
      · cases heq
  · exact hts

theorem sound_readers : (∀ ts, Sound (readPredicate ts) leaves) ∧ ∀ ts, Sound (readItems ts) leavesAll := by
  apply readPredicate.mutual_induct
  case case1 => exact sound_error (by rw [readPredicate])
  case case2 => exact fun word ts hword ih => sound_call hword ih
  case case3 =>
    intro word ts hword
    exact sound_flag ⟨by simp, by rw [readPredicate, if_neg hword]⟩
  case case4 =>
    rintro word held ts hread c rest ⟨hlt, heq⟩
    rw [readPredicate] at heq
    cases heq
    refine ⟨isPlain_value (hread (.name word) (by simp)) (hread (.quoted held) (by simp)), fun t ht => ?_⟩
    exact hread t (by simp [ht])
  case case5 => exact fun word => sound_error (by rw [readPredicate])
  case case6 =>
    intro word ts hquoted hnil
    exact sound_error (by rw [readPredicate] <;> assumption)
  case case7 =>
    intro word ts hopen hvalue hend hequals
    exact sound_flag ⟨by simp, by rw [readPredicate] <;> assumption⟩
  case case8 =>
    intro token ts h₁ h₂ h₃ h₄ h₅
    exact sound_error (by rw [readPredicate] <;> assumption)
  case case9 =>
    rintro ts hread items rest ⟨hlt, heq⟩
    rw [readItems] at heq
    cases heq
    exact ⟨arePlain_nil, fun t ht => hread t (List.mem_cons_of_mem _ ht)⟩
  case case10 =>
    intro ts hts ihitem ih
    exact sound_items hts ihitem fun us hus => ih (.comma :: us) us hus

theorem isPlain_of_finish {d : Cfg} (h : finish c ts = .ok d) (hplain : c.IsPlain) : d.IsPlain := by
  cases ts with
  | nil =>
    cases h
    exact hplain
  | cons t ts => cases h

theorem isPlain_of_ofTokens (hread : ∀ t ∈ ts, t.IsRead) (h : ofTokens ts = .ok c) : c.IsPlain := by
  unfold ofTokens at h
  cases hfirst : readPredicate ts with
  | error e =>
    rw [hfirst] at h
    cases h
  | ok found =>
    obtain ⟨d, left, hleft⟩ := found
    obtain ⟨hplain, hrest⟩ := sound_readers.1 ts hread d left ⟨hleft, hfirst⟩
    rw [hfirst] at h
    dsimp only [bind, Except.bind] at h
    split at h
    · next inside =>
      -- inside `cfg(...)`
      cases hinside : readPredicate inside with
      | error e =>
        rw [hinside] at h
        cases h
      | ok found =>
        obtain ⟨d, left, hleft⟩ := found
        have hall : ∀ t ∈ inside, t.IsRead := fun t ht => hrest t (List.mem_cons_of_mem _ ht)
        obtain ⟨hplain, -⟩ := sound_readers.1 inside hall d left ⟨hleft, hinside⟩
        rw [hinside] at h
        dsimp only at h
        split at h
        · cases h
        · exact isPlain_of_finish h hplain
        · cases h
    · exact isPlain_of_finish h hplain

theorem isPlain_of_read {s : String} (h : read s = .ok c) : c.IsPlain := by
  simp only [read] at h
  split at h
  · cases h
  · next ts hts => exact isPlain_of_ofTokens (CfgToken.isRead_of_readAll hts) h

theorem ofTokens_tokens (c : Cfg) : ofTokens c.tokens = .ok c := by
  have hgives := readPredicate_tokens c [] rfl
  rw [List.append_nil] at hgives
  obtain ⟨hlt, heq⟩ := hgives
  unfold ofTokens
  rw [heq]
  dsimp only [bind, Except.bind]
  split
  · next hnil => cases hnil
  · rfl

/-- A predicate is read from its text exactly if it is plain. -/
theorem read_text_iff (c : Cfg) : read c.text = .ok c ↔ c.IsPlain := by
  refine ⟨isPlain_of_read, fun h => ?_⟩
  have htrim : Text.trimRight c.text.toList = c.text.toList := by
    have hstrip := congrArg String.toList (stripRight_text h)
    rwa [Text.stripRight, String.toList_ofList] at hstrip
  have hspells := spells_text c h [] [] (by simp [CToken.StartsApart]) CfgToken.readAll_nil
  rw [List.append_nil, List.append_nil] at hspells
  simp only [read, htrim, hspells, ofTokens_tokens]

/-! ### Conjunctions -/

theorem arePlain_leavesAll : ArePlain (leavesAll cs) ↔ ∀ c ∈ cs, c.IsPlain := by
  induction cs with
  | nil => exact iff_of_true arePlain_nil (by simp)
  | cons c rest ih => rw [leavesAll, arePlain_append, ih, List.forall_mem_cons, IsPlain]

theorem isPlain_conjuncts (h : c.IsPlain) : ∀ d ∈ c.conjuncts, d.IsPlain := by
  cases c with
  | all items => exact arePlain_leavesAll.1 h
  | _ => simpa [conjuncts] using h

theorem mem_addNew {d : Cfg} (h : d ∈ addNew items cs) : d ∈ items ∨ d ∈ cs := by
  induction cs generalizing items with
  | nil => exact .inl h
  | cons c rest ih =>
    rcases ih h with hd | hd
    · split at hd
      · exact .inl hd
      · rcases List.mem_append.1 hd with hd | hd
        · exact .inl hd
        · exact .inr (List.mem_cons.2 (.inl (List.mem_singleton.1 hd)))
    · exact .inr (List.mem_cons_of_mem c hd)

theorem isPlain_join {parts : List (Option Cfg)} (h : ∀ d, some d ∈ parts → d.IsPlain) (hjoin : join parts = some c) :
    c.IsPlain := by
  have hall : ∀ d ∈ parts.foldl (fun items part => addNew items ((part.map conjuncts).getD [])) [], d.IsPlain := by
    refine List.foldlRecOn (motive := fun items : List Cfg => ∀ d ∈ items, d.IsPlain) parts _ (List.forall_mem_nil _)
      fun items hitems part hpart d hd => ?_
    rcases mem_addNew hd with hd | hd
    · exact hitems d hd
    · cases part with
      | none => cases hd
      | some whole => exact isPlain_conjuncts (h whole hpart) d hd
  unfold join at hjoin
  split at hjoin
  · cases hjoin
  · next hitems =>
    cases hjoin
    exact hall c (by simp [hitems])
  · cases hjoin
    exact arePlain_leavesAll.2 hall

/-- What texts give: the predicates that are read, and the conjunctions of such. -/
inductive ComesFromTexts : Cfg → Prop where
  | read {s : String} {c : Cfg} : read s = .ok c → ComesFromTexts c
  | join {parts : List (Option Cfg)} {c : Cfg} :
    (∀ d, some d ∈ parts → ComesFromTexts d) → join parts = some c → ComesFromTexts c

theorem ComesFromTexts.isPlain (h : c.ComesFromTexts) : c.IsPlain := by
  induction h with
  | read h => exact isPlain_of_read h
  | join _ hjoin ih => exact isPlain_join ih hjoin

/-- Predicates whose flags and keys are words and whose values have no quotation mark are read from their texts as
they were, and they are the only ones. Everything that is read and everything that is joined from it is such. -/
theorem read_text :
    (∀ c : Cfg, read c.text = .ok c ↔ c.IsPlain) ∧
      ∀ c : Cfg, c.ComesFromTexts → c.IsPlain ∧ read c.text = .ok c :=
  ⟨read_text_iff, fun c h => ⟨h.isPlain, (read_text_iff c).2 h.isPlain⟩⟩

/-- Names of operators where no operator can stand, and marks inside a value. -/
def gate : Cfg := all [flag "cfg", any [], not (flag "all"), value "not" " a,b)\n( = "]

theorem isPlain_gate : gate.IsPlain := by
  refine ⟨fun name h => ?_, fun key v h => ?_, fun key v h => ?_⟩
  · obtain rfl | rfl : name = "cfg" ∨ name = "all" := by simpa [gate, leaves, leavesAll] using h
    · decide
    · decide
  · obtain ⟨rfl, rfl⟩ : key = "not" ∧ v = " a,b)\n( = " := by simpa [gate, leaves, leavesAll] using h
    decide
  · obtain ⟨rfl, rfl⟩ : key = "not" ∧ v = " a,b)\n( = " := by simpa [gate, leaves, leavesAll] using h
    decide

theorem read_text_gate :
    let joined := all [flag "cfg", any [], not (flag "all"), value "not" " a,b)\n( = ", flag "unix"]
    gate.text = "all(cfg, any(), not(all), not = \" a,b)\n( = \")" ∧ gate.IsPlain ∧ read gate.text = .ok gate ∧
      joined.ComesFromTexts ∧ read joined.text = .ok joined := by
  intro joined
  have hunix : read "unix" = .ok (flag "unix") := (read_text.1 (flag "unix")).2 (isPlain_flag (by decide))
  have hgate : read gate.text = .ok gate := (read_text.1 gate).2 isPlain_gate
  have hjoined : joined.ComesFromTexts := by
    have hjoin : join [some gate, none, some (flag "unix")] = some joined := by decide
    refine .join (fun d hd => ?_) hjoin
    obtain rfl | rfl : d = gate ∨ d = flag "unix" := by simpa using hd
    · exact .read hgate
    · exact .read hunix
  exact ⟨by decide, isPlain_gate, hgate, hjoined, (read_text.2 joined hjoined).2⟩

end Cfg

end CrateHeader
