import CrateHeader.Proofs.Spelling

/-!
# The rules of C's grammar

What the reader of declarations does with each form of a declarator, as the grammar tells it, and from that what
happens when a declarator is written around an identifier layer by layer. The text so far is at each moment
either one behind which an array length or a parameter list may be put, or one with a pointer in front that
has to be put in parentheses first.
-/

namespace CrateHeader

namespace CType

variable {types : String → Bool} {ts us rest left : List CToken} {ident : Option String}
  {make inner outer : CType → CType}

/-! ### Rules of the grammar -/

/-- What a reader makes of the tokens in front of the rest. -/
def Yields {α : Type} {tokens : List CToken} (r : Reading α tokens) (a : α) (rest : List CToken) : Prop :=
  ∃ h, r = some (a, ⟨rest, h⟩)

/-- Does a declarator end here? -/
def isEnd : List CToken → Bool
  | [] | .closeParen :: _ | .comma :: _ => true
  | _ => false

theorem postfix_of_isEnd (h : isEnd rest = true) : Yields (readPostfix types rest) id rest := by
  unfold readPostfix
  split
  · cases h
  · cases h
  · exact ⟨_, rfl⟩

theorem postfix_bracketed {length : String} (h : Yields (readPostfix types rest) make left) :
    Yields (readPostfix types (.bracketed length :: rest)) (fun t => array (make t) length) left := by
  obtain ⟨hle, heq⟩ := h
  refine ⟨Nat.le_succ_of_le hle, ?_⟩
  rw [readPostfix, heq]
  rfl

theorem postfix_params {params : List (Option String × CType)} {variadic : Bool}
    (hparams : Yields (readParams types us) (params, variadic) rest)
    (h : Yields (readPostfix types rest) make left) :
    Yields (readPostfix types (.openParen :: us))
      (fun t => function (withoutVoid params) variadic (make t)) left := by
  obtain ⟨hle₁, heq₁⟩ := hparams
  obtain ⟨hle₂, heq₂⟩ := h
  refine ⟨Nat.le_succ_of_le (Nat.le_trans hle₂ hle₁), ?_⟩
  rw [readPostfix, heq₁]
  simp only [Option.bind_eq_bind, Option.bind_some, heq₂]

theorem direct_word {s : String} (hs : s ∉ cKeywords) (h : Yields (readPostfix types rest) make left) :
    Yields (readDirect types (.word s :: rest)) (some s, make) left := by
  obtain ⟨hle, heq⟩ := h
  refine ⟨Nat.le_succ_of_le hle, ?_⟩
  rw [readDirect, if_neg (by simpa using hs), heq]
  rfl

theorem direct_parens (hstart : startsParams types ts = false)
    (hinner : Yields (readDeclarator types ts) (ident, inner) (.closeParen :: rest))
    (h : Yields (readPostfix types rest) outer left) :
    Yields (readDirect types (.openParen :: ts)) (ident, fun t => inner (outer t)) left := by
  obtain ⟨hle₁, heq₁⟩ := hinner
  obtain ⟨hle₂, heq₂⟩ := h
  refine ⟨by simp at hle₁ ⊢; omega, ?_⟩
  rw [readDirect, if_neg (by simp [hstart]), heq₁]
  simp only [Option.bind_eq_bind, Option.bind_some, heq₂]

/-- Nothing is declared where an array length follows or the declarator ends. -/
def isBare : List CToken → Bool
  | .word _ :: _ | .openParen :: _ | .star :: _ => false
  | _ => true

theorem isBare_of_isEnd (h : isEnd rest = true) : isBare rest = true := by
  unfold isEnd at h
  split at h
  · rfl
  · rfl
  · rfl
  · cases h

theorem direct_bare (hbare : isBare ts = true) (h : Yields (readPostfix types ts) make left) :
    Yields (readDirect types ts) (none, make) left := by
  obtain ⟨hle, heq⟩ := h
  refine ⟨hle, ?_⟩
  unfold readDirect
  split
  · cases hbare
  · cases hbare
  · rw [heq]
    rfl

theorem declarator_of_direct (hstart : ts.head? ≠ some .star)
    (h : Yields (readDirect types ts) (ident, make) left) :
    Yields (readDeclarator types ts) (ident, make) left := by
  obtain ⟨hle, heq⟩ := h
  refine ⟨hle, ?_⟩
  unfold readDeclarator
  split
  · exact absurd rfl hstart
  · exact absurd rfl hstart
  · exact heq

theorem declarator_constPointer (h : Yields (readDeclarator types ts) (ident, make) left) :
    Yields (readDeclarator types (.star :: .word "const" :: ts))
      (ident, fun t => make (pointer true t)) left := by
  obtain ⟨hle, heq⟩ := h
  refine ⟨by simp; omega, ?_⟩
  rw [readDeclarator, heq]
  rfl

theorem declarator_mutPointer (hconst : ts.head? ≠ some (.word "const"))
    (h : Yields (readDeclarator types ts) (ident, make) left) :
    Yields (readDeclarator types (.star :: ts)) (ident, fun t => make (pointer false t)) left := by
  obtain ⟨hle, heq⟩ := h
  refine ⟨Nat.le_succ_of_le hle, ?_⟩
  rw [readDeclarator, heq]
  · rfl
  · rintro rest rfl
    exact absurd rfl hconst

theorem declarator_pointer (isConst : Bool) (hconst : ts.head? ≠ some (.word "const"))
    (h : Yields (readDeclarator types ts) (ident, make) left) :
    Yields (readDeclarator types (CToken.pointerTokens isConst ++ ts))
      (ident, fun t => make (pointer isConst t)) left := by
  cases isConst with
  | true => exact declarator_constPointer h
  | false => exact declarator_mutPointer hconst h

theorem params_last {param : Option String × CType} (hstart : ts.head? ≠ some .ellipsis)
    (h : Yields (readDeclaration types ts) param (.closeParen :: left)) :
    Yields (readParams types ts) ([param], false) left := by
  obtain ⟨hle, heq⟩ := h
  refine ⟨by simp at hle; omega, ?_⟩
  unfold readParams
  split
  · exact absurd rfl hstart
  · rw [heq]
    rfl

theorem params_comma {param : Option String × CType} {params : List (Option String × CType)}
    {variadic : Bool} (hstart : ts.head? ≠ some .ellipsis)
    (h : Yields (readDeclaration types ts) param (.comma :: rest))
    (hrest : Yields (readParams types rest) (params, variadic) left) :
    Yields (readParams types ts) (param :: params, variadic) left := by
  obtain ⟨hle₁, heq₁⟩ := h
  obtain ⟨hle₂, heq₂⟩ := hrest
  refine ⟨by simp at hle₁; omega, ?_⟩
  unfold readParams
  split
  · exact absurd rfl hstart
  · rw [heq₁]
    simp only [Option.bind_eq_bind, Option.bind_some, heq₂]

theorem declaration_of_specifiers {isConst : Bool} {words : List String} (hwords : words ≠ [])
    (hspec : readSpecifiers false [] ts = ((isConst, words), rest))
    (h : Yields (readDeclarator types rest) (ident, make) left) :
    Yields (readDeclaration types ts) (ident, make (base isConst (" ".intercalate words))) left := by
  have hrest : Yields (readDeclarator types (readSpecifiers false [] ts).2) (ident, make) left := by
    rw [hspec]
    exact h
  obtain ⟨hle, heq⟩ := hrest
  refine ⟨Nat.le_trans hle (length_readSpecifiers false [] ts), ?_⟩
  unfold readDeclaration
  simp only [heq, hspec, if_neg hwords, Option.bind_eq_bind, Option.bind_some]

/-! ### Declarators in the making -/

/-- Tokens that declare an identifier as long as nothing is put behind them. -/
structure IsDeclarator (types : String → Bool) (ts : List CToken) (ident : Option String)
    (make : CType → CType) : Prop where
  plain : ∀ s, ts.head? = some (.word s) → s ∉ cKeywords
  reads : ∀ rest, isEnd rest = true → Yields (readDeclarator types (ts ++ rest)) (ident, make) rest

/-- Tokens that declare an identifier whatever is put behind them. Behind no tokens at all it must be
something that does not look like a declarator in parentheses. -/
structure IsDirect (types : String → Bool) (ts : List CToken) (ident : Option String)
    (make : CType → CType) : Prop where
  first : ts.head? ≠ some .star
  plain : ∀ s, ts.head? = some (.word s) → s ∉ cKeywords
  reads : ∀ rest outer left, (ts = [] → isBare rest = true) → Yields (readPostfix types rest) outer left →
    Yields (readDirect types (ts ++ rest)) (ident, fun t => make (outer t)) left

theorem isDirect_nil : IsDirect types [] none id where
  first := by simp
  plain := by simp
  reads _ _ _ hbare h := direct_bare (hbare rfl) h

theorem isDirect_word {s : String} (hs : s ∉ cKeywords) : IsDirect types [.word s] (some s) id where
  first := by simp
  plain := by
    rintro _ ⟨rfl⟩
    exact hs
  reads _ _ _ _ h := direct_word hs h

theorem head?_append_singleton {t u : CToken} (h : (ts ++ [t]).head? = some u) :
    ts.head? = some u ∨ u = t := by
  cases ts with
  | nil => exact .inr (Option.some.inj h).symm
  | cons v ts => exact .inl h

theorem IsDirect.indexed (h : IsDirect types ts ident make) (length : String) :
    IsDirect types (ts ++ [.bracketed length]) ident (fun t => make (array t length)) where
  first hstar := by
    rcases head?_append_singleton hstar with hstar | heq
    · exact h.first hstar
    · cases heq
  plain s hs := by
    rcases head?_append_singleton hs with hs | heq
    · exact h.plain s hs
    · cases heq
  reads rest outer left _ hrest := by
    rw [List.append_assoc]
    exact h.reads _ _ _ (fun _ => rfl) (postfix_bracketed hrest)

theorem IsDirect.called {params : List (Option String × CType)} {variadic : Bool}
    (h : IsDirect types ts ident make) (hne : ts ≠ [])
    (hparams : ∀ rest, Yields (readParams types (us ++ .closeParen :: rest)) (params, variadic) rest) :
    IsDirect types (ts ++ (.openParen :: us ++ [.closeParen])) ident
      (fun t => make (function (withoutVoid params) variadic t)) where
  first := by
    cases ts with
    | nil => exact absurd rfl hne
    | cons t ts => exact h.first
  plain := by
    cases ts with
    | nil => exact absurd rfl hne
    | cons t ts => exact h.plain
  reads rest outer left _ hrest := by
    have htokens : ts ++ (.openParen :: us ++ [.closeParen]) ++ rest =
        ts ++ (.openParen :: (us ++ .closeParen :: rest)) := by simp
    rw [htokens]
    exact h.reads _ _ _ (fun hnil => absurd hnil hne) (postfix_params (hparams rest) hrest)

theorem IsDirect.isDeclarator (h : IsDirect types ts ident make) : IsDeclarator types ts ident make where
  plain := h.plain
  reads rest hend := by
    refine declarator_of_direct ?_
      (h.reads rest id rest (fun _ => isBare_of_isEnd hend) (postfix_of_isEnd hend))
    cases ts with
    | nil =>
      rintro hstar
      cases rest with
      | nil => cases hstar
      | cons t rest => cases hstar; cases hend
    | cons t ts => exact h.first

/-- No keyword stands where a declarator is to end. -/
theorem IsDeclarator.plain_append (h : IsDeclarator types ts ident make) (hend : isEnd rest = true)
    {s : String} (hs : (ts ++ rest).head? = some (.word s)) : s ∉ cKeywords := by
  cases ts with
  | nil =>
    cases rest with
    | nil => cases hs
    | cons t rest => cases hs; cases hend
  | cons t ts => exact h.plain s hs

theorem IsDeclarator.pointer (h : IsDeclarator types ts ident make) (isConst : Bool) :
    IsDeclarator types (CToken.pointerTokens isConst ++ ts) ident
      (fun t => make (pointer isConst t)) where
  plain s hs := by cases isConst <;> cases hs
  reads rest hend := by
    rw [List.append_assoc]
    exact declarator_pointer isConst (fun hconst => h.plain_append hend hconst (by decide))
      (h.reads rest hend)

theorem IsDeclarator.parens (h : IsDeclarator types ts ident make) (hstar : ts.head? = some .star) :
    IsDirect types (.openParen :: ts ++ [.closeParen]) ident make where
  first := by simp
  plain := by simp
  reads rest outer left _ hrest := by
    have htokens : .openParen :: ts ++ [.closeParen] ++ rest = .openParen :: (ts ++ .closeParen :: rest) := by
      simp
    have hstart : startsParams types (ts ++ .closeParen :: rest) = false := by
      obtain ⟨us, rfl⟩ := List.head?_eq_some_iff.1 hstar
      rfl
    rw [htokens]
    exact direct_parens hstart (h.reads _ rfl) hrest

/-! ### Specifiers -/

/-- Words that name a type: keywords of types, or one name that is no keyword. -/
structure IsSpecifier (words : List String) : Prop where
  nonempty : words ≠ []
  word : ∀ w ∈ words, isWord w = true
  kind : (∀ w ∈ words, typeWords.contains w = true) ∨ ∃ w, words = [w] ∧ w ∉ cKeywords

theorem not_mem_typeWords {w : String} (h : w ∉ cKeywords) : w ∉ typeWords := fun hw =>
  h ((by decide : ∀ w ∈ typeWords, w ∈ cKeywords) w hw)

theorem ne_const {w : String} (h : w ∉ cKeywords) : w ≠ "const" := by
  rintro rfl
  exact h (by decide)

/-- Specifiers end where no keyword follows, once the type has a name. -/
theorem readSpecifiers_of_plain {isConst : Bool} {held : List String} (hheld : held ≠ [])
    (hplain : ∀ s, ts.head? = some (.word s) → s ∉ cKeywords) :
    readSpecifiers isConst held ts = ((isConst, held), ts) := by
  unfold readSpecifiers
  split
  · next s rest =>
    have hs := hplain s rfl
    have hcontinues : continues held s = false := by
      simp [continues, not_mem_typeWords hs, hheld]
    simp [ne_const hs, hcontinues]
  · rfl

theorem readSpecifiers_typeWords {isConst : Bool} {words held : List String}
    (hwords : ∀ w ∈ words, typeWords.contains w = true) (hheld : ∀ w ∈ held, typeWords.contains w = true) :
    readSpecifiers isConst held (words.map .word ++ ts) = readSpecifiers isConst (held ++ words) ts := by
  induction words generalizing held with
  | nil => simp
  | cons w rest ih =>
    have hw := hwords w (by simp)
    have hconst : w ≠ "const" := by
      rintro rfl
      exact absurd hw (by decide)
    have hcontinues : continues held w = true := by
      rw [continues, if_pos hw, List.all_eq_true]
      exact hheld
    rw [List.map_cons, List.cons_append, readSpecifiers, if_neg hconst, if_pos hcontinues, ih]
    · rw [List.append_assoc]
      rfl
    · exact fun v hv => hwords v (by simp [hv])
    · intro v hv
      rcases List.mem_append.1 hv with hv | hv
      · exact hheld v hv
      · rw [List.mem_singleton.1 hv]
        exact hw

theorem IsSpecifier.read {words : List String} (h : IsSpecifier words) (isConst : Bool)
    (hplain : ∀ s, ts.head? = some (.word s) → s ∉ cKeywords) :
    readSpecifiers isConst [] (words.map .word ++ ts) = ((isConst, words), ts) := by
  rcases h.kind with hall | ⟨w, rfl, hw⟩
  · rw [readSpecifiers_typeWords hall (by simp), List.nil_append]
    exact readSpecifiers_of_plain h.nonempty hplain
  · have hcontinues : continues [] w = true := by
      simp [continues, hw]
    rw [List.map_singleton, List.singleton_append, readSpecifiers, if_neg (ne_const hw), if_pos hcontinues]
    exact readSpecifiers_of_plain h.nonempty hplain

/-- The tokens of specifiers with their `const`. -/
def headTokens (isConst : Bool) (words : List String) : List CToken :=
  (if isConst then [.word "const"] else []) ++ words.map .word

theorem IsSpecifier.readHead {words : List String} (h : IsSpecifier words) (isConst : Bool)
    (hplain : ∀ s, ts.head? = some (.word s) → s ∉ cKeywords) :
    readSpecifiers false [] (headTokens isConst words ++ ts) = ((isConst, words), ts) := by
  cases isConst with
  | false => exact h.read false hplain
  | true => exact h.read true hplain

theorem IsSpecifier.head?_headTokens {words : List String} (h : IsSpecifier words) (isConst : Bool) :
    ∃ w, (headTokens isConst words ++ ts).head? = some (.word w) := by
  cases isConst with
  | true => exact ⟨"const", rfl⟩
  | false =>
    cases words with
    | nil => exact absurd rfl h.nonempty
    | cons w words => exact ⟨w, rfl⟩

theorem IsSpecifier.spells {words : List String} (h : IsSpecifier words) (isConst : Bool) :
    CToken.Spells (if isConst then "const " ++ " ".intercalate words else " ".intercalate words)
      (headTokens isConst words) := by
  have hwords := CToken.spells_words h.word
  cases isConst with
  | false => exact hwords
  | true => exact (CToken.spells_word CToken.isWord_const).blank hwords

end CType

end CrateHeader
