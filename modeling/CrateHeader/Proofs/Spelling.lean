import CrateHeader.Proofs.CDeclaration
import CrateHeader.Text.Blank

/-!
# What texts spell

A text that is put together from pieces has the tokens of the pieces, as long as no two names run together.
`Marks` is said of pieces that nothing can run into; `Spells` of those that may end in a name.
-/

namespace CrateHeader

namespace CToken

/-! ### One token -/

theorem readOne?_of_isWhitespace {c : Char} {s : List Char} (h : c.isWhitespace = true) :
    readOne? (c :: s) = none := by
  simp only [Char.isWhitespace, Bool.or_eq_true, decide_eq_true_eq] at h
  rcases h with ((rfl | rfl) | rfl) | rfl <;> rfl

theorem readAll_of_readOne? {s rest : List Char} {t : CToken} (h : readOne? s = some (t, rest)) :
    readAll s = (readAll rest).map (t :: ·) := by
  have hstart : s.dropWhile Char.isWhitespace = s := by
    cases s with
    | nil => rfl
    | cons c s =>
      cases hc : c.isWhitespace with
      | true => rw [readOne?_of_isWhitespace hc] at h; cases h
      | false => simp [hc]
  have hne : s ≠ [] := by
    rintro rfl
    cases h
  rw [readAll, if_neg (by rwa [hstart])]
  split
  · next hnone => rw [hstart, h] at hnone; cases hnone
  · next t' rest' hsome =>
    rw [hstart, h] at hsome
    cases hsome
    rfl

theorem readAll_blank (s : List Char) : readAll (' ' :: s) = readAll s := by
  rw [readAll, readAll]
  rfl

theorem exists_of_isWord {s : String} (h : isWord s = true) :
    ∃ c rest, s.toList = c :: rest ∧ Text.isNameStart c = true ∧ ∀ d ∈ rest, Text.isNameChar d = true := by
  unfold isWord at h
  split at h
  · next c rest hs =>
    obtain ⟨hc, hrest⟩ := Bool.and_eq_true_iff.1 h
    exact ⟨c, rest, hs, hc, List.all_eq_true.1 hrest⟩
  · cases h

/-- Does no name run on into a text? -/
def StartsApart (s : List Char) : Prop := ∀ c ∈ s.head?, Text.isNameChar c = false

theorem startsApart_cons {c : Char} {s : List Char} (h : Text.isNameChar c = false) :
    StartsApart (c :: s) := by
  intro d hd
  cases hd
  exact h

theorem takeWhile_append {cs rest : List Char} (hall : ∀ d ∈ cs, Text.isNameChar d = true)
    (hrest : StartsApart rest) : (cs ++ rest).takeWhile Text.isNameChar = cs := by
  rw [List.takeWhile_append_of_pos hall]
  cases rest with
  | nil => simp
  | cons d rest => simp [hrest d rfl]

theorem dropWhile_append {cs rest : List Char} (hall : ∀ d ∈ cs, Text.isNameChar d = true)
    (hrest : StartsApart rest) : (cs ++ rest).dropWhile Text.isNameChar = rest := by
  rw [List.dropWhile_append_of_pos hall]
  cases rest with
  | nil => rfl
  | cons d rest => simp [hrest d rfl]

theorem readOne?_word {s : String} {rest : List Char} (hs : isWord s = true) (hrest : StartsApart rest) :
    readOne? (s.toList ++ rest) = some (word s, rest) := by
  obtain ⟨c, cs, hcs, hc, hall⟩ := exists_of_isWord hs
  rw [hcs, List.cons_append]
  unfold readOne?
  split
  case h_7 d tail _ _ _ _ _ _ heq =>
    cases heq
    rw [if_pos hc, takeWhile_append hall hrest, dropWhile_append hall hrest, ← hcs, String.ofList_toList]
  case h_8 heq => cases heq
  -- No name starts with a sign.
  all_goals
    rename_i heq
    rw [(List.cons.inj heq).1] at hc
    exact absurd hc (by decide)

theorem readOne?_bracketed {length : String} (h : ']' ∉ length.toList) (rest : List Char) :
    readOne? ('[' :: (length.toList ++ ']' :: rest)) = some (bracketed length, rest) := by
  have hall : ∀ c ∈ length.toList, (c != ']') = true := by
    intro c hc
    rw [bne_iff_ne]
    rintro rfl
    exact h hc
  have hdrop : (length.toList ++ ']' :: rest).dropWhile (· != ']') = ']' :: rest := by
    rw [List.dropWhile_append_of_pos hall]
    rfl
  have htake : (length.toList ++ ']' :: rest).takeWhile (· != ']') = length.toList := by
    rw [List.takeWhile_append_of_pos hall]
    simp
  simp only [readOne?, hdrop, htake, String.ofList_toList]

/-! ### Pieces of a text -/

/-- The tokens of a text, whatever follows it. -/
def Marks (s : String) (ts : List CToken) : Prop :=
  ∀ rest, readAll (s.toList ++ rest) = (readAll rest).map (ts ++ ·)

/-- The tokens of a text that no name follows. -/
def Spells (s : String) (ts : List CToken) : Prop :=
  ∀ rest, StartsApart rest → readAll (s.toList ++ rest) = (readAll rest).map (ts ++ ·)

section Pieces

variable {a b s : String} {ts us : List CToken}

theorem Marks.spells (h : Marks s ts) : Spells s ts := fun rest _ => h rest

theorem marks_empty : Marks "" [] := by
  intro rest
  cases h : readAll rest <;> simp [h]

theorem marks_blank : Marks " " [] := by
  intro rest
  have h : readAll (" ".toList ++ rest) = readAll rest := readAll_blank rest
  rw [h]
  cases readAll rest <;> rfl

theorem marks_star : Marks "*" [star] := fun _ => readAll_of_readOne? rfl

theorem marks_openParen : Marks "(" [openParen] := fun _ => readAll_of_readOne? rfl

theorem marks_closeParen : Marks ")" [closeParen] := fun _ => readAll_of_readOne? rfl

theorem marks_comma : Marks "," [comma] := fun _ => readAll_of_readOne? rfl

theorem marks_bracketed {length : String} (h : ']' ∉ length.toList) :
    Marks ("[" ++ length ++ "]") [bracketed length] := by
  intro rest
  refine readAll_of_readOne? ?_
  have htext : ("[" ++ length ++ "]").toList ++ rest = '[' :: (length.toList ++ ']' :: rest) := by
    simp
  rw [htext]
  exact readOne?_bracketed h rest

theorem spells_word (h : isWord s = true) : Spells s [word s] := fun _ hrest =>
  readAll_of_readOne? (readOne?_word h hrest)

theorem Marks.append (ha : Marks a ts) (hb : Marks b us) : Marks (a ++ b) (ts ++ us) := by
  intro rest
  rw [String.toList_append, List.append_assoc, ha, hb, Option.map_map]
  congr 1
  funext vs
  simp

theorem Marks.append_spells (ha : Marks a ts) (hb : Spells b us) : Spells (a ++ b) (ts ++ us) := by
  intro rest hrest
  rw [String.toList_append, List.append_assoc, ha, hb rest hrest, Option.map_map]
  congr 1
  funext vs
  simp

/-- A name may stand in front of what is no part of a name. -/
theorem Spells.append_marks (ha : Spells a ts) (hb : Marks b us)
    (hapart : ∀ rest, StartsApart (b.toList ++ rest)) : Marks (a ++ b) (ts ++ us) := by
  intro rest
  rw [String.toList_append, List.append_assoc, ha _ (hapart rest), hb, Option.map_map]
  congr 1
  funext vs
  simp

theorem readAll_nil : readAll [] = some [] := by
  rw [readAll]
  rfl

/-- The tokens of a text on its own. -/
theorem Spells.readAll (h : Spells s ts) : CToken.readAll s.toList = some ts := by
  have hall := h [] (by simp [StartsApart])
  rw [readAll_nil] at hall
  simpa using hall

theorem Spells.eq_nil (h : Spells "" ts) : ts = [] := by
  have hall := h.readAll
  have hempty : CToken.readAll "".toList = some [] := readAll_nil
  rw [hempty] at hall
  exact (Option.some.inj hall).symm

theorem Spells.parens (h : Spells s ts) : Marks ("(" ++ s ++ ")") (openParen :: ts ++ [closeParen]) :=
  (marks_openParen.append_spells h).append_marks marks_closeParen fun _ => startsApart_cons rfl

/-- A text with a parameter list behind it. -/
theorem Spells.called (ha : Spells a ts) (hb : Spells b us) :
    Marks (a ++ "(" ++ b ++ ")") (ts ++ (openParen :: us ++ [closeParen])) := by
  have htext : a ++ "(" ++ b ++ ")" = a ++ ("(" ++ b ++ ")") := by simp only [String.append_assoc]
  rw [htext]
  refine ha.append_marks hb.parens fun rest => ?_
  rw [String.toList_append, String.toList_append]
  exact startsApart_cons rfl

/-- A text with an array length behind it. -/
theorem Spells.indexed {length : String} (ha : Spells a ts) (h : ']' ∉ length.toList) :
    Marks (a ++ "[" ++ length ++ "]") (ts ++ [bracketed length]) := by
  have htext : a ++ "[" ++ length ++ "]" = a ++ ("[" ++ length ++ "]") := by simp only [String.append_assoc]
  rw [htext]
  refine ha.append_marks (marks_bracketed h) fun rest => ?_
  rw [String.toList_append, String.toList_append]
  exact startsApart_cons rfl

theorem Spells.blank (ha : Spells a ts) (hb : Spells b us) : Spells (a ++ " " ++ b) (ts ++ us) := by
  have hfront := ha.append_marks marks_blank fun _ => startsApart_cons rfl
  rw [List.append_nil] at hfront
  exact hfront.append_spells hb

theorem Spells.comma (ha : Spells a ts) (hb : Spells b us) :
    Spells (a ++ ", " ++ b) (ts ++ CToken.comma :: us) := by
  have hcomma : Marks ", " [CToken.comma] := marks_comma.append marks_blank
  have hfront := ha.append_marks hcomma fun _ => startsApart_cons rfl
  simpa using hfront.append_spells hb

/-- Words with blanks between them. -/
theorem spells_words {ws : List String} (h : ∀ w ∈ ws, isWord w = true) :
    Spells (" ".intercalate ws) (ws.map word) := by
  induction ws with
  | nil => exact marks_empty.spells
  | cons w rest ih =>
    have hw := spells_word (h w (by simp))
    have hrest := ih fun v hv => h v (by simp [hv])
    cases rest with
    | nil => rwa [String.intercalate_singleton]
    | cons v rest =>
      rw [String.intercalate_cons_cons]
      exact hw.blank hrest

end Pieces

/-! ### Texts with their end trimmed -/

/-- A text that keeps its tokens when the blanks at its end are left out. -/
structure Draws (s : String) (ts : List CToken) : Prop where
  full : Spells s ts
  trimmed : Spells (Text.stripRight s) ts

theorem stripRight_append (a b : String) : Text.stripRight (a ++ b) =
    if Text.stripRight b = "" then Text.stripRight a else a ++ Text.stripRight b := by
  have hempty : Text.stripRight b = "" ↔ (b.toList.reverse.dropWhile Text.isBlank).isEmpty = true := by
    rw [Text.stripRight, String.ofList_eq_empty_iff, Text.trimRight, List.reverse_eq_nil_iff,
      List.isEmpty_iff]
  simp only [hempty]
  unfold Text.stripRight Text.trimRight
  rw [String.toList_append, List.reverse_append, List.dropWhile_append]
  split
  · rfl
  · rw [List.reverse_append, List.reverse_reverse, String.ofList_append, String.ofList_toList]

theorem stripRight_of_last {s : String} {c : Char} (h : s.toList.getLast? = some c)
    (hc : Text.isBlank c = false) : Text.stripRight s = s := by
  obtain ⟨front, hfront⟩ := List.getLast?_eq_some_iff.1 h
  unfold Text.stripRight Text.trimRight
  rw [hfront, List.reverse_append, List.reverse_singleton, List.singleton_append,
    List.dropWhile_cons_of_neg (by simp [hc]), List.reverse_cons, List.reverse_reverse, ← hfront,
    String.ofList_toList]

theorem draws_empty : Draws "" [] := ⟨marks_empty.spells, marks_empty.spells⟩

theorem isBlank_of_isNameChar {c : Char} (h : Text.isNameChar c = true) : Text.isBlank c = false := by
  have hrange : 33 ≤ c.toNat ∧ c.toNat < 133 := by
    simp only [Text.isNameChar, Char.isAlphanum, Char.isAlpha, Char.isUpper, Char.isLower, Char.isDigit,
      Bool.or_eq_true, Bool.and_eq_true, decide_eq_true_eq, beq_iff_eq, ge_iff_le,
      UInt32.le_iff_toNat_le] at h
    rcases h with ((⟨hlow, hhigh⟩ | ⟨hlow, hhigh⟩) | ⟨hlow, hhigh⟩) | rfl
    case inr => decide
    all_goals exact ⟨Nat.le_trans (by decide) hlow, Nat.lt_of_le_of_lt hhigh (by decide)⟩
  rw [Text.isBlank, Text.inIntervals, if_neg, if_neg, Text.inIntervals, if_neg, if_neg, Text.inIntervals,
    if_pos]
  all_goals omega

theorem isNameChar_of_isNameStart {c : Char} (h : Text.isNameStart c = true) : Text.isNameChar c = true := by
  simp only [Text.isNameStart, Text.isNameChar, Char.isAlphanum, Bool.or_eq_true] at h ⊢
  exact h.imp_left .inl

theorem isNameChar_of_mem {s : String} {c : Char} (h : isWord s = true) (hc : c ∈ s.toList) :
    Text.isNameChar c = true := by
  obtain ⟨d, rest, hs, hd, hall⟩ := exists_of_isWord h
  rw [hs] at hc
  rcases List.mem_cons.1 hc with rfl | hc
  · exact isNameChar_of_isNameStart hd
  · exact hall c hc

theorem stripRight_of_isWord {s : String} (h : isWord s = true) : Text.stripRight s = s := by
  have hne : s.toList ≠ [] := by
    obtain ⟨c, rest, hs, _⟩ := exists_of_isWord h
    rw [hs]
    exact List.cons_ne_nil c rest
  exact stripRight_of_last (List.getLast?_eq_some_getLast hne)
    (isBlank_of_isNameChar (isNameChar_of_mem h (List.getLast_mem hne)))

theorem draws_word {s : String} (h : isWord s = true) : Draws s [word s] := by
  refine ⟨spells_word h, ?_⟩
  rw [stripRight_of_isWord h]
  exact spells_word h

theorem stripRight_append_of_last {last : String} {c : Char} (s : String) (hlast : last.toList = [c])
    (hc : Text.isBlank c = false) : Text.stripRight (s ++ last) = s ++ last := by
  refine stripRight_of_last (c := c) ?_ hc
  rw [String.toList_append, hlast]
  exact List.getLast?_concat

/-- A text that ends in something that is not blank. -/
theorem Marks.draws {s last : String} {c : Char} {ts : List CToken} (h : Marks (s ++ last) ts)
    (hlast : last.toList = [c]) (hc : Text.isBlank c = false) : Draws (s ++ last) ts := by
  refine ⟨h.spells, ?_⟩
  rw [stripRight_append_of_last s hlast hc]
  exact h.spells

/-- The sign of a pointer. -/
def pointerText (isConst : Bool) : String := if isConst then "*const " else "*"

def pointerTokens (isConst : Bool) : List CToken := if isConst then [star, word "const"] else [star]

theorem isWord_const : isWord "const" = true := by decide

theorem marks_pointer (isConst : Bool) : Marks (pointerText isConst) (pointerTokens isConst) := by
  cases isConst with
  | false => exact marks_star
  | true =>
    exact (marks_star.append_spells (spells_word isWord_const)).append_marks marks_blank
      fun _ => startsApart_cons rfl

/-- A pointer in front of nothing ends in a blank if it is constant. -/
theorem Draws.pointer {s : String} {ts : List CToken} (h : Draws s ts) (isConst : Bool) :
    Draws (pointerText isConst ++ s) (pointerTokens isConst ++ ts) := by
  refine ⟨(marks_pointer isConst).append_spells h.full, ?_⟩
  rw [stripRight_append]
  split
  · next hempty =>
    have hnone : ts = [] := by
      have htrimmed := h.trimmed
      rw [hempty] at htrimmed
      exact htrimmed.eq_nil
    rw [hnone, List.append_nil]
    cases isConst with
    | false => exact marks_star.spells
    | true => exact marks_star.append_spells (spells_word isWord_const)
  · exact (marks_pointer isConst).append_spells h.trimmed

end CToken

end CrateHeader
