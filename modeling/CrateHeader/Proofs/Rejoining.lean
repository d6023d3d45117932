import CrateHeader.Proofs.UsableNames

/-!
# Names that are split again

A word of a name is made of letters or of digits. In one case throughout it is one run of the pattern that names
are split by, and an underscore ends every run. So a name whose words were joined in lower or upper case has
exactly these words, and joining them once more only depends on the case that comes last. `RenameRule.apply_stable`
says this of both rules that join words with underscores.
-/

namespace CrateHeader

namespace Identifier

variable {c : Char} {w rest cs : List Char} {ws : List (List Char)} {s name : String}

/-- Capitals alone, small letters alone or digits alone, and at least one of them. -/
structure IsRun (w : List Char) : Prop where
  nonempty : w ≠ []
  alike : (∀ c ∈ w, c.isUpper = true) ∨ (∀ c ∈ w, c.isLower = true) ∨ ∀ c ∈ w, c.isDigit = true

/-- Letters alone or digits alone, and at least one of them. -/
structure IsPlain (w : List Char) : Prop where
  nonempty : w ≠ []
  alike : (∀ c ∈ w, c.isAlpha = true) ∨ ∀ c ∈ w, c.isDigit = true

/-! ### Kinds of characters -/

theorem isNameChar_of_isAlpha (h : c.isAlpha = true) : Text.isNameChar c = true := by
  simp [Text.isNameChar, Char.isAlphanum, h]

theorem isNameChar_of_isDigit (h : c.isDigit = true) : Text.isNameChar c = true := by
  simp [Text.isNameChar, Char.isAlphanum, h]

theorem isAlpha_of_isUpper (h : c.isUpper = true) : c.isAlpha = true := by simp [Char.isAlpha, h]

theorem isAlpha_of_isLower (h : c.isLower = true) : c.isAlpha = true := by simp [Char.isAlpha, h]

theorem isLower_of_isUpper (h : c.isUpper = true) : c.isLower = false := by
  grind [Char.isUpper, Char.isLower]

theorem isUpper_of_isLower (h : c.isLower = true) : c.isUpper = false := by
  cases hu : c.isUpper with
  | false => rfl
  | true => exact absurd h (by simp [isLower_of_isUpper hu])

/-- A digit is no letter. -/
theorem isAlpha_of_isDigit (h : c.isDigit = true) : c.isUpper = false ∧ c.isLower = false := by
  grind [Char.isDigit, Char.isUpper, Char.isLower]

/-- The digits of the basic alphabet are the only ones in a name. -/
theorem isDecimalDigit_eq (h : Text.isNameChar c = true) : Text.isDecimalDigit c = c.isDigit := by
  obtain ⟨n, hn, rfl⟩ := exists_code_of_isNameChar h
  revert n
  decide +kernel

/-- A letter takes the case that it is given, and of two changes of case the last one counts. -/
theorem recasing_of_isNameChar (h : Text.isNameChar c = true) :
    (c.isAlpha = true → c.toLower.isLower = true ∧ c.toUpper.isUpper = true) ∧
      c.toLower.toLower = c.toLower ∧ c.toUpper.toLower = c.toLower ∧ c.toUpper.toUpper = c.toUpper ∧
      c.toLower.toUpper = c.toUpper := by
  obtain ⟨n, hn, rfl⟩ := exists_code_of_isNameChar h
  revert n
  decide +kernel

theorem isLower_toLower (h : c.isAlpha = true) : c.toLower.isLower = true :=
  ((recasing_of_isNameChar (isNameChar_of_isAlpha h)).1 h).1

theorem isUpper_toUpper (h : c.isAlpha = true) : c.toUpper.isUpper = true :=
  ((recasing_of_isNameChar (isNameChar_of_isAlpha h)).1 h).2

/-! ### Splitting what was joined -/

/-- A text in which no word goes on. -/
def EndsWord (s : List Char) : Prop := ∀ c ∈ s.head?, startsWord c = false

theorem not_startsWord (h : startsWord c = false) :
    c.isUpper = false ∧ c.isLower = false ∧ Text.isDecimalDigit c = false := by
  simpa [startsWord, and_assoc] using h

/-- Nothing is taken from a text whose first character is not of the kind. -/
theorem takeWhile_eq_nil (s : List Char) {p : Char → Bool} (h : ∀ c ∈ s.head?, p c = false) :
    s.takeWhile p = [] ∧ s.dropWhile p = s := by
  cases s with
  | nil => exact ⟨rfl, rfl⟩
  | cons c rest => simp [h c rfl]

/-- All of one kind is taken up to a text that starts with none. -/
theorem takeWhile_append {p : Char → Bool} (hw : ∀ c ∈ w, p c = true) (hrest : ∀ c ∈ rest.head?, p c = false) :
    (w ++ rest).takeWhile p = w ∧ (w ++ rest).dropWhile p = rest := by
  obtain ⟨htake, hdrop⟩ := takeWhile_eq_nil rest hrest
  rw [List.takeWhile_append_of_pos hw, List.dropWhile_append_of_pos hw, htake, hdrop, List.append_nil]
  exact ⟨rfl, rfl⟩

theorem head_append (hw : w ≠ []) (hc : c ∈ (w ++ rest).head?) : c ∈ w := by
  obtain ⟨d, w', rfl⟩ := List.exists_cons_of_ne_nil hw
  cases hc
  exact List.mem_cons_self

/-- A run is a word when no word goes on behind it. -/
theorem IsRun.takeWord_append (hw : IsRun w) (hrest : EndsWord rest) : takeWord (w ++ rest) = (w, rest) := by
  have hsmall := takeWhile_eq_nil rest fun c hc => (not_startsWord (hrest c hc)).2.1
  unfold takeWord
  dsimp only
  rcases hw.alike with hall | hall | hall
  case inl =>
    obtain ⟨htake, hdrop⟩ := takeWhile_append hall fun c hc => (not_startsWord (hrest c hc)).1
    rw [htake, hdrop, if_pos hsmall.1, if_neg hw.nonempty]
  case inr.inl =>
    obtain ⟨htake, hdrop⟩ := takeWhile_append hall fun c hc => (not_startsWord (hrest c hc)).2.1
    obtain ⟨hnone, hwhole⟩ := takeWhile_eq_nil (w ++ rest) fun c hc =>
      isUpper_of_isLower (hall c (head_append hw.nonempty hc))
    rw [hnone, hwhole, htake, hdrop, if_neg hw.nonempty, if_pos (by decide), List.nil_append]
  case inr.inr =>
    have hdigit : ∀ c ∈ w, Text.isDecimalDigit c = true := fun c hc =>
      (isDecimalDigit_eq (isNameChar_of_isDigit (hall c hc))).trans (hall c hc)
    obtain ⟨htake, hdrop⟩ := takeWhile_append hdigit fun c hc => (not_startsWord (hrest c hc)).2.2
    obtain ⟨hnone, hwhole⟩ := takeWhile_eq_nil (w ++ rest) fun c hc =>
      (isAlpha_of_isDigit (hall c (head_append hw.nonempty hc))).1
    obtain ⟨hnone', _⟩ := takeWhile_eq_nil (w ++ rest) fun c hc =>
      (isAlpha_of_isDigit (hall c (head_append hw.nonempty hc))).2
    rw [hnone, hwhole, hnone', if_pos rfl, if_pos rfl, htake, hdrop]

theorem IsRun.startsWord (hw : IsRun (c :: w)) : startsWord c = true := by
  rcases hw.alike with hall | hall | hall
  · simp [Identifier.startsWord, hall c List.mem_cons_self]
  · simp [Identifier.startsWord, hall c List.mem_cons_self]
  · have hc := hall c List.mem_cons_self
    simp [Identifier.startsWord, isDecimalDigit_eq (isNameChar_of_isDigit hc), hc]

theorem IsRun.words_append (hw : IsRun w) (hrest : EndsWord rest) : words (w ++ rest) = w :: words rest := by
  have htake := hw.takeWord_append hrest
  obtain ⟨c, w', rfl⟩ := List.exists_cons_of_ne_nil hw.nonempty
  rw [List.cons_append] at htake ⊢
  rw [words, dif_pos hw.startsWord]
  simp only [htake]

theorem words_underscore (cs : List Char) : words ('_' :: cs) = words cs := by
  rw [words, dif_neg (by decide)]

/-- Runs that are joined with underscores are the words of what this gives. -/
theorem words_intercalate (h : ∀ w ∈ ws, IsRun w) : words (['_'].intercalate ws) = ws := by
  induction ws with
  | nil => rw [List.intercalate_nil, words]
  | cons w ws ih =>
    obtain ⟨hw, hws⟩ := List.forall_mem_cons.1 h
    cases ws with
    | nil =>
      have hnil : EndsWord [] := by
        intro c hc
        cases hc
      have hend := hw.words_append hnil
      rw [List.append_nil, words] at hend
      rw [List.intercalate_singleton, hend]
    | cons v ws =>
      have hnext : EndsWord ('_' :: ['_'].intercalate (v :: ws)) := by
        intro c hc
        cases hc
        decide
      rw [List.intercalate_cons_cons, List.append_assoc, List.singleton_append, hw.words_append hnext,
        words_underscore, ih hws]

/-! ### What words are made of -/

/-- A word does not hold letters and digits together. -/
theorem isPlain_takeWord (hcs : ∀ d ∈ c :: cs, Text.isNameChar d = true) (hc : startsWord c = true) :
    IsPlain (takeWord (c :: cs)).1 := by
  refine ⟨takeWord_ne_nil hc, ?_⟩
  have hcapitals : ∀ d ∈ (c :: cs).takeWhile Char.isUpper, d.isAlpha = true := fun d hd =>
    isAlpha_of_isUpper (List.mem_takeWhile_imp hd)
  have hsmall : ∀ d ∈ ((c :: cs).dropWhile Char.isUpper).takeWhile Char.isLower, d.isAlpha = true := fun d hd =>
    isAlpha_of_isLower (List.mem_takeWhile_imp hd)
  unfold takeWord
  dsimp only
  split
  · split
    · refine .inr fun d hd => ?_
      have hmem : d ∈ c :: cs := (List.takeWhile_prefix _).subset hd
      rw [← isDecimalDigit_eq (hcs d hmem)]
      exact List.mem_takeWhile_imp hd
    · exact .inl hcapitals
  · split
    · exact .inl (List.forall_mem_append.2 ⟨hcapitals, hsmall⟩)
    · exact .inl fun d hd => hcapitals d (List.mem_of_mem_dropLast hd)

theorem isPlain_of_mem_words (hcs : ∀ d ∈ cs, Text.isNameChar d = true) (hw : w ∈ words cs) : IsPlain w := by
  induction cs using words.induct with
  | case1 => rw [words] at hw; cases hw
  | case2 d rest hd _ ih =>
    rw [words, dif_pos hd] at hw
    rcases List.mem_cons.1 hw with rfl | hw
    · exact isPlain_takeWord hcs hd
    · refine ih (fun x hx => hcs x ?_) hw
      rw [← takeWord_append (d :: rest)]
      exact List.mem_append_right _ hx
  | case3 d rest hd ih =>
    rw [words, dif_neg hd] at hw
    exact ih (fun x hx => hcs x (List.mem_cons_of_mem d hx)) hw

/-- The words of a name hold letters alone or digits alone. -/
theorem isPlain_of_mem_splitWords (h : IsNameText name) (hs : s ∈ splitWords name) : IsPlain s.toList := by
  obtain ⟨w, hw, rfl⟩ := List.mem_map.1 hs
  rw [String.toList_ofList]
  exact isPlain_of_mem_words h hw

theorem IsPlain.isNameText (h : IsPlain s.toList) : IsNameText s := by
  rcases h.alike with hall | hall
  · exact fun c hc => isNameChar_of_isAlpha (hall c hc)
  · exact fun c hc => isNameChar_of_isDigit (hall c hc)

theorem IsPlain.lower (h : IsPlain s.toList) : IsRun (Text.lower s).toList := by
  rw [toList_lower h.isNameText]
  refine ⟨fun hnil => h.nonempty (List.map_eq_nil_iff.1 hnil), ?_⟩
  rcases h.alike with hall | hall
  · refine .inr (.inl fun d hd => ?_)
    obtain ⟨c, hc, rfl⟩ := List.mem_map.1 hd
    exact isLower_toLower (hall c hc)
  · refine .inr (.inr fun d hd => ?_)
    obtain ⟨c, hc, rfl⟩ := List.mem_map.1 hd
    exact (isDigit_toLower (isNameChar_of_isDigit (hall c hc))).trans (hall c hc)

theorem IsPlain.upper (h : IsPlain s.toList) : IsRun (Text.upper s).toList := by
  rw [toList_upper h.isNameText]
  refine ⟨fun hnil => h.nonempty (List.map_eq_nil_iff.1 hnil), ?_⟩
  rcases h.alike with hall | hall
  · refine .inl fun d hd => ?_
    obtain ⟨c, hc, rfl⟩ := List.mem_map.1 hd
    exact isUpper_toUpper (hall c hc)
  · refine .inr (.inr fun d hd => ?_)
    obtain ⟨c, hc, rfl⟩ := List.mem_map.1 hd
    exact (isDigit_toUpper (isNameChar_of_isDigit (hall c hc))).trans (hall c hc)

/-- Of two changes of case of a name the last one counts. -/
theorem lower_lower (h : IsNameText s) : Text.lower (Text.lower s) = Text.lower s := by
  rw [← String.toList_inj, toList_lower (isNameText_lower h), toList_lower h, List.map_map]
  exact List.map_congr_left fun c hc => (recasing_of_isNameChar (h c hc)).2.1

theorem lower_upper (h : IsNameText s) : Text.lower (Text.upper s) = Text.lower s := by
  rw [← String.toList_inj, toList_lower (isNameText_upper h), toList_upper h, toList_lower h, List.map_map]
  exact List.map_congr_left fun c hc => (recasing_of_isNameChar (h c hc)).2.2.1

theorem upper_upper (h : IsNameText s) : Text.upper (Text.upper s) = Text.upper s := by
  rw [← String.toList_inj, toList_upper (isNameText_upper h), toList_upper h, List.map_map]
  exact List.map_congr_left fun c hc => (recasing_of_isNameChar (h c hc)).2.2.2.1

theorem upper_lower (h : IsNameText s) : Text.upper (Text.lower s) = Text.upper s := by
  rw [← String.toList_inj, toList_upper (isNameText_lower h), toList_lower h, toList_upper h, List.map_map]
  exact List.map_congr_left fun c hc => (recasing_of_isNameChar (h c hc)).2.2.2.2

/-! ### Joining words with underscores -/

/-- A name with its words changed and joined with underscores, if it has any. -/
def rejoin (change : String → String) (name : String) : String :=
  if (splitWords name).isEmpty then name else "_".intercalate ((splitWords name).map change)

/-- Does a change of words make runs of the words of names? -/
def MakesRuns (change : String → String) : Prop := ∀ s, IsPlain s.toList → IsRun (change s).toList

theorem splitWords_rejoin {change : String → String} (hchange : MakesRuns change) (h : IsNameText name) :
    splitWords (rejoin change name) = (splitWords name).map change := by
  unfold rejoin
  split
  · next hnone =>
    rw [List.isEmpty_iff.1 hnone]
    rfl
  · have hruns : ∀ w ∈ ((splitWords name).map change).map String.toList, IsRun w := by
      intro w hw
      obtain ⟨v, hv, rfl⟩ := List.mem_map.1 hw
      obtain ⟨s, hs, rfl⟩ := List.mem_map.1 hv
      exact hchange s (isPlain_of_mem_splitWords h hs)
    have hsplit := words_intercalate hruns
    rw [splitWords, String.toList_intercalate]
    refine (congrArg (List.map String.ofList) hsplit).trans ?_
    rw [List.map_map]
    exact (List.map_congr_left fun _ _ => String.ofList_toList).trans (List.map_id _)

/-- When words are joined once more, what counts is what was done to them in the end. -/
theorem rejoin_rejoin {change again result : String → String} (hchange : MakesRuns change)
    (hresult : ∀ s, IsNameText s → again (change s) = result s) (h : IsNameText name) :
    rejoin again (rejoin change name) = rejoin result name := by
  have hsplit := splitWords_rejoin hchange h
  have hsame : ((splitWords name).map change).map again = (splitWords name).map result := by
    rw [List.map_map]
    exact List.map_congr_left fun s hs => hresult s (isPlain_of_mem_splitWords h hs).isNameText
  rw [rejoin, hsplit, hsame, List.isEmpty_map]
  unfold rejoin
  split <;> rfl

end Identifier

namespace RenameRule

open Identifier

/-- Snake case and screaming snake case keep the words of a name but for their case, and whichever of them comes
last decides. -/
theorem apply_stable {name : String} (h : IsNameText name) (context context' : IdentifierContext)
    (qualifier qualifier' : String) :
    splitWords (snake.apply name context qualifier) = (splitWords name).map Text.lower ∧
    splitWords (screamingSnake.apply name context qualifier) = (splitWords name).map Text.upper ∧
    snake.apply (snake.apply name context qualifier) context' qualifier' = snake.apply name context qualifier ∧
    screamingSnake.apply (screamingSnake.apply name context qualifier) context' qualifier' =
      screamingSnake.apply name context qualifier ∧
    snake.apply (screamingSnake.apply name context qualifier) context' qualifier' =
      snake.apply name context qualifier ∧
    screamingSnake.apply (snake.apply name context qualifier) context' qualifier' =
      screamingSnake.apply name context qualifier := by
  have hsnake : ∀ name context qualifier, snake.apply name context qualifier = rejoin Text.lower name :=
    fun _ _ _ => rfl
  have hscreaming : ∀ name context qualifier, screamingSnake.apply name context qualifier = rejoin Text.upper name :=
    fun _ _ _ => rfl
  have hlower : MakesRuns Text.lower := fun _ => IsPlain.lower
  have hupper : MakesRuns Text.upper := fun _ => IsPlain.upper
  simp only [hsnake, hscreaming]
  exact ⟨splitWords_rejoin hlower h, splitWords_rejoin hupper h, rejoin_rejoin hlower (fun _ => lower_lower) h,
    rejoin_rejoin hupper (fun _ => upper_upper) h, rejoin_rejoin hupper (fun _ => lower_upper) h,
    rejoin_rejoin hlower (fun _ => upper_lower) h⟩

/-- Words of capitals in front of others, of one letter, of digits, and underscores that hold nothing apart. -/
theorem apply_stable_request : IsNameText "_HTTPRequest2x__oldURI" ∧
    splitWords "_HTTPRequest2x__oldURI" = ["HTTP", "Request", "2", "x", "old", "URI"] ∧
    snake.apply "_HTTPRequest2x__oldURI" .structMember "" = "http_request_2_x_old_uri" ∧
    splitWords "http_request_2_x_old_uri" = ["http", "request", "2", "x", "old", "uri"] ∧
    splitWords (screamingSnake.apply "_HTTPRequest2x__oldURI" .structMember "") =
      ["HTTP", "REQUEST", "2", "X", "OLD", "URI"] ∧
    screamingSnake.apply "http_request_2_x_old_uri" .enumVariant "Owner" = "HTTP_REQUEST_2_X_OLD_URI" := by
  have hname : IsNameText "_HTTPRequest2x__oldURI" := isNameText_of_isWord (by decide)
  have hsplit : splitWords "_HTTPRequest2x__oldURI" = ["HTTP", "Request", "2", "x", "old", "URI"] := by cbv
  have hsnake : snake.apply "_HTTPRequest2x__oldURI" .structMember "" = "http_request_2_x_old_uri" := by cbv
  have hscreaming : screamingSnake.apply "_HTTPRequest2x__oldURI" .structMember "" = "HTTP_REQUEST_2_X_OLD_URI" := by
    cbv
  have hlower : ["HTTP", "Request", "2", "x", "old", "URI"].map Text.lower =
      ["http", "request", "2", "x", "old", "uri"] := by cbv
  have hupper : ["HTTP", "Request", "2", "x", "old", "URI"].map Text.upper =
      ["HTTP", "REQUEST", "2", "X", "OLD", "URI"] := by cbv
  obtain ⟨hs, hc, _, _, _, hlast⟩ := apply_stable hname .structMember .enumVariant "" "Owner"
  rw [hsplit, hlower, hsnake] at hs
  rw [hsplit, hupper] at hc
  rw [hsnake, hscreaming] at hlast
  exact ⟨hname, hsplit, hsnake, hs, hc, hlast⟩

end RenameRule

end CrateHeader
