import CrateHeader.Proofs.Scopes
import CrateHeader.Proofs.Spelling

/-!
# Names that C can use

A rule that puts the words of a name together again leaves out the underscores in front of them. A name that it
puts no digit in front of is a word again. Names of fields and arguments are kept clear of the keywords of C,
those of variants only by the name of the enum in front of them. `Library.isUsable_assignNames` says both for
all members of a library.
-/

namespace CrateHeader

/-! ### Texts of letters, digits and underscores -/

/-- Letters, digits and underscores of the basic alphabet only. -/
def IsNameText (s : String) : Prop := ∀ c ∈ s.toList, Text.isNameChar c = true

/-- A text of name characters whose first one is the given one but for its case. -/
structure Begins (c : Char) (s : String) : Prop where
  plain : IsNameText s
  head : ∃ d, s.toList.head? = some d ∧ d.isDigit = c.isDigit

variable {c : Char} {s t name qualifier : String} {ws : List String}

theorem isNameText_of_isWord (h : isWord s = true) : IsNameText s := fun _ => CToken.isNameChar_of_mem h

theorem isNameText_empty : IsNameText "" := fun _ hc => nomatch hc

theorem isNameText_append : IsNameText (s ++ t) ↔ IsNameText s ∧ IsNameText t := by
  simp only [IsNameText, String.toList_append, List.forall_mem_append]

theorem isNameStart_iff (h : Text.isNameChar c = true) : Text.isNameStart c = true ↔ c.isDigit = false := by
  have hdigit : Text.isNameStart c = true → c.isDigit = false := by
    intro hstart
    simp only [Text.isNameStart, Char.isAlpha, Char.isUpper, Char.isLower, Bool.or_eq_true, Bool.and_eq_true,
      decide_eq_true_eq, beq_iff_eq] at hstart
    rcases hstart with (⟨hlow, _⟩ | ⟨hlow, _⟩) | rfl
    case inr => decide
    all_goals
      simp only [Char.isDigit, Bool.and_eq_false_iff, decide_eq_false_iff_not, ge_iff_le,
        UInt32.le_iff_toNat_le] at hlow ⊢
      right
      intro hhigh
      exact absurd (Nat.le_trans hlow hhigh) (by decide)
  refine ⟨hdigit, fun hnot => ?_⟩
  simp only [Text.isNameChar, Char.isAlphanum, hnot, Bool.or_false] at h
  exact h

theorem Begins.isWord_iff (h : Begins c s) : isWord s = true ↔ c.isDigit = false := by
  obtain ⟨hplain, d, hhead, hdigit⟩ := h
  obtain ⟨rest, hs⟩ := List.head?_eq_some_iff.1 hhead
  have hall : rest.all Text.isNameChar = true :=
    List.all_eq_true.2 fun x hx => hplain x (by rw [hs]; exact List.mem_cons_of_mem _ hx)
  rw [isWord, hs]
  simp only [hall, Bool.and_true]
  rw [isNameStart_iff (hplain d (by rw [hs]; exact List.mem_cons_self)), hdigit]

theorem Begins.append (h : Begins c s) (ht : IsNameText t) : Begins c (s ++ t) := by
  obtain ⟨hplain, d, hhead, hdigit⟩ := h
  refine ⟨isNameText_append.2 ⟨hplain, ht⟩, d, ?_, hdigit⟩
  rw [String.toList_append, List.head?_append, hhead]
  rfl

theorem Begins.ne_empty (h : Begins c s) : s ≠ "" := by
  obtain ⟨_, d, hhead, _⟩ := h
  rintro rfl
  cases hhead

/-- A name begins with what it begins with. -/
theorem exists_begins_of_isWord (h : isWord s = true) : ∃ c, Begins c s ∧ c.isDigit = false := by
  obtain ⟨c, rest, hs, hc, _⟩ := CToken.exists_of_isWord h
  have hchar := isNameText_of_isWord h
  refine ⟨c, ⟨hchar, c, by rw [hs]; rfl, rfl⟩, ?_⟩
  exact (isNameStart_iff (hchar c (by rw [hs]; exact List.mem_cons_self))).1 hc

/-- A name for C, unless a digit is in front. -/
structure IsUsable (exposed : Bool) (s : String) : Prop where
  ne_empty : s ≠ ""
  plain : IsNameText s
  word : exposed = false → isWord s = true

theorem Begins.isUsable (h : Begins c s) : IsUsable c.isDigit s := ⟨h.ne_empty, h.plain, h.isWord_iff.2⟩

theorem isUsable_of_isWord (exposed : Bool) (h : isWord s = true) : IsUsable exposed s := by
  obtain ⟨c, hc, _⟩ := exists_begins_of_isWord h
  exact ⟨hc.ne_empty, hc.plain, fun _ => h⟩

/-- More may follow a name. -/
theorem isWord_append (h : isWord s = true) (ht : IsNameText t) : isWord (s ++ t) = true := by
  obtain ⟨c, hc, hdigit⟩ := exists_begins_of_isWord h
  exact (hc.append ht).isWord_iff.2 hdigit

theorem isNameText_underscore : IsNameText "_" := isNameText_of_isWord (by decide)

/-! ### Case -/

theorem toNat_lt_of_isNameChar (h : Text.isNameChar c = true) : c.toNat < 128 := by
  simp only [Text.isNameChar, Char.isAlphanum, Char.isAlpha, Char.isUpper, Char.isLower, Char.isDigit,
    Bool.or_eq_true, Bool.and_eq_true, decide_eq_true_eq, beq_iff_eq, ge_iff_le, UInt32.le_iff_toNat_le] at h
  rcases h with ((⟨_, hhigh⟩ | ⟨_, hhigh⟩) | ⟨_, hhigh⟩) | rfl
  case inr => decide
  all_goals exact Nat.lt_of_le_of_lt hhigh (by decide)

/-- A name character is one of the basic alphabet. -/
theorem exists_code_of_isNameChar (h : Text.isNameChar c = true) : ∃ n < 128, Char.ofNat n = c :=
  ⟨c.toNat, toNat_lt_of_isNameChar h, Char.ofNat_toNat c⟩

/-- What a change of case keeps of a name character. -/
theorem casing_of_isNameChar (h : Text.isNameChar c = true) :
    (Text.isNameChar c.toUpper = true ∧ c.toUpper.isDigit = c.isDigit ∧ c.toUpper.isLower = false ∧
      (c ≠ '_' → c.toUpper ≠ '_')) ∧
    Text.isNameChar c.toLower = true ∧ c.toLower.isDigit = c.isDigit := by
  obtain ⟨n, hn, rfl⟩ := exists_code_of_isNameChar h
  revert n
  decide +kernel

theorem isNameChar_toUpper (h : Text.isNameChar c = true) : Text.isNameChar c.toUpper = true :=
  (casing_of_isNameChar h).1.1

theorem isNameChar_toLower (h : Text.isNameChar c = true) : Text.isNameChar c.toLower = true :=
  (casing_of_isNameChar h).2.1

theorem isDigit_toUpper (h : Text.isNameChar c = true) : c.toUpper.isDigit = c.isDigit :=
  (casing_of_isNameChar h).1.2.1

theorem isDigit_toLower (h : Text.isNameChar c = true) : c.toLower.isDigit = c.isDigit :=
  (casing_of_isNameChar h).2.2

theorem isLower_toUpper (h : Text.isNameChar c = true) : c.toUpper.isLower = false :=
  (casing_of_isNameChar h).1.2.2.1

theorem toUpper_ne_underscore (h : Text.isNameChar c = true) (hc : c ≠ '_') : c.toUpper ≠ '_' :=
  (casing_of_isNameChar h).1.2.2.2 hc

theorem toList_upper (h : IsNameText s) : (Text.upper s).toList = s.toList.map Char.toUpper := by
  have hchar : ∀ c ∈ s.toList, Text.upperChar c = [c.toUpper] := fun c hc =>
    if_pos (toNat_lt_of_isNameChar (h c hc))
  rw [Text.upper, String.toList_ofList, List.flatMap_congr hchar, List.map_eq_flatMap]

theorem lowerAfter_eq {before cs : List Char} (h : ∀ c ∈ cs, Text.isNameChar c = true) :
    Text.lowerAfter before cs = cs.map Char.toLower := by
  induction cs generalizing before with
  | nil => rfl
  | cons c rest ih =>
    rw [List.forall_mem_cons] at h
    have hsigma : c ≠ 'Σ' := by
      rintro rfl
      exact absurd h.1 (by decide)
    rw [Text.lowerAfter, ih h.2, if_neg hsigma, Text.lowerChar, if_pos (toNat_lt_of_isNameChar h.1)]
    rfl

theorem toList_lower (h : IsNameText s) : (Text.lower s).toList = s.toList.map Char.toLower := by
  rw [Text.lower, String.toList_ofList, lowerAfter_eq h]

/-- What a text is when each of its characters is changed, a digit into a digit alone. -/
theorem Begins.of_map {f : Char → Char} (h : Begins c s) (ht : t.toList = s.toList.map f)
    (hchar : ∀ d, Text.isNameChar d = true → Text.isNameChar (f d) = true)
    (hdigit : ∀ d, Text.isNameChar d = true → (f d).isDigit = d.isDigit) : Begins c t := by
  obtain ⟨hplain, d, hhead, hd⟩ := h
  refine ⟨?_, f d, ?_, ?_⟩
  · intro x hx
    rw [ht, List.mem_map] at hx
    obtain ⟨y, hy, rfl⟩ := hx
    exact hchar y (hplain y hy)
  · rw [ht, List.head?_map, hhead, Option.map_some]
  · rw [hdigit d (hplain d (List.mem_of_head? hhead)), hd]

theorem Begins.upper (h : Begins c s) : Begins c (Text.upper s) :=
  h.of_map (toList_upper h.plain) (fun _ => isNameChar_toUpper) fun _ => isDigit_toUpper

theorem Begins.lower (h : Begins c s) : Begins c (Text.lower s) :=
  h.of_map (toList_lower h.plain) (fun _ => isNameChar_toLower) fun _ => isDigit_toLower

theorem isNameText_upper (h : IsNameText s) : IsNameText (Text.upper s) := by
  intro c hc
  rw [toList_upper h, List.mem_map] at hc
  obtain ⟨d, hd, rfl⟩ := hc
  exact isNameChar_toUpper (h d hd)

theorem isNameText_lower (h : IsNameText s) : IsNameText (Text.lower s) := by
  intro c hc
  rw [toList_lower h, List.mem_map] at hc
  obtain ⟨d, hd, rfl⟩ := hc
  exact isNameChar_toLower (h d hd)

/-! ### Words -/

namespace Identifier

/-- The first character of a name that is no underscore. -/
def lead? (name : String) : Option Char := name.toList.find? (· != '_')

/-- All but an underscore can stand at the front of a word. -/
theorem startsWord_eq (h : Text.isNameChar c = true) : startsWord c = (c != '_') := by
  obtain ⟨n, hn, rfl⟩ := exists_code_of_isNameChar h
  revert n
  decide +kernel

theorem words_eq_nil {cs : List Char} (h : cs.find? startsWord = none) : words cs = [] := by
  induction cs with
  | nil => rw [words]
  | cons c rest ih =>
    obtain ⟨hc, hrest⟩ := List.forall_mem_cons.1 (List.find?_eq_none.1 h)
    rw [words, dif_neg hc]
    exact ih (List.find?_eq_none.2 hrest)

/-- The first word starts where a word can start first. -/
theorem words_eq_cons {cs : List Char} (h : cs.find? startsWord = some c) :
    ∃ w ws, words cs = (c :: w) :: ws := by
  induction cs with
  | nil => cases h
  | cons d rest ih =>
    by_cases hd : startsWord d
    · rw [List.find?_cons_of_pos hd] at h
      cases h
      have hword := takeWord_append (c :: rest)
      obtain ⟨x, w, hw⟩ := List.exists_cons_of_ne_nil (takeWord_ne_nil (s := rest) hd)
      rw [hw, List.cons_append] at hword
      rw [words, dif_pos hd, hw, (List.cons.inj hword).1]
      exact ⟨w, _, rfl⟩
    · rw [List.find?_cons_of_neg hd] at h
      rw [words, dif_neg hd]
      exact ih h

/-- A word is a part of the name. -/
theorem mem_of_mem_words {cs w : List Char} (hw : w ∈ words cs) (hc : c ∈ w) : c ∈ cs := by
  induction cs using words.induct with
  | case1 => rw [words] at hw; cases hw
  | case2 d rest hd _ ih =>
    rw [words, dif_pos hd] at hw
    rw [← takeWord_append (d :: rest), List.mem_append]
    rcases List.mem_cons.1 hw with rfl | hw
    · exact .inl hc
    · exact .inr (ih hw)
  | case3 d rest hd ih =>
    rw [words, dif_neg hd] at hw
    exact List.mem_cons_of_mem d (ih hw)

theorem find?_startsWord (h : IsNameText name) : name.toList.find? startsWord = lead? name := by
  have hsame : ∀ cs : List Char, (∀ c ∈ cs, Text.isNameChar c = true) →
      cs.find? startsWord = cs.find? (· != '_') := by
    intro cs hcs
    induction cs with
    | nil => rfl
    | cons c rest ih =>
      rw [List.forall_mem_cons] at hcs
      rw [List.find?_cons, List.find?_cons, startsWord_eq hcs.1, ih hcs.2]
  exact hsame _ h

theorem splitWords_eq_nil (h : IsNameText name) (hlead : lead? name = none) : splitWords name = [] := by
  rw [splitWords, words_eq_nil ((find?_startsWord h).trans hlead), List.map_nil]

theorem splitWords_eq_cons (h : IsNameText name) (hlead : lead? name = some c) :
    ∃ w ws, splitWords name = w :: ws ∧ w.toList.head? = some c ∧ ∀ v ∈ w :: ws, IsNameText v := by
  obtain ⟨w, ws, hwords⟩ := words_eq_cons ((find?_startsWord h).trans hlead)
  have hsplit : splitWords name = String.ofList (c :: w) :: ws.map String.ofList := by
    rw [splitWords, hwords, List.map_cons]
  refine ⟨_, _, hsplit, by rw [String.toList_ofList]; rfl, ?_⟩
  rw [← hsplit]
  intro v hv
  obtain ⟨cs, hcs, rfl⟩ := List.mem_map.1 hv
  intro d hd
  rw [String.toList_ofList] at hd
  exact h d (mem_of_mem_words hcs hd)

end Identifier

/-! ### Names by a rule -/

theorem isNameText_join (h : ∀ w ∈ ws, IsNameText w) : IsNameText (String.join ws) := by
  intro c hc
  rw [String.toList_join, List.mem_flatMap] at hc
  obtain ⟨w, hw, hc⟩ := hc
  exact h w hw c hc

theorem isNameText_intercalate (h : ∀ w ∈ ws, IsNameText w) : IsNameText ("_".intercalate ws) := by
  induction ws with
  | nil => exact isNameText_empty
  | cons w rest ih =>
    rw [List.forall_mem_cons] at h
    cases rest with
    | nil => rw [String.intercalate_singleton]; exact h.1
    | cons v rest =>
      rw [String.intercalate_cons_cons, isNameText_append, isNameText_append]
      exact ⟨⟨h.1, isNameText_underscore⟩, ih h.2⟩

theorem Begins.intercalate (h : Begins c s) (hws : ∀ w ∈ ws, IsNameText w) :
    Begins c ("_".intercalate (s :: ws)) := by
  have hall := isNameText_intercalate (List.forall_mem_cons.2 ⟨h.plain, hws⟩)
  cases ws with
  | nil => rwa [String.intercalate_singleton]
  | cons w rest =>
    rw [String.intercalate_cons_cons, String.append_assoc] at hall ⊢
    exact h.append (isNameText_append.1 hall).2

namespace RenameRule

open Identifier

/-- A word with a capital is the word but for its case. -/
theorem head?_capitalize (h : IsNameText s) (hhead : s.toList.head? = some c) :
    Begins c (capitalize s) ∧ (capitalize s).toList.head? = some c.toUpper := by
  obtain ⟨rest, hs⟩ := List.head?_eq_some_iff.1 hhead
  have hplain : ∀ d ∈ c :: rest, Text.isNameChar d = true := by rwa [IsNameText, hs] at h
  rw [List.forall_mem_cons] at hplain
  have hrest : IsNameText (String.ofList rest) := by
    rw [IsNameText, String.toList_ofList]
    exact hplain.2
  have htoList : (capitalize s).toList = c.toUpper :: rest.map Char.toLower := by
    simp only [capitalize, hs, Text.upperChar, if_pos (toNat_lt_of_isNameChar hplain.1), String.toList_append,
      toList_lower hrest, String.toList_ofList, List.singleton_append]
  refine ⟨⟨?_, c.toUpper, by rw [htoList]; rfl, isDigit_toUpper hplain.1⟩, by rw [htoList]; rfl⟩
  rw [IsNameText, htoList, List.forall_mem_cons]
  refine ⟨isNameChar_toUpper hplain.1, fun d hd => ?_⟩
  obtain ⟨x, hx, rfl⟩ := List.mem_map.1 hd
  exact isNameChar_toLower (hplain.2 x hx)

theorem isNameText_capitalize (h : IsNameText s) : IsNameText (capitalize s) := by
  cases hhead : s.toList.head? with
  | some c => exact (head?_capitalize h hhead).1.plain
  | none =>
    have hs : s.toList = [] := List.head?_eq_none_iff.1 hhead
    simp only [capitalize, hs]
    exact isNameText_empty

theorem isNameText_pascalText (h : ∀ w ∈ ws, IsNameText w) : IsNameText (pascalText ws) := by
  refine isNameText_join fun v hv => ?_
  obtain ⟨w, hw, rfl⟩ := List.mem_map.1 hv
  exact isNameText_capitalize (h w hw)

theorem begins_pascalText (h : ∀ w ∈ s :: ws, IsNameText w) (hhead : s.toList.head? = some c) :
    Begins c (pascalText (s :: ws)) ∧ (pascalText (s :: ws)).toList.head? = some c.toUpper := by
  rw [List.forall_mem_cons] at h
  obtain ⟨hbegins, hfirst⟩ := head?_capitalize h.1 hhead
  have htext : pascalText (s :: ws) = capitalize s ++ pascalText ws := by
    rw [pascalText, List.map_cons, String.join_cons, pascalText]
  rw [htext]
  refine ⟨hbegins.append (isNameText_pascalText h.2), ?_⟩
  rw [String.toList_append, List.head?_append, hfirst]
  rfl

theorem begins_snakeText (h : ∀ w ∈ s :: ws, IsNameText w) (hs : Begins c s) : Begins c (snakeText (s :: ws)) := by
  rw [snakeText, List.map_cons]
  refine hs.lower.intercalate fun v hv => ?_
  obtain ⟨w, hw, rfl⟩ := List.mem_map.1 hv
  exact isNameText_lower (h w (List.mem_cons_of_mem _ hw))

theorem begins_screamingText (h : ∀ w ∈ s :: ws, IsNameText w) (hs : Begins c s) :
    Begins c (screamingText (s :: ws)) := by
  rw [screamingText, List.map_cons]
  refine hs.upper.intercalate fun v hv => ?_
  obtain ⟨w, hw, rfl⟩ := List.mem_map.1 hv
  exact isNameText_upper (h w (List.mem_cons_of_mem _ hw))

theorem screamingText_splitWords (h : IsNameText name) :
    (lead? name = Option.none → screamingText (splitWords name) = "") ∧
      ∀ c, lead? name = some c → Begins c (screamingText (splitWords name)) := by
  refine ⟨fun hlead => by rw [splitWords_eq_nil h hlead]; rfl, fun c hlead => ?_⟩
  obtain ⟨w, ws, hsplit, hhead, hplain⟩ := splitWords_eq_cons h hlead
  rw [hsplit]
  exact begins_screamingText hplain ⟨hplain w List.mem_cons_self, c, hhead, rfl⟩

theorem isWord_geckoMark (context : IdentifierContext) :
    geckoMark context = "" ∨ isWord (geckoMark context) = true := by
  cases context <;> decide

/-- Does a rule put a digit in front that had underscores in front of it? Of two names that it puts one behind
the other the first one decides, unless that has no words. -/
def exposesDigit (rule : RenameRule) (context : IdentifierContext) (qualifier name : String) : Bool :=
  match rule with
  | none | lower | upper => false
  | pascal | camel | snake | screamingSnake => (lead? name).any Char.isDigit
  | qualifiedScreamingSnake => (lead? name).any fun c => ((lead? qualifier).getD c).isDigit
  | gecko => geckoMark context == "" && (lead? name).any Char.isDigit

/-- A name of nothing but underscores is left as it is. -/
theorem apply_eq_self (rule : RenameRule) (context : IdentifierContext) (hname : IsNameText name)
    (hlead : lead? name = .none) : rule.apply name context qualifier = name := by
  simp only [apply, splitWords_eq_nil hname hlead, List.isEmpty_nil, if_true]

/-- What a rule puts in front. -/
theorem begins_apply (rule : RenameRule) (context : IdentifierContext) (h : isWord name = true)
    (hqualifier : IsNameText qualifier) :
    ∃ c, Begins c (rule.apply name context qualifier) ∧ c.isDigit = rule.exposesDigit context qualifier name := by
  have hname := isNameText_of_isWord h
  obtain ⟨d, hd, hdigit⟩ := exists_begins_of_isWord h
  cases hlead : lead? name with
  | none =>
    have hnone : rule.exposesDigit context qualifier name = false := by cases rule <;> simp [exposesDigit, hlead]
    rw [apply_eq_self rule context hname hlead, hnone]
    exact ⟨d, hd, hdigit⟩
  | some c =>
    obtain ⟨w, ws, hsplit, hhead, hplain⟩ := splitWords_eq_cons hname hlead
    have hw : Begins c w := ⟨hplain w List.mem_cons_self, c, hhead, rfl⟩
    have hpascal := (begins_pascalText hplain hhead).1
    simp only [apply, hsplit, List.isEmpty_cons, Bool.false_eq_true, if_false]
    cases rule with
    | none => exact ⟨d, hd, hdigit⟩
    | lower => exact ⟨d, hd.lower, hdigit⟩
    | upper => exact ⟨d, hd.upper, hdigit⟩
    | pascal => exact ⟨c, hpascal, by simp [exposesDigit, hlead]⟩
    | camel =>
      refine ⟨c, hw.lower.append (isNameText_pascalText fun v hv => ?_), by simp [exposesDigit, hlead]⟩
      exact hplain v (List.mem_cons_of_mem w hv)
    | snake => exact ⟨c, begins_snakeText hplain hw, by simp [exposesDigit, hlead]⟩
    | screamingSnake => exact ⟨c, begins_screamingText hplain hw, by simp [exposesDigit, hlead]⟩
    | qualifiedScreamingSnake =>
      have hscreaming := begins_screamingText hplain hw
      have hmark := screamingText_splitWords hqualifier
      cases howner : lead? qualifier with
      | none =>
        rw [if_pos (hmark.1 howner)]
        exact ⟨c, hscreaming, by simp [exposesDigit, hlead, howner]⟩
      | some o =>
        have ho := hmark.2 o howner
        rw [if_neg ho.ne_empty, String.append_assoc]
        refine ⟨o, ho.append (isNameText_append.2 ⟨isNameText_underscore, hscreaming.plain⟩), ?_⟩
        simp [exposesDigit, hlead, howner]
    | gecko =>
      cases isWord_geckoMark context with
      | inl hempty =>
        rw [hempty, String.empty_append]
        exact ⟨c, hpascal, by simp [exposesDigit, hlead, hempty]⟩
      | inr hmark =>
        obtain ⟨m, hm, hmdigit⟩ := exists_begins_of_isWord hmark
        exact ⟨m, hm.append hpascal.plain, by simp [exposesDigit, hm.ne_empty, hmdigit]⟩

theorem isUsable_apply (rule : RenameRule) (context : IdentifierContext) (h : isWord name = true)
    (hqualifier : IsNameText qualifier) :
    IsUsable (rule.exposesDigit context qualifier name) (rule.apply name context qualifier) := by
  obtain ⟨c, hc, hdigit⟩ := begins_apply rule context h hqualifier
  rw [← hdigit]
  exact hc.isUsable

end RenameRule

/-! ### Keywords -/

/-- A keyword has a small letter, starts with a small letter or an underscore, has no underscore behind its first
character and has other characters than underscores. -/
theorem shape_of_mem_cKeywords (h : name ∈ cKeywords) :
    (∃ c ∈ name.toList, c.isLower = true) ∧
      (∃ c, name.toList.head? = some c ∧ (c.isLower = true ∨ c = '_')) ∧ '_' ∉ name.toList.tail ∧
      Identifier.lead? name ≠ none ∧ isWord name = true := by
  have hall : ∀ k ∈ cKeywords, k.toList.any Char.isLower = true ∧
      k.toList.head?.any (fun c => c.isLower || c == '_') = true ∧ '_' ∉ k.toList.tail ∧
      Identifier.lead? k ≠ none ∧ isWord k = true := by decide
  obtain ⟨hsmall, hhead, hrest⟩ := hall name h
  obtain ⟨c, hc, hshape⟩ := (Option.any_eq_true _ _).1 hhead
  exact ⟨List.any_eq_true.1 hsmall, ⟨c, hc, by simpa using hshape⟩, hrest⟩

/-- An underscore behind a name keeps it apart from all keywords. -/
theorem not_mem_cKeywords_append (h : s ≠ "") : s ++ "_" ++ t ∉ cKeywords := by
  intro hkeyword
  refine (shape_of_mem_cKeywords hkeyword).2.2.1 ?_
  obtain ⟨c, rest, hs⟩ := List.exists_cons_of_ne_nil (String.toList_eq_nil_iff.not.2 h)
  rw [String.append_assoc, String.toList_append, String.toList_append, hs, List.cons_append, List.tail_cons]
  exact List.mem_append_right _ (List.mem_append_left _ (by decide))

theorem escapeKeyword_not_mem (s : String) : escapeKeyword s ∉ cKeywords := by
  by_cases hs : s ∈ cKeywords
  · have hne : s ≠ "" := by
      rintro rfl
      exact absurd hs (by decide)
    have hescaped : escapeKeyword s = s ++ "_" ++ "" := by simp [escapeKeyword, hs]
    rw [hescaped]
    exact not_mem_cKeywords_append hne
  · rwa [escapeKeyword_of_not_mem hs]

theorem IsUsable.escapeKeyword {exposed : Bool} (h : IsUsable exposed s) : IsUsable exposed (escapeKeyword s) := by
  by_cases hs : s ∈ cKeywords
  · have hescaped : CrateHeader.escapeKeyword s = s ++ "_" := by simp [CrateHeader.escapeKeyword, hs]
    rw [hescaped]
    exact isUsable_of_isWord exposed (isWord_append (shape_of_mem_cKeywords hs).2.2.2.2 isNameText_underscore)
  · rwa [escapeKeyword_of_not_mem hs]

namespace RenameRule

open Identifier

variable {rule : RenameRule}

/-- Does a rule leave small letters at the front of a name? -/
def startsSmall : RenameRule → Bool
  | none | lower | camel | snake => true
  | upper | pascal | gecko | screamingSnake | qualifiedScreamingSnake => false

theorem not_mem_cKeywords_of_upper (h : ∀ c ∈ s.toList, c.isLower = false) : s ∉ cKeywords := by
  intro hkeyword
  obtain ⟨c, hc, hsmall⟩ := (shape_of_mem_cKeywords hkeyword).1
  rw [h c hc] at hsmall
  cases hsmall

theorem isLower_upper (h : IsNameText s) : ∀ c ∈ (Text.upper s).toList, c.isLower = false := by
  intro c hc
  rw [toList_upper h, List.mem_map] at hc
  obtain ⟨d, hd, rfl⟩ := hc
  exact isLower_toUpper (h d hd)

theorem isLower_screamingText (h : ∀ w ∈ ws, IsNameText w) :
    ∀ c ∈ (screamingText ws).toList, c.isLower = false := by
  unfold screamingText
  induction ws with
  | nil => exact fun c hc => nomatch hc
  | cons w rest ih =>
    rw [List.forall_mem_cons] at h
    cases rest with
    | nil =>
      rw [List.map_singleton, String.intercalate_singleton]
      exact isLower_upper h.1
    | cons v rest =>
      rw [List.map_cons, List.map_cons, String.intercalate_cons_cons]
      simp only [String.toList_append, List.forall_mem_append]
      exact ⟨⟨isLower_upper h.1, List.forall_mem_singleton.2 rfl⟩, ih h.2⟩

/-- A keyword does not begin with a capital letter. -/
theorem pascalText_not_mem_cKeywords {c : Char} {w : String} {ws : List String} (hlead : lead? name = some c)
    (hhead : w.toList.head? = some c) (hplain : ∀ v ∈ w :: ws, IsNameText v) : pascalText (w :: ws) ∉ cKeywords := by
  intro hmem
  obtain ⟨_, ⟨d, hd, hshape⟩, _⟩ := shape_of_mem_cKeywords hmem
  rw [(begins_pascalText hplain hhead).2] at hd
  cases hd
  have hc := hplain w List.mem_cons_self c (List.mem_of_head? hhead)
  have hmark : c ≠ '_' := by simpa using List.find?_some hlead
  rcases hshape with hsmall | hunder
  · rw [isLower_toUpper hc] at hsmall
    cases hsmall
  · exact toUpper_ne_underscore hc hmark hunder

/-- A rule that makes the front of a variant's name large makes no keyword of it. -/
theorem startsSmall_of_apply_mem {owner : String} (h : isWord name = true)
    (hkeyword : rule.apply name .enumVariant owner ∈ cKeywords) : rule.startsSmall = true := by
  have hname := isNameText_of_isWord h
  cases hlead : lead? name with
  | none =>
    rw [apply_eq_self rule .enumVariant hname hlead] at hkeyword
    exact absurd hlead (shape_of_mem_cKeywords hkeyword).2.2.2.1
  | some c =>
    obtain ⟨w, ws, hsplit, hhead, hplain⟩ := splitWords_eq_cons hname hlead
    have hpascal := pascalText_not_mem_cKeywords hlead hhead hplain
    have hscreaming := isLower_screamingText hplain
    simp only [apply, hsplit, List.isEmpty_cons, Bool.false_eq_true, if_false] at hkeyword
    cases rule with
    | none => rfl
    | lower => rfl
    | camel => rfl
    | snake => rfl
    | upper => exact absurd hkeyword (not_mem_cKeywords_of_upper (isLower_upper hname))
    | pascal => exact absurd hkeyword hpascal
    | gecko =>
      rw [show geckoMark .enumVariant = "" from rfl, String.empty_append] at hkeyword
      exact absurd hkeyword hpascal
    | screamingSnake => exact absurd hkeyword (not_mem_cKeywords_of_upper hscreaming)
    | qualifiedScreamingSnake =>
      simp only at hkeyword
      split at hkeyword
      · exact absurd hkeyword (not_mem_cKeywords_of_upper hscreaming)
      · next hne => exact absurd hkeyword (not_mem_cKeywords_append hne)

end RenameRule

/-! ### The names of members -/

namespace Body

/-- The fields of a struct or union, those of all payloads of an enum. -/
def fields : Body → List Field
  | struct fields => fields
  | union fields => fields
  | enum variants => variants.flatMap (·.fields)
  | _ => []

def variants : Body → List Variant
  | enum variants => variants
  | _ => []

/-! A member has its name among those that share its scope. -/

theorem exists_memberNames_of_field {b : Body} {f : Field} (hf : f ∈ b.fields) :
    ∃ names ∈ b.memberNames, f.name ∈ names := by
  cases b with
  | struct fields => exact ⟨_, List.mem_cons_self, List.mem_map_of_mem hf⟩
  | union fields => exact ⟨_, List.mem_cons_self, List.mem_map_of_mem hf⟩
  | enum variants =>
    obtain ⟨v, hv, hf⟩ := List.mem_flatMap.1 hf
    exact ⟨_, List.mem_cons_of_mem _ (List.mem_map_of_mem hv), List.mem_map_of_mem hf⟩
  | _ => cases hf

theorem exists_memberNames_of_argument {b : Body} {a : Argument} (ha : a ∈ b.arguments)
    (hname : a.name = some name) :
    ∃ names ∈ b.memberNames, name ∈ names := by
  cases b with
  | function args ret never => exact ⟨_, List.mem_cons_self, List.mem_filterMap.2 ⟨a, ha, hname⟩⟩
  | _ => cases ha

theorem exists_memberNames_of_variant {b : Body} {v : Variant} (hv : v ∈ b.variants) :
    ∃ names ∈ b.memberNames, v.name ∈ names := by
  cases b with
  | enum variants => exact ⟨_, List.mem_cons_self, List.mem_map_of_mem hv⟩
  | _ => cases hv

end Body

namespace Entity

variable {settings : Settings} {e : Entity}

/-- Do the variants of an enum have its name in front by the settings, whatever their rule makes of them? -/
def prefixesVariants (settings : Settings) (e : Entity) : Bool :=
  settings.enumeration.prefixWithName && e.variantRule settings != .qualifiedScreamingSnake

theorem IsNamed.field (h : e.IsNamed settings) : ∀ f ∈ e.body.fields,
    f.exportName = escapeKeyword ((e.fieldRule settings).apply f.name .structMember "") := by
  have hfields : ∀ {rule : RenameRule} {fields : List Field}, fields.map (Field.named rule) = fields →
      ∀ f ∈ fields, f.exportName = escapeKeyword (rule.apply f.name .structMember "") := fun hsame f hf =>
    congrArg Field.exportName (Header.eq_of_map_eq_self hsame f hf).symm
  intro f hf
  cases hbody : e.body with
  | struct fields =>
    simp only [IsNamed, nameMembers, hbody, Body.struct.injEq] at h
    simp only [fieldRule, hbody]
    exact hfields h f (by rwa [hbody] at hf)
  | union fields =>
    simp only [IsNamed, nameMembers, hbody, Body.union.injEq] at h
    simp only [fieldRule, hbody]
    exact hfields h f (by rwa [hbody] at hf)
  | enum variants =>
    rw [hbody, Body.fields] at hf
    obtain ⟨v, hv, hf⟩ := List.mem_flatMap.1 hf
    simp only [fieldRule, hbody]
    exact hfields (Header.variant_of_named hbody h v hv).2 f hf
  | _ => rw [hbody] at hf; cases hf

theorem IsNamed.argument (h : e.IsNamed settings) : ∀ a ∈ e.body.arguments, ∀ name, a.name = some name →
    a.exportName = some (escapeKeyword ((e.argumentRule settings).apply name .functionArg "")) := by
  intro a ha name hname
  cases hbody : e.body with
  | function args ret never =>
    simp only [IsNamed, nameMembers, hbody, Body.function.injEq, and_true] at h
    rw [hbody] at ha
    have hsame := congrArg Argument.exportName (Header.eq_of_map_eq_self h a ha)
    rw [Argument.named, hname] at hsame
    exact hsame.symm
  | _ => rw [hbody] at ha; cases ha

theorem IsNamed.variant (h : e.IsNamed settings) : ∀ v ∈ e.body.variants, v.exportName =
    if e.prefixesVariants settings then
      e.exportName ++ "_" ++ (e.variantRule settings).apply v.name .enumVariant e.exportName
    else (e.variantRule settings).apply v.name .enumVariant e.exportName := by
  intro v hv
  cases hbody : e.body with
  | enum variants => exact (Header.variant_of_named hbody h v (by rwa [hbody] at hv)).1
  | _ => rw [hbody] at hv; cases hv

/-- An entity that is exported by a word, with words for the names of its members in the source. -/
structure HasWords (e : Entity) : Prop where
  own : isWord e.exportName = true
  members : ∀ names ∈ e.body.memberNames, ∀ name ∈ names, isWord name = true

theorem isUsable_field (h : e.IsNamed settings) (he : e.HasWords) : ∀ f ∈ e.body.fields,
    IsUsable ((e.fieldRule settings).exposesDigit .structMember "" f.name) f.exportName ∧
      f.exportName ∉ cKeywords := by
  intro f hf
  obtain ⟨names, hnames, hname⟩ := Body.exists_memberNames_of_field hf
  have hword := he.members names hnames _ hname
  rw [h.field f hf]
  exact ⟨(RenameRule.isUsable_apply _ _ hword isNameText_empty).escapeKeyword, escapeKeyword_not_mem _⟩

theorem isUsable_argument (h : e.IsNamed settings) (he : e.HasWords) :
    ∀ a ∈ e.body.arguments, ∀ name, a.name = some name → ∃ given, a.exportName = some given ∧
      IsUsable ((e.argumentRule settings).exposesDigit .functionArg "" name) given ∧ given ∉ cKeywords := by
  intro a ha name hname
  obtain ⟨names, hnames, hmem⟩ := Body.exists_memberNames_of_argument ha hname
  have hword := he.members names hnames _ hmem
  exact ⟨_, h.argument a ha name hname,
    (RenameRule.isUsable_apply _ _ hword isNameText_empty).escapeKeyword, escapeKeyword_not_mem _⟩

theorem isUsable_variant (h : e.IsNamed settings) (he : e.HasWords) : ∀ v ∈ e.body.variants,
    IsUsable (!e.prefixesVariants settings &&
        (e.variantRule settings).exposesDigit .enumVariant e.exportName v.name) v.exportName ∧
      (v.exportName ∈ cKeywords →
        e.prefixesVariants settings = false ∧ (e.variantRule settings).startsSmall = true) := by
  intro v hv
  obtain ⟨names, hnames, hname⟩ := Body.exists_memberNames_of_variant hv
  have hword := he.members names hnames _ hname
  have husable := RenameRule.isUsable_apply (e.variantRule settings) .enumVariant hword
    (isNameText_of_isWord he.own)
  rw [h.variant v hv]
  cases hprefix : e.prefixesVariants settings with
  | true =>
    have howner := (isUsable_of_isWord true he.own).ne_empty
    rw [if_pos rfl]
    refine ⟨isUsable_of_isWord _ ?_, fun hkeyword => absurd hkeyword (not_mem_cKeywords_append howner)⟩
    rw [String.append_assoc]
    exact isWord_append he.own (isNameText_append.2 ⟨isNameText_underscore, husable.plain⟩)
  | false =>
    rw [if_neg Bool.false_ne_true]
    exact ⟨husable, fun hkeyword => ⟨rfl, RenameRule.startsSmall_of_apply_mem hword hkeyword⟩⟩

end Entity

namespace Library

/-- Where the members of a library have words for their names and its entities export words, what a member is
called is a word unless its rule puts a digit in front. Fields and arguments are not called by keywords of C. A
variant may be, if it has not the name of its enum in front and its rule leaves small letters at the front. -/
theorem isUsable_assignNames {settings : Settings} {lib : Library}
    (hmembers : ∀ e ∈ lib.entities, ∀ names ∈ e.body.memberNames, ∀ name ∈ names, isWord name = true)
    (howners : ∀ e ∈ (lib.assignNames settings).entities, isWord e.exportName = true) :
    ∀ e ∈ (lib.assignNames settings).entities,
      (∀ f ∈ e.body.fields, IsUsable ((e.fieldRule settings).exposesDigit .structMember "" f.name) f.exportName ∧
        f.exportName ∉ cKeywords) ∧
      (∀ a ∈ e.body.arguments, ∀ name, a.name = some name → ∃ given, a.exportName = some given ∧
        IsUsable ((e.argumentRule settings).exposesDigit .functionArg "" name) given ∧ given ∉ cKeywords) ∧
      ∀ v ∈ e.body.variants,
        IsUsable (!e.prefixesVariants settings &&
          (e.variantRule settings).exposesDigit .enumVariant e.exportName v.name) v.exportName ∧
        (v.exportName ∈ cKeywords →
          e.prefixesVariants settings = false ∧ (e.variantRule settings).startsSmall = true) := by
  intro e he
  have hwords : e.HasWords := by
    refine ⟨howners e he, ?_⟩
    obtain ⟨x, hx, rfl⟩ := List.mem_map.1 he
    rw [x.memberNames_assignNames settings]
    exact hmembers x hx
  have hnamed : e.IsNamed settings := by
    obtain ⟨x, _, rfl⟩ := List.mem_map.1 he
    exact x.isNamed_assignNames settings
  exact ⟨e.isUsable_field hnamed hwords, e.isUsable_argument hnamed hwords, e.isUsable_variant hnamed hwords⟩

/-- A struct, an enum with a payload and a function, with names that rules change and that keywords are made of. -/
def gaugeLibrary : Library := ⟨[
  .bare "Gauge" 0 (.struct [.bare "max_level" (.primitive .u8), .bare "Default" (.primitive .u8)]),
  .bare "Signal" 1 (.enum [⟨"Auto", "Auto", none, [.bare "UnitName" (.primitive .u8)], [], none⟩,
    ⟨"OutOfRange", "OutOfRange", none, [], [], none⟩]),
  .bare "read_gauge" 2 (.function [⟨some "RawValue", none, .primitive .u8, none, none⟩,
    ⟨some "Int", none, .primitive .u8, none, none⟩] .void false)], [], []⟩

def gaugeSettings : Settings :=
  { Settings.default with
    renameFields := .camel
    enumeration := { Settings.default.enumeration with renameVariants := .qualifiedScreamingSnake }
    function := { Settings.default.function with renameArgs := .snake } }

theorem isUsable_assignNames_gauge :
    (∀ e ∈ gaugeLibrary.entities, ∀ names ∈ e.body.memberNames, ∀ name ∈ names, isWord name = true) ∧
    (∀ e ∈ (gaugeLibrary.assignNames gaugeSettings).entities, isWord e.exportName = true) ∧
    (gaugeLibrary.assignNames gaugeSettings).entities.map (fun e => (e.body.fields.map (·.exportName),
        e.body.variants.map (·.exportName), e.body.arguments.map (·.exportName))) =
      [(["maxLevel", "default_"], [], []), (["unitName"], ["SIGNAL_AUTO", "SIGNAL_OUT_OF_RANGE"], []),
        ([], [], [some "raw_value", some "int_"])] ∧
    ∀ e ∈ (gaugeLibrary.assignNames gaugeSettings).entities,
      (∀ f ∈ e.body.fields, isWord f.exportName = true ∧ f.exportName ∉ cKeywords) ∧
      (∀ a ∈ e.body.arguments, ∀ name, a.name = some name → ∃ given, a.exportName = some given ∧
        isWord given = true ∧ given ∉ cKeywords) ∧
      ∀ v ∈ e.body.variants, isWord v.exportName = true ∧ v.exportName ∉ cKeywords := by
  have hmembers : ∀ e ∈ gaugeLibrary.entities, ∀ names ∈ e.body.memberNames, ∀ name ∈ names,
      isWord name = true := by decide
  have howners : ∀ e ∈ (gaugeLibrary.assignNames gaugeSettings).entities, isWord e.exportName = true := by
    decide +kernel
  have hdigits : ∀ e ∈ (gaugeLibrary.assignNames gaugeSettings).entities,
      (∀ f ∈ e.body.fields, (e.fieldRule gaugeSettings).exposesDigit .structMember "" f.name = false) ∧
      (∀ a ∈ e.body.arguments, ∀ name ∈ a.name,
        (e.argumentRule gaugeSettings).exposesDigit .functionArg "" name = false) ∧
      ∀ v ∈ e.body.variants, (!e.prefixesVariants gaugeSettings &&
          (e.variantRule gaugeSettings).exposesDigit .enumVariant e.exportName v.name) = false ∧
        (e.variantRule gaugeSettings).startsSmall = false := by decide +kernel
  refine ⟨hmembers, howners, ?names, fun e he => ?_⟩
  case names => cbv
  obtain ⟨hfields, harguments, hvariants⟩ := isUsable_assignNames hmembers howners e he
  obtain ⟨hfield, hargument, hvariant⟩ := hdigits e he
  refine ⟨fun f hf => ?_, fun a ha name hname => ?_, fun v hv => ?_⟩
  · obtain ⟨husable, hkeyword⟩ := hfields f hf
    exact ⟨husable.word (hfield f hf), hkeyword⟩
  · obtain ⟨given, hgiven, husable, hkeyword⟩ := harguments a ha name hname
    exact ⟨given, hgiven, husable.word (hargument a ha name hname), hkeyword⟩
  · obtain ⟨husable, hkeyword⟩ := hvariants v hv
    obtain ⟨hdigit, hlarge⟩ := hvariant v hv
    refine ⟨husable.word hdigit, fun hmem => ?_⟩
    rw [(hkeyword hmem).2] at hlarge
    cases hlarge

/-- A struct with two fields that have no names of their own, and an enum. -/
def pairLibrary : Library := ⟨[
  .bare "Pair" 0 (.struct [.bare "_0" (.primitive .u8), .bare "_1" (.primitive .u8)]),
  .bare "Mode" 1 (.enum [⟨"Auto", "Auto", none, [], [], none⟩])], [], []⟩

def pairSettings : Settings :=
  { Settings.default with
    renameFields := .snake
    enumeration := { Settings.default.enumeration with renameVariants := .lower } }

/-- The variant is called by a keyword, and the fields are called by digits. -/
theorem not_usable_pair :
    (∀ e ∈ pairLibrary.entities, ∀ names ∈ e.body.memberNames, ∀ name ∈ names, isWord name = true) ∧
    (∀ e ∈ (pairLibrary.assignNames pairSettings).entities, isWord e.exportName = true) ∧
    (∃ e ∈ (pairLibrary.assignNames pairSettings).entities, ∃ v ∈ e.body.variants,
      v.exportName = "auto" ∧ v.exportName ∈ cKeywords) ∧
    ∃ e ∈ (pairLibrary.assignNames pairSettings).entities, ∃ f ∈ e.body.fields,
      f.exportName = "0" ∧ isWord f.exportName = false := by
  refine ⟨?_, ?_, ?_, ?_⟩
  · decide
  · decide
  · decide +kernel
  · decide +kernel

end Library

end CrateHeader
