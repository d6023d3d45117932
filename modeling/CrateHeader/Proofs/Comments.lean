import CrateHeader.Text.Lines
import Mathlib.Data.List.DropRight

/-!
# Comments in C

A C text is read after the line ends behind a backslash are gone. Then a comment counts as one space; there is none
inside a literal, and a literal ends with its line at the latest. Two texts show the same if without their comments
they have the same lines, but for blank lines and for spaces at the ends of lines.

Trigraphs are left aside.
-/

namespace CrateHeader.CComment

/-! ### Reading -/

/-- A text without its line ends behind a backslash. -/
def splice : List Char → List Char
  | [] => []
  | '\\' :: '\n' :: rest => splice rest
  | c :: rest => c :: splice rest

/-- What a reader is in the middle of. -/
inductive Region where
  | code
  /-- Behind a slash, which may be the start of a comment. -/
  | slash
  | line
  | block
  /-- In a block comment behind a star, which may be the start of its end. -/
  | star
  | literal (quote : Char)
  /-- In a literal behind a backslash. -/
  | escape (quote : Char)
  deriving DecidableEq, Repr

/-- One character on, with what is shown. -/
def step : Region → Char → Region × List Char
  | .code, c =>
    if c = '/' then (.slash, [])
    else if c = '"' ∨ c = '\'' then (.literal c, [c])
    else (.code, [c])
  | .slash, c =>
    if c = '/' then (.line, [' '])
    else if c = '*' then (.block, [' '])
    else if c = '"' ∨ c = '\'' then (.literal c, ['/', c])
    else (.code, ['/', c])
  | .line, c => if c = '\n' then (.code, [c]) else (.line, [])
  | .block, c => if c = '*' then (.star, []) else (.block, [])
  | .star, c => if c = '/' then (.code, []) else if c = '*' then (.star, []) else (.block, [])
  | .literal quote, c =>
    if c = '\n' ∨ c = quote then (.code, [c])
    else if c = '\\' then (.escape quote, [c])
    else (.literal quote, [c])
  | .escape quote, c => if c = '\n' then (.code, [c]) else (.literal quote, [c])

def after : Region → List Char → Region
  | r, [] => r
  | r, c :: rest => after (step r c).1 rest

def shown : Region → List Char → List Char
  | _, [] => []
  | r, c :: rest => (step r c).2 ++ shown (step r c).1 rest

/-- What is still to be shown at the end. -/
def pending : Region → List Char
  | .slash => ['/']
  | _ => []

/-- A text without its comments. -/
def remove (text : List Char) : List Char :=
  shown .code (splice text) ++ pending (after .code (splice text))

/-! ### Lines that show something -/

/-- The lines of a text without spaces at their ends, but for those that are then empty. -/
def visible (text : List Char) : List (List Char) :=
  let (first, rest) := Text.splitChars '\n' text
  ((first :: rest).map fun line => line.rdropWhile (· == ' ')).filter (· ≠ [])

/-- Some lines as a text, each with its line end. -/
def unlines (lines : List String) : List Char := lines.flatMap fun line => line.toList ++ ['\n']

/-! ### Putting texts together -/

section Texts

variable {a b s t : List Char} {r : Region}

theorem splice_cons {c : Char} (h : c ≠ '\\') (s : List Char) : splice (c :: s) = c :: splice s := by
  rw [splice]
  intro _ hc _
  exact h hc

theorem splice_cons_cons {c d : Char} (h : c = '\\' → d ≠ '\n') (s : List Char) :
    splice (c :: d :: s) = c :: splice (d :: s) := by
  rw [splice]
  intro _ hc hs
  exact h hc (List.cons.inj hs).1

theorem splice_singleton (c : Char) : splice [c] = [c] := by
  rw [splice, splice]
  simp

/-- Nothing runs over the end of a line. -/
theorem splice_append (a b : List Char) : splice (a ++ '\n' :: b) = splice (a ++ ['\n']) ++ splice b := by
  fun_induction splice a with
  | case1 =>
    rw [List.nil_append, List.nil_append, splice_cons (by decide), splice_singleton]
    rfl
  | case2 rest ih => exact ih
  | case3 c rest hother ih =>
    cases rest with
    | nil =>
      by_cases hc : c = '\\'
      · subst hc
        rfl
      · rw [List.cons_append, List.cons_append, splice_cons hc, splice_cons hc, ih]
        rfl
    | cons d rest =>
      have hd : c = '\\' → d ≠ '\n' := by
        rintro rfl rfl
        exact hother rest rfl rfl
      simp only [List.cons_append, splice_cons_cons hd] at ih ⊢
      rw [ih]

/-- A text is not changed at its end, unless it is a line end behind a backslash. -/
theorem splice_concat {c : Char} (h : c = '\n' → a.getLast? ≠ some '\\') : splice (a ++ [c]) = splice a ++ [c] := by
  fun_induction splice a with
  | case1 => exact splice_singleton c
  | case2 rest ih =>
    refine ih fun hc => ?_
    cases rest with
    | nil => simp
    | cons d rest => simpa [List.getLast?_cons_cons] using h hc
  | case3 first rest hother ih =>
    cases rest with
    | nil =>
      have hc : first = '\\' → c ≠ '\n' := fun hfirst hc => h hc (congrArg some hfirst)
      rw [List.cons_append, List.nil_append, splice_cons_cons hc, splice_singleton]
      rfl
    | cons d rest =>
      rw [List.getLast?_cons_cons] at h
      have hd : first = '\\' → d ≠ '\n' := by
        rintro rfl rfl
        exact hother rest rfl rfl
      rw [List.cons_append, List.cons_append, splice_cons_cons hd]
      exact congrArg (first :: ·) (ih h)

/-- A backslash at the end takes the line end away. -/
theorem splice_concat_backslash (a : List Char) : splice (a ++ ['\\', '\n']) = splice a := by
  fun_induction splice a with
  | case1 => rfl
  | case2 rest ih => exact ih
  | case3 c rest hother ih =>
    cases rest with
    | nil =>
      rw [List.cons_append, List.nil_append, splice_cons_cons fun _ => by decide]
      rfl
    | cons d rest =>
      have hd : c = '\\' → d ≠ '\n' := by
        rintro rfl rfl
        exact hother rest rfl rfl
      rw [List.cons_append, List.cons_append, splice_cons_cons hd]
      exact congrArg (c :: ·) ih

theorem splice_append_of_not_mem (h : '\\' ∉ a) (b : List Char) : splice (a ++ b) = a ++ splice b := by
  induction a with
  | nil => rfl
  | cons c rest ih =>
    rw [List.mem_cons, not_or] at h
    rw [List.cons_append, splice_cons (Ne.symm h.1), ih h.2, List.cons_append]

theorem splice_eq_self (h : '\n' ∉ a) : splice a = a := by
  fun_induction splice a with
  | case1 => rfl
  | case2 rest ih => simp at h
  | case3 c rest hother ih => rw [ih fun hmem => h (List.mem_cons_of_mem _ hmem)]

theorem after_append (r : Region) (s t : List Char) : after r (s ++ t) = after (after r s) t := by
  induction s generalizing r with
  | nil => rfl
  | cons c rest ih => exact ih _

theorem shown_append (r : Region) (s t : List Char) : shown r (s ++ t) = shown r s ++ shown (after r s) t := by
  induction s generalizing r with
  | nil => rfl
  | cons c rest ih => rw [List.cons_append, shown, shown, ih, List.append_assoc]; rfl

/-- A line end is shown wherever it ends a line of code. -/
theorem step_newline (h : (step r '\n').1 = .code) : ∃ o, (step r '\n').2 = o ++ ['\n'] := by
  cases r with
  | block => cases h
  | star => cases h
  | slash => exact ⟨['/'], rfl⟩
  | _ => exact ⟨[], rfl⟩

theorem splitChars_cons (sep c : Char) (s : List Char) : Text.splitChars sep (c :: s) =
    if c = sep then ([], (Text.splitChars sep s).1 :: (Text.splitChars sep s).2)
    else (c :: (Text.splitChars sep s).1, (Text.splitChars sep s).2) := rfl

theorem splitChars_append (sep : Char) (a b : List Char) : Text.splitChars sep (a ++ sep :: b) =
    ((Text.splitChars sep a).1,
      (Text.splitChars sep a).2 ++ (Text.splitChars sep b).1 :: (Text.splitChars sep b).2) := by
  induction a with
  | nil => simp [Text.splitChars]
  | cons c rest ih =>
    rw [List.cons_append, splitChars_cons, ih, splitChars_cons]
    by_cases hc : c = sep
    · rw [if_pos hc, if_pos hc]
      rfl
    · rw [if_neg hc, if_neg hc]

theorem visible_append (a b : List Char) : visible (a ++ '\n' :: b) = visible a ++ visible b := by
  simp only [visible, splitChars_append, ← List.cons_append, List.map_append, List.filter_append]

theorem visible_newline (a : List Char) : visible (a ++ ['\n']) = visible a := by
  have hnone : visible [] = [] := rfl
  rw [visible_append, hnone, List.append_nil]

/-- The pieces of a text have its characters, but for the one between them. -/
theorem mem_of_mem_splitChars {sep c : Char} {p : List Char}
    (hp : p ∈ (Text.splitChars sep s).1 :: (Text.splitChars sep s).2) (hc : c ∈ p) : c ∈ s ∧ c ≠ sep := by
  induction s generalizing p with
  | nil =>
    rw [Text.splitChars, List.mem_singleton] at hp
    exact absurd (hp ▸ hc) List.not_mem_nil
  | cons d rest ih =>
    have hrest : ∀ q ∈ (Text.splitChars sep rest).1 :: (Text.splitChars sep rest).2, c ∈ q → c ∈ d :: rest ∧ c ≠ sep :=
      fun q hq hcq => ⟨List.mem_cons_of_mem _ (ih hq hcq).1, (ih hq hcq).2⟩
    rw [splitChars_cons] at hp
    split at hp
    · rcases List.mem_cons.1 hp with rfl | hp
      · exact absurd hc List.not_mem_nil
      · exact hrest p hp hc
    · next hd =>
      rcases List.mem_cons.1 hp with rfl | hp
      · rcases List.mem_cons.1 hc with rfl | hc
        · exact ⟨List.mem_cons_self, hd⟩
        · exact hrest _ List.mem_cons_self hc
      · exact hrest p (List.mem_cons_of_mem _ hp) hc

/-- What has only spaces between its line ends shows nothing. -/
theorem visible_blank (h : ∀ c ∈ s, c = ' ' ∨ c = '\n') : visible s = [] := by
  refine List.filter_eq_nil_iff.2 fun line hline => ?_
  obtain ⟨p, hp, rfl⟩ := List.mem_map.1 hline
  have hspaces : ∀ c ∈ p, c = ' ' := by
    intro c hc
    obtain ⟨hmem, hne⟩ := mem_of_mem_splitChars hp hc
    exact (h c hmem).resolve_right hne
  have hdrop : p.rdropWhile (· == ' ') = [] :=
    List.rdropWhile_eq_nil_iff.2 fun c hc => by simpa using hspaces c hc
  simp [hdrop]

end Texts

/-! ### Lines that end as they begin -/

/-- A line behind which the next one is read from the start. -/
def IsClosed (line : String) : Prop :=
  line.toList.getLast? ≠ some '\\' ∧ after .code (splice (line.toList ++ ['\n'])) = .code

instance (line : String) : Decidable (IsClosed line) := inferInstanceAs (Decidable (_ ∧ _))

/-- Lines that show nothing, and behind which the next one is read from the start. -/
structure IsSilent (block : List String) : Prop where
  after : CComment.after .code (splice (unlines block)) = .code
  blank : ∀ c ∈ shown .code (splice (unlines block)), c = ' ' ∨ c = '\n'
  ends : block = [] ∨ ∃ o, shown .code (splice (unlines block)) = o ++ ['\n']

/-- Some lines with others in which silent ones have been inserted. -/
inductive Inserts : List String → List String → Prop where
  | nil : Inserts [] []
  | line {as bs : List String} (line : String) (h : Inserts as bs) : Inserts (line :: as) (line :: bs)
  | silent {block as bs : List String} (hblock : IsSilent block) (h : Inserts as bs) : Inserts (block ++ as) bs

variable {as bs cs ds block : List String} {line : String}

theorem unlines_cons (line : String) (rest : List String) :
    unlines (line :: rest) = line.toList ++ '\n' :: unlines rest := by
  simp [unlines]

theorem splice_unlines_cons (line : String) (rest : List String) :
    splice (unlines (line :: rest)) = splice (line.toList ++ ['\n']) ++ splice (unlines rest) := by
  rw [unlines_cons, splice_append]

theorem splice_unlines_append (as bs : List String) :
    splice (unlines (as ++ bs)) = splice (unlines as) ++ splice (unlines bs) := by
  induction as with
  | nil => rfl
  | cons line rest ih => rw [List.cons_append, splice_unlines_cons, ih, splice_unlines_cons, List.append_assoc]

theorem isSilent_nil : IsSilent [] := ⟨rfl, by simp [unlines, splice, shown], .inl rfl⟩

theorem IsSilent.append (ha : IsSilent as) (hb : IsSilent bs) : IsSilent (as ++ bs) := by
  have hshown : shown .code (splice (unlines (as ++ bs))) =
      shown .code (splice (unlines as)) ++ shown .code (splice (unlines bs)) := by
    rw [splice_unlines_append, shown_append, ha.after]
  refine ⟨?_, ?_, ?_⟩
  · rw [splice_unlines_append, after_append, ha.after, hb.after]
  · rw [hshown, List.forall_mem_append]
    exact ⟨ha.blank, hb.blank⟩
  · rcases hb.ends with rfl | ⟨o, ho⟩
    · rw [List.append_nil]
      exact ha.ends
    · exact .inr ⟨_, by rw [hshown, ho, ← List.append_assoc]⟩

/-- A closed line is shown to its end. -/
theorem IsClosed.exists_shown (h : IsClosed line) :
    ∃ o, shown .code (splice (line.toList ++ ['\n'])) = o ++ ['\n'] := by
  obtain ⟨hlast, hafter⟩ := h
  rw [splice_concat fun _ => hlast, after_append] at hafter
  obtain ⟨o, ho⟩ := step_newline hafter
  refine ⟨shown .code (splice line.toList) ++ o, ?_⟩
  rw [splice_concat fun _ => hlast, shown_append, shown, ho, shown, List.append_nil, List.append_assoc]

/-- Silent lines that are inserted between closed ones do not change what is shown. -/
theorem Inserts.visible_eq (h : Inserts as bs) (hclosed : ∀ line ∈ bs, IsClosed line) :
    after .code (splice (unlines as)) = .code ∧ after .code (splice (unlines bs)) = .code ∧
      visible (shown .code (splice (unlines as))) = visible (shown .code (splice (unlines bs))) := by
  induction h with
  | nil => exact ⟨rfl, rfl, rfl⟩
  | @line as bs line _ ih =>
    rw [List.forall_mem_cons] at hclosed
    obtain ⟨has, hbs, hsame⟩ := ih hclosed.2
    obtain ⟨o, ho⟩ := hclosed.1.exists_shown
    have hline := hclosed.1.2
    simp only [splice_unlines_cons, after_append, shown_append, hline, has, hbs, ho, List.append_assoc,
      List.singleton_append, visible_append, hsame, and_self]
  | @silent block as bs hblock _ ih =>
    obtain ⟨has, hbs, hsame⟩ := ih hclosed
    rw [splice_unlines_append, after_append, shown_append, hblock.after, has, ← hsame]
    refine ⟨rfl, hbs, ?_⟩
    rcases hblock.ends with rfl | ⟨o, ho⟩
    · rfl
    · have hblank := visible_blank hblock.blank
      rw [ho, visible_newline] at hblank
      rw [ho, List.append_assoc, List.singleton_append, visible_append, hblank, List.nil_append]

/-! ### What can be inserted where -/

theorem inserts_refl (as : List String) : Inserts as as := by
  induction as with
  | nil => exact .nil
  | cons line rest ih => exact .line line ih

theorem Inserts.append (h : Inserts as bs) (h' : Inserts cs ds) : Inserts (as ++ cs) (bs ++ ds) := by
  induction h with
  | nil => exact h'
  | line line _ ih => exact .line line ih
  | silent hblock _ ih =>
    rw [List.append_assoc]
    exact .silent hblock ih

theorem inserts_flatMap {α : Type} {f g : α → List String} {xs : List α} (h : ∀ x ∈ xs, Inserts (f x) (g x)) :
    Inserts (xs.flatMap f) (xs.flatMap g) := by
  induction xs with
  | nil => exact .nil
  | cons x rest ih =>
    rw [List.forall_mem_cons] at h
    exact h.1.append (ih h.2)

/-! ### Line ends at the end -/

/-- One more line end shows nothing. -/
theorem visible_remove_newline {s : List Char} (h : s.getLast? ≠ some '\\') :
    visible (remove (s ++ ['\n'])) = visible (remove s) := by
  have hstep : ∀ r o, visible (o ++ (step r '\n').2 ++ pending (step r '\n').1) = visible (o ++ pending r) := by
    intro r o
    cases r with
    | slash =>
      have h : o ++ (step .slash '\n').2 ++ pending (step .slash '\n').1 = (o ++ ['/']) ++ ['\n'] := by
        simp [step, pending]
      rw [h, visible_newline]
      rfl
    | block => simp [step, pending]
    | star => simp [step, pending]
    | _ => simp [step, pending, visible_newline]
  rw [remove, remove, splice_concat fun _ => h, shown_append, after_append]
  have hlast := hstep (after .code (splice s)) (shown .code (splice s))
  simpa [shown, after] using hlast

theorem visible_remove_newlines {s : List Char} (h : s.getLast? = some '\n') (n : Nat) :
    visible (remove (s ++ List.replicate n '\n')) = visible (remove s) := by
  induction n with
  | zero => rw [List.replicate_zero, List.append_nil]
  | succ n ih =>
    rw [List.replicate_succ', ← List.append_assoc, visible_remove_newline ?_, ih]
    cases n with
    | zero => simp [h]
    | succ n => simp [List.replicate_succ', ← List.append_assoc]

/-! ### Comments on lines of their own -/

section Silent

variable {r : Region} {s : List Char} {margin tail : String}

theorem after_spaces (h : ∀ c ∈ s, c = ' ') : after .code s = .code ∧ shown .code s = s := by
  induction s with
  | nil => exact ⟨rfl, rfl⟩
  | cons c rest ih =>
    rw [List.forall_mem_cons] at h
    obtain ⟨rfl, hrest⟩ := h
    obtain ⟨hafter, hshown⟩ := ih hrest
    exact ⟨hafter, congrArg (' ' :: ·) hshown⟩

/-- Lines that show nothing but the margin and a comment are silent. -/
theorem isSilent_of_shown {block : List String} (hmargin : ∀ c ∈ margin.toList, c = ' ')
    (hafter : after .code (splice (unlines block)) = .code)
    (hshown : shown .code (splice (unlines block)) = margin.toList ++ [' '] ++ ['\n']) : IsSilent block := by
  refine ⟨hafter, ?_, .inr ⟨_, hshown⟩⟩
  rw [hshown]
  intro c hc
  simp only [List.mem_append, List.mem_singleton] at hc
  rcases hc with (hc | rfl) | rfl
  · exact .inl (hmargin c hc)
  · exact .inl rfl
  · exact .inr rfl

/-- A line comment goes on to the end of its line. -/
theorem after_line (h : '\n' ∉ s) : after .line s = .line ∧ shown .line s = [] := by
  induction s with
  | nil => exact ⟨rfl, rfl⟩
  | cons c rest ih =>
    rw [List.mem_cons, not_or] at h
    have hstep : step .line c = (.line, []) := if_neg (Ne.symm h.1)
    rw [after, shown, hstep]
    exact ih h.2

/-- Spaces and a line comment show nothing. -/
theorem isSilent_line (hmargin : ∀ c ∈ margin.toList, c = ' ') (htail : '\n' ∉ tail.toList)
    (hlast : tail.toList.getLast? ≠ some '\\') : IsSilent [margin ++ "//" ++ tail] := by
  have hmarginLine : '\n' ∉ margin.toList := fun hmem => absurd (hmargin _ hmem) (by decide)
  have htext : (margin ++ "//" ++ tail).toList = margin.toList ++ '/' :: '/' :: tail.toList := by simp
  have hsplice : splice (unlines [margin ++ "//" ++ tail]) =
      margin.toList ++ '/' :: '/' :: tail.toList ++ ['\n'] := by
    rw [unlines, List.flatMap_singleton, htext, splice_concat fun _ => ?_, splice_eq_self]
    · simp [hmarginLine, htail]
    · rw [List.getLast?_append]
      cases htail' : tail.toList with
      | nil => simp
      | cons d rest => simpa [htail', List.getLast?_cons_cons] using hlast
  obtain ⟨hspaces, hshownSpaces⟩ := after_spaces hmargin
  obtain ⟨hline, hshownLine⟩ := after_line htail
  have hafter : after .code (splice (unlines [margin ++ "//" ++ tail])) = .code := by
    rw [hsplice, List.append_assoc, after_append, hspaces]
    show after .line (tail.toList ++ ['\n']) = .code
    rw [after_append, hline]
    rfl
  have hshown : shown .code (splice (unlines [margin ++ "//" ++ tail])) = margin.toList ++ [' '] ++ ['\n'] := by
    rw [hsplice, List.append_assoc, shown_append, hspaces, hshownSpaces]
    show margin.toList ++ ' ' :: shown .line (tail.toList ++ ['\n']) = _
    rw [shown_append, hline, hshownLine]
    simp [shown, step]
  exact isSilent_of_shown hmargin hafter hshown

theorem isSilent_lines {tails : List String} (hmargin : ∀ c ∈ margin.toList, c = ' ')
    (htails : ∀ t ∈ tails, '\n' ∉ t.toList ∧ t.toList.getLast? ≠ some '\\') :
    IsSilent (tails.map fun t => margin ++ "//" ++ t) := by
  induction tails with
  | nil => exact isSilent_nil
  | cons t rest ih =>
    rw [List.forall_mem_cons] at htails
    exact (isSilent_line hmargin htails.1.1 htails.1.2).append (ih htails.2)

/-- Is a block comment open? -/
def InBlock (r : Region) : Prop := r = .block ∨ r = .star

/-- A block comment goes on to the first end of a comment. -/
theorem inBlock_after (hr : InBlock r) (hstart : r = .star → s.head? ≠ some '/') (h : ¬ ['*', '/'] <:+: s) :
    InBlock (after r s) ∧ shown r s = [] := by
  induction s generalizing r with
  | nil => exact ⟨hr, rfl⟩
  | cons c rest ih =>
    rw [List.infix_cons_iff, not_or] at h
    obtain ⟨hhere, hrest⟩ := h
    by_cases hc : c = '*'
    · subst hc
      have hnext : rest.head? ≠ some '/' := by
        intro hhead
        obtain ⟨tail, rfl⟩ := List.head?_eq_some_iff.1 hhead
        exact hhere ⟨tail, rfl⟩
      have hstep : step r '*' = (.star, []) := by rcases hr with rfl | rfl <;> rfl
      rw [after, shown, hstep]
      exact ih (.inr rfl) (fun _ => hnext) hrest
    · have hstep : step r c = (.block, []) := by
        rcases hr with rfl | rfl
        · exact if_neg hc
        · have hslash : c ≠ '/' := fun heq => hstart rfl (congrArg some heq)
          rw [step, if_neg hslash, if_neg hc]
      rw [after, shown, hstep]
      exact ih (.inl rfl) (fun hstar => absurd hstar (by decide)) hrest

theorem not_infix_cons {c : Char} (h : ¬ ['*', '/'] <:+: s) (hc : c = '*' → s.head? ≠ some '/') :
    ¬ ['*', '/'] <:+: c :: s := by
  rw [List.infix_cons_iff, not_or]
  refine ⟨?_, h⟩
  rintro ⟨tail, htail⟩
  obtain ⟨rfl, rfl⟩ := List.cons.inj htail
  exact hc rfl rfl

theorem not_infix_of_spaces {t : List Char} (hs : ∀ c ∈ s, c = ' ') (h : ¬ ['*', '/'] <:+: t) :
    ¬ ['*', '/'] <:+: s ++ t := by
  induction s with
  | nil => exact h
  | cons c rest ih =>
    rw [List.forall_mem_cons] at hs
    refine not_infix_cons (ih hs.2) fun hc => ?_
    rw [hs.1] at hc
    exact absurd hc (by decide)

/-- A line end does not end a block comment, whether or not it is taken away. -/
theorem not_infix_splice_newline (h : ¬ ['*', '/'] <:+: splice s) : ¬ ['*', '/'] <:+: splice (s ++ ['\n']) := by
  by_cases hlast : s.getLast? = some '\\'
  · obtain ⟨front, rfl⟩ := List.getLast?_eq_some_iff.1 hlast
    rw [splice_concat fun hc => absurd hc (by decide)] at h
    rw [List.append_assoc, List.singleton_append, splice_concat_backslash]
    exact fun hends => h (hends.trans (List.prefix_append _ _).isInfix)
  · rw [splice_concat fun _ => hlast, List.infix_concat_iff, not_or]
    refine ⟨?_, h⟩
    rintro ⟨front, hfront⟩
    have hend := congrArg List.getLast? hfront
    simp at hend

/-- A line of a block comment that starts with a star leaves the comment open. -/
theorem inBlock_line (hmargin : ∀ c ∈ margin.toList, c = ' ') (htail : tail.toList.head?.getD ' ' = ' ')
    (h : ¬ ['*', '/'] <:+: splice tail.toList) (hr : InBlock r) :
    InBlock (after r (splice ((margin ++ " *" ++ tail).toList ++ ['\n']))) ∧
      shown r (splice ((margin ++ " *" ++ tail).toList ++ ['\n'])) = [] := by
  have hbackslash : '\\' ∉ margin.toList ++ [' ', '*'] := by
    simp only [List.mem_append, List.mem_cons, List.not_mem_nil, or_false]
    rintro (hmem | hmem | hmem)
    · exact absurd (hmargin _ hmem) (by decide)
    · exact absurd hmem (by decide)
    · exact absurd hmem (by decide)
  have hsplice : splice ((margin ++ " *" ++ tail).toList ++ ['\n']) =
      margin.toList ++ ' ' :: '*' :: splice (tail.toList ++ ['\n']) := by
    have htext : (margin ++ " *" ++ tail).toList ++ ['\n'] =
        (margin.toList ++ [' ', '*']) ++ (tail.toList ++ ['\n']) := by simp
    rw [htext, splice_append_of_not_mem hbackslash, List.append_assoc]
    rfl
  have hhead : (splice (tail.toList ++ ['\n'])).head? ≠ some '/' := by
    cases htext : tail.toList with
    | nil => simp [splice_singleton]
    | cons c rest =>
      rw [htext] at htail
      have hc : c = ' ' := htail
      rw [List.cons_append, hc, splice_cons (by decide)]
      simp
  rw [hsplice]
  refine inBlock_after hr (fun _ => ?_) (not_infix_of_spaces hmargin ?_)
  · cases hspaces : margin.toList with
    | nil => simp
    | cons c rest =>
      rw [hspaces, List.forall_mem_cons] at hmargin
      simp [hmargin.1]
  · exact not_infix_cons (not_infix_cons (not_infix_splice_newline h) fun _ => hhead)
      fun hc => absurd hc (by decide)

theorem inBlock_lines {tails : List String} (hmargin : ∀ c ∈ margin.toList, c = ' ')
    (htails : ∀ t ∈ tails, t.toList.head?.getD ' ' = ' ' ∧ ¬ ['*', '/'] <:+: splice t.toList) (hr : InBlock r) :
    InBlock (after r (splice (unlines (tails.map fun t => margin ++ " *" ++ t)))) ∧
      shown r (splice (unlines (tails.map fun t => margin ++ " *" ++ t))) = [] := by
  induction tails generalizing r with
  | nil => exact ⟨hr, rfl⟩
  | cons t rest ih =>
    rw [List.forall_mem_cons] at htails
    obtain ⟨hblock, hshown⟩ := inBlock_line hmargin htails.1.1 htails.1.2 hr
    rw [List.map_cons, splice_unlines_cons, after_append, shown_append, hshown]
    exact ih htails.2 hblock

/-- Spaces and the end of a comment end a block comment. -/
theorem after_end (hspaces : ∀ c ∈ s, c = ' ') (hr : InBlock r) :
    after r (s ++ ['*', '/', '\n']) = .code ∧ shown r (s ++ ['*', '/', '\n']) = ['\n'] := by
  have hnone : ¬ ['*', '/'] <:+: s := by
    have h := not_infix_of_spaces hspaces (t := []) (by simp)
    rwa [List.append_nil] at h
  have hhead : r = .star → s.head? ≠ some '/' := by
    intro _ hhead
    exact absurd (hspaces _ (List.mem_of_mem_head? hhead)) (by decide)
  obtain ⟨hr', hshown⟩ := inBlock_after hr hhead hnone
  rw [after_append, shown_append, hshown]
  rcases hr' with h | h <;> rw [h] <;> exact ⟨rfl, rfl⟩

/-- A block comment of which no line ends it early shows nothing. -/
theorem isSilent_block {tails : List String} (hmargin : ∀ c ∈ margin.toList, c = ' ')
    (htails : ∀ t ∈ tails, t.toList.head?.getD ' ' = ' ' ∧ ¬ ['*', '/'] <:+: splice t.toList) :
    IsSilent ((margin ++ "/**") :: tails.map (fun t => margin ++ " *" ++ t) ++ [margin ++ " */"]) := by
  have hbackslash : '\\' ∉ margin.toList := fun hmem => absurd (hmargin _ hmem) (by decide)
  have hfirst : splice ((margin ++ "/**").toList ++ ['\n']) = margin.toList ++ ['/', '*', '*', '\n'] := by
    rw [String.toList_append, List.append_assoc, splice_append_of_not_mem hbackslash]
    rfl
  have hlast : splice (unlines [margin ++ " */"]) = (margin.toList ++ [' ']) ++ ['*', '/', '\n'] := by
    rw [unlines, List.flatMap_singleton, String.toList_append, List.append_assoc,
      splice_append_of_not_mem hbackslash, List.append_assoc]
    rfl
  obtain ⟨hspaces, hshownSpaces⟩ := after_spaces hmargin
  have hopen : after .code (margin.toList ++ ['/', '*', '*', '\n']) = .block ∧
      shown .code (margin.toList ++ ['/', '*', '*', '\n']) = margin.toList ++ [' '] := by
    rw [after_append, shown_append, hspaces, hshownSpaces]
    exact ⟨rfl, rfl⟩
  obtain ⟨hbody, hshownBody⟩ := inBlock_lines hmargin htails (.inl (Eq.refl Region.block))
  have hblank : ∀ c ∈ margin.toList ++ [' '], c = ' ' := List.forall_mem_append.2 ⟨hmargin, by simp⟩
  obtain ⟨hclose, hshownClose⟩ := after_end hblank hbody
  have hshown : shown .code (splice (unlines
      ((margin ++ "/**") :: tails.map (fun t => margin ++ " *" ++ t) ++ [margin ++ " */"]))) =
        margin.toList ++ [' '] ++ ['\n'] := by
    rw [List.cons_append, splice_unlines_cons, splice_unlines_append, hfirst, hlast, shown_append, hopen.1, hopen.2,
      shown_append, hshownBody, hshownClose, List.nil_append]
  refine isSilent_of_shown hmargin ?_ hshown
  rw [List.cons_append, splice_unlines_cons, splice_unlines_append, hfirst, hlast, after_append, hopen.1,
    after_append, hclose]

end Silent

end CrateHeader.CComment
