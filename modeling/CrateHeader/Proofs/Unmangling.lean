import CrateHeader.Proofs.AlikeArguments

/-!
# Reading mangled names back

Between the underscores of a mangled name stand words: the name of a path, the spelling of a primitive, the mark of
a pointer, an array or a function type, the length of an array, and empty words where a list of arguments or a
function type is closed or has no parameters. If no name or length brings underscores of its own and no name looks
like a mark or a primitive, the first word of a type says what form it has, and each list ends at a word that
starts no type. So the words of types are a prefix code, as soon as a name shows whether arguments follow it.
-/

namespace CrateHeader.Ty

variable {dropUnderscores : Bool} {s t : Ty} {as bs args args' : List Ty} {ws ws' r r' : List String}

/-! ### Types that are spelled in words -/

/-- Letters and digits, at least one. -/
def IsWord (s : String) : Prop := s ≠ "" ∧ s.toList.all Text.isAlphanumeric = true

/-- The words that say what form a type has. -/
def markWords : List String := ["ConstPtr", "MutPtr", "Array", "Fn", "Ret"]

mutual
/-- Every name, spelling and length in a type is one word, and no name is that of a mark or a primitive. -/
def IsMangleable : Ty → Prop
  | primitive k => IsWord k.spelling
  | path name args =>
    IsWord name ∧ name ∉ markWords ∧ Primitive.ofName? name = none ∧ AreMangleable args
  | pointer target _ _ => target.IsMangleable
  | array element length => element.IsMangleable ∧ IsWord length
  | function params ret _ => ParamsMangleable params ∧ ret.IsMangleable

def AreMangleable : List Ty → Prop
  | [] => True
  | t :: rest => t.IsMangleable ∧ AreMangleable rest

def ParamsMangleable : List (Option String × Ty) → Prop
  | [] => True
  | (_, t) :: rest => t.IsMangleable ∧ ParamsMangleable rest
end

instance (s : String) : Decidable (IsWord s) := inferInstanceAs (Decidable (_ ∧ _))

mutual
def decidableMangleable : (t : Ty) → Decidable t.IsMangleable
  | primitive k => inferInstanceAs (Decidable (IsWord k.spelling))
  | path name args =>
    have := decidableAreMangleable args
    inferInstanceAs (Decidable (IsWord name ∧ name ∉ markWords ∧ Primitive.ofName? name = none ∧ AreMangleable args))
  | pointer target _ _ => decidableMangleable target
  | array element length =>
    have := decidableMangleable element
    inferInstanceAs (Decidable (element.IsMangleable ∧ IsWord length))
  | function params ret _ =>
    have := decidableParamsMangleable params
    have := decidableMangleable ret
    inferInstanceAs (Decidable (ParamsMangleable params ∧ ret.IsMangleable))

def decidableAreMangleable : (ts : List Ty) → Decidable (AreMangleable ts)
  | [] => inferInstanceAs (Decidable True)
  | t :: rest =>
    have := decidableMangleable t
    have := decidableAreMangleable rest
    inferInstanceAs (Decidable (t.IsMangleable ∧ AreMangleable rest))

def decidableParamsMangleable : (ps : List (Option String × Ty)) → Decidable (ParamsMangleable ps)
  | [] => inferInstanceAs (Decidable True)
  | (_, t) :: rest =>
    have := decidableMangleable t
    have := decidableParamsMangleable rest
    inferInstanceAs (Decidable (t.IsMangleable ∧ ParamsMangleable rest))
end

instance (ts : List Ty) : Decidable (AreMangleable ts) := decidableAreMangleable ts

mutual
/-- The paths of a type, those inside arguments too, each with the number of its arguments. -/
def uses : Ty → List (String × Nat)
  | primitive _ => []
  | path name args => (name, args.length) :: usesAll args
  | pointer target _ _ => target.uses
  | array element _ => element.uses
  | function params ret _ => usesParams params ++ ret.uses

def usesAll : List Ty → List (String × Nat)
  | [] => []
  | t :: rest => t.uses ++ usesAll rest

def usesParams : List (Option String × Ty) → List (String × Nat)
  | [] => []
  | (_, t) :: rest => t.uses ++ usesParams rest
end

theorem usesAll_append (as bs : List Ty) : usesAll (as ++ bs) = usesAll as ++ usesAll bs := by
  induction as with
  | nil => rfl
  | cons a rest ih => rw [List.cons_append, usesAll, usesAll, ih, List.append_assoc]

/-- A name that is used on both sides has arguments on both or on neither. -/
def UsedAlike (us vs : List (String × Nat)) : Prop :=
  ∀ u ∈ us, ∀ v ∈ vs, u.1 = v.1 → (u.2 = 0 ↔ v.2 = 0)

theorem UsedAlike.mono {us us' vs vs' : List (String × Nat)} (h : UsedAlike us vs) (hus : us' ⊆ us)
    (hvs : vs' ⊆ vs) : UsedAlike us' vs' := fun u hu v hv => h u (hus hu) v (hvs hv)

/-! ### The words of a mangled name -/

/-- Nothing between two underscores is an empty word. -/
def orBlank : List String → List String
  | [] => [""]
  | w :: ws => w :: ws

mutual
/-- The words between the underscores of a mangled type. -/
def words : Ty → List String
  | primitive k => [k.spelling]
  | path name [] => [name]
  | path name (t :: rest) => name :: ((wordsAll (t :: rest)).flatten ++ ["", ""])
  | pointer target isMut _ => (if isMut then "MutPtr" else "ConstPtr") :: target.words
  | array element length => "Array" :: (element.words ++ [length])
  | function params ret _ =>
    "Fn" :: (orBlank (wordsParams params).flatten ++ "Ret" :: (ret.words ++ ["", ""]))

def wordsAll : List Ty → List (List String)
  | [] => []
  | t :: rest => t.words :: wordsAll rest

def wordsParams : List (Option String × Ty) → List (List String)
  | [] => []
  | (_, t) :: rest => t.words :: wordsParams rest
end

/-- The word that says what form a type has. -/
def firstWord : Ty → String
  | primitive k => k.spelling
  | path name _ => name
  | pointer _ isMut _ => if isMut then "MutPtr" else "ConstPtr"
  | array _ _ => "Array"
  | function _ _ _ => "Fn"

theorem words_eq_cons (t : Ty) : ∃ later, t.words = t.firstWord :: later := by
  cases t with
  | path name args => cases args <;> exact ⟨_, rfl⟩
  | _ => exact ⟨_, rfl⟩

theorem words_ne_nil (t : Ty) : t.words ≠ [] := by
  obtain ⟨later, h⟩ := t.words_eq_cons
  rw [h]
  exact List.cons_ne_nil _ _

theorem orBlank_ne_nil (ws : List String) : orBlank ws ≠ [] := by
  cases ws <;> exact List.cons_ne_nil _ _

/-! ### Mangling puts underscores between words -/

theorem intercalate_cons (w : String) (h : ws ≠ []) :
    "_".intercalate (w :: ws) = w ++ "_" ++ "_".intercalate ws := by
  obtain ⟨next, rest, rfl⟩ := List.exists_cons_of_ne_nil h
  rw [String.intercalate_cons_cons]

theorem intercalate_append (h : ws ≠ []) (h' : ws' ≠ []) :
    "_".intercalate (ws ++ ws') = "_".intercalate ws ++ "_" ++ "_".intercalate ws' := by
  induction ws with
  | nil => exact absurd rfl h
  | cons w rest ih =>
    by_cases hrest : rest = []
    · rw [hrest, List.singleton_append, intercalate_cons w h', String.intercalate_singleton]
    · rw [List.cons_append, intercalate_cons w (List.append_ne_nil_of_left_ne_nil hrest _), ih hrest,
        intercalate_cons w hrest]
      simp only [String.append_assoc]

theorem intercalate_flatten {wss : List (List String)} (h : ∀ ws ∈ wss, ws ≠ []) :
    "_".intercalate (wss.map "_".intercalate) = "_".intercalate wss.flatten := by
  induction wss with
  | nil => rfl
  | cons ws rest ih =>
    rw [List.forall_mem_cons] at h
    rw [List.map_cons, List.flatten_cons]
    cases rest with
    | nil => simp
    | cons next rest =>
      have hnext : (next :: rest).flatten ≠ [] :=
        List.append_ne_nil_of_left_ne_nil (h.2 next List.mem_cons_self) _
      have hmap : (next :: rest).map "_".intercalate ≠ [] := List.cons_ne_nil _ _
      rw [intercalate_cons _ hmap, ih h.2, intercalate_append h.1 hnext]

theorem intercalate_orBlank (ws : List String) : "_".intercalate (orBlank ws) = "_".intercalate ws := by
  cases ws <;> simp [orBlank]

theorem words_ne_nil_of_mem_all {ts : List Ty} : ∀ ws ∈ wordsAll ts, ws ≠ [] := by
  induction ts with
  | nil => exact fun _ h => absurd h List.not_mem_nil
  | cons t rest ih => exact List.forall_mem_cons.2 ⟨t.words_ne_nil, ih⟩

theorem words_ne_nil_of_mem_params {ps : List (Option String × Ty)} : ∀ ws ∈ wordsParams ps, ws ≠ [] := by
  induction ps with
  | nil => exact fun _ h => absurd h List.not_mem_nil
  | cons p rest ih => exact List.forall_mem_cons.2 ⟨p.2.words_ne_nil, ih⟩

theorem underscore_not_mem {w : String} (h : IsWord w) : '_' ∉ w.toList := by
  intro hmem
  have hunderscore : Text.isAlphanumeric '_' = false := by decide
  rw [List.all_eq_true.1 h.2 '_' hmem] at hunderscore
  cases hunderscore

/-- A word has nothing to be replaced or left out. -/
theorem identifierText_of_isWord {w : String} (h : IsWord w) : identifierText dropUnderscores w = w := by
  have hchars : (w.toList.map fun c => if Text.isWordChar c then c else '_') = w.toList := by
    conv_rhs => rw [← List.map_id w.toList]
    refine List.map_congr_left fun c hc => ?_
    simp [Text.isWordChar, List.all_eq_true.1 h.2 c hc]
  have hkept : w.toList.filter (· != '_') = w.toList := by
    refine List.filter_eq_self.2 fun c hc => ?_
    rw [bne_iff_ne]
    rintro rfl
    exact underscore_not_mem h hc
  rw [identifierText, hchars, hkept, ite_self, String.ofList_toList]

mutual
/-- What is mangled are the words with underscores between them. -/
theorem mangle_eq : (t : Ty) → t.IsMangleable → t.mangle dropUnderscores = "_".intercalate t.words
  | primitive k, h => by
    rw [mangle, words, String.intercalate_singleton, identifierText_of_isWord h]
  | path name [], h => by
    rw [mangle, words, String.intercalate_singleton, identifierText_of_isWord h.1]
  | path name (t :: rest), h => by
    have hne : (wordsAll (t :: rest)).flatten ≠ [] :=
      List.append_ne_nil_of_left_ne_nil t.words_ne_nil _
    simp only [mangle, words]
    rw [intercalate_cons name (List.append_ne_nil_of_left_ne_nil hne _),
      intercalate_append hne (List.cons_ne_nil _ _), identifierText_of_isWord h.1, mangleAll_eq (t :: rest) h.2.2.2,
      intercalate_flatten words_ne_nil_of_mem_all]
    simp [String.append_assoc]
  | pointer target isMut nullable, h => by
    rw [mangle, words, intercalate_cons _ target.words_ne_nil, mangle_eq target h]
  | array element length, h => by
    rw [mangle, words, intercalate_cons _ (List.append_ne_nil_of_left_ne_nil element.words_ne_nil _),
      intercalate_append element.words_ne_nil (List.cons_ne_nil _ _), mangle_eq element h.1,
      identifierText_of_isWord h.2, String.intercalate_singleton]
    simp [String.append_assoc]
  | function params ret never, h => by
    have hopen : "Fn_" = "Fn" ++ "_" := by decide
    have hresult : "_Ret_" = "_" ++ "Ret" ++ "_" := by decide
    have hclosed : "__" = "_" ++ "_".intercalate ["", ""] := by decide
    rw [mangle, words, hopen, hresult, hclosed, mangleParams_eq params h.1, mangle_eq ret h.2,
      intercalate_flatten words_ne_nil_of_mem_params,
      intercalate_cons _ (List.append_ne_nil_of_left_ne_nil (orBlank_ne_nil _) _),
      intercalate_append (orBlank_ne_nil _) (List.cons_ne_nil _ _), intercalate_orBlank,
      intercalate_cons _ (List.append_ne_nil_of_left_ne_nil ret.words_ne_nil _),
      intercalate_append ret.words_ne_nil (List.cons_ne_nil _ _)]
    simp only [String.append_assoc]

theorem mangleAll_eq : (ts : List Ty) → AreMangleable ts →
    mangleAll dropUnderscores ts = (wordsAll ts).map "_".intercalate
  | [], _ => rfl
  | t :: rest, h => by rw [mangleAll, wordsAll, mangle_eq t h.1, mangleAll_eq rest h.2, List.map_cons]

theorem mangleParams_eq : (ps : List (Option String × Ty)) → ParamsMangleable ps →
    mangleParams dropUnderscores ps = (wordsParams ps).map "_".intercalate
  | [], _ => rfl
  | (_, t) :: rest, h => by
    rw [mangleParams, wordsParams, mangle_eq t h.1, mangleParams_eq rest h.2, List.map_cons]
end

/-! ### The words of types are a prefix code -/

/-- Do two types have the same form, and the same name or spelling if they have one? -/
def SameForm : Ty → Ty → Prop
  | primitive k, primitive k' => k = k'
  | path name _, path name' _ => name = name'
  | pointer _ isMut _, pointer _ isMut' _ => isMut = isMut'
  | array _ _, array _ _ => True
  | function _ _ _, function _ _ _ => True
  | _, _ => False

theorem spelling_not_mem_markWords (k : Primitive) : k.spelling ∉ markWords := by
  cases k <;> decide

theorem spelling_injective {k k' : Primitive} (h : k.spelling = k'.spelling) : k = k' := by
  have hread := congrArg Primitive.ofName? h
  rwa [Primitive.ofName?_spelling, Primitive.ofName?_spelling, Option.some.injEq] at hread

theorem firstWord_ne_blank (h : t.IsMangleable) : t.firstWord ≠ "" := by
  cases t with
  | primitive k => exact h.1
  | path name args => exact h.1.1
  | pointer target isMut nullable => cases isMut <;> simp [firstWord]
  | array element length => simp [firstWord]
  | function params ret never => simp [firstWord]

/-- No type starts with the mark of a result. -/
theorem firstWord_ne_result (h : t.IsMangleable) : t.firstWord ≠ "Ret" := by
  cases t with
  | primitive k => cases k <;> simp [firstWord, Primitive.spelling]
  | path name args =>
    rintro rfl
    exact h.2.1 (by decide)
  | pointer target isMut nullable => cases isMut <;> simp [firstWord]
  | array element length => simp [firstWord]
  | function params ret never => simp [firstWord]

/-- The first word shows the form of a type. -/
theorem sameForm_of_firstWord (hs : s.IsMangleable) (ht : t.IsMangleable) (h : s.firstWord = t.firstWord) :
    SameForm s t := by
  have hmarks : ∀ k : Primitive, k.spelling ∉ markWords := spelling_not_mem_markWords
  have hnames : ∀ k : Primitive, Primitive.ofName? k.spelling ≠ none := fun k => by simp [Primitive.ofName?_spelling]
  cases s <;> cases t <;> simp only [firstWord, IsMangleable, SameForm, markWords] at *
  all_goals grind [spelling_injective]

/-- A row of words at which a list of types ends: it starts no type. -/
def Ends (r : List String) : Prop := ∀ t : Ty, t.IsMangleable → r.head? ≠ some t.firstWord

theorem ends_nil : Ends [] := fun _ _ h => by cases h

theorem ends_blank (r : List String) : Ends ("" :: r) := fun _ ht h =>
  firstWord_ne_blank ht (Option.some.inj h).symm

theorem ends_result (r : List String) : Ends ("Ret" :: r) := fun _ ht h =>
  firstWord_ne_result ht (Option.some.inj h).symm

/-- Where a list of types ends, no type starts. -/
theorem Ends.ne_words (h : Ends r) (ht : t.IsMangleable) (ws : List String) : r ≠ t.words ++ ws := by
  rintro rfl
  obtain ⟨later, hwords⟩ := t.words_eq_cons
  exact h t ht (by rw [hwords]; rfl)

theorem firstWord_eq_of_words (h : s.words ++ r = t.words ++ r') : s.firstWord = t.firstWord := by
  obtain ⟨_, hs⟩ := s.words_eq_cons
  obtain ⟨_, ht⟩ := t.words_eq_cons
  rw [hs, ht, List.cons_append, List.cons_append] at h
  exact (List.cons.inj h).1

theorem flatten_wordsAll_cons (t : Ty) (rest : List Ty) (r : List String) :
    (wordsAll (t :: rest)).flatten ++ r = t.words ++ ((wordsAll rest).flatten ++ r) := by
  rw [wordsAll, List.flatten_cons, List.append_assoc]

theorem flatten_wordsParams_cons (p : Option String × Ty) (rest : List (Option String × Ty)) (r : List String) :
    (wordsParams (p :: rest)).flatten ++ r = p.2.words ++ ((wordsParams rest).flatten ++ r) := by
  rw [wordsParams, List.flatten_cons, List.append_assoc]

theorem head?_wordsAll (h : AreMangleable as) : (wordsAll as).flatten.head? ≠ some "" := by
  cases as with
  | nil => exact nofun
  | cons a rest =>
    obtain ⟨later, hwords⟩ := a.words_eq_cons
    rw [wordsAll, List.flatten_cons, hwords]
    exact fun hblank => firstWord_ne_blank h.1 (Option.some.inj hblank)

theorem head?_wordsParams {ps : List (Option String × Ty)} (h : ParamsMangleable ps) :
    (wordsParams ps).flatten.head? ≠ some "" := by
  cases ps with
  | nil => exact nofun
  | cons p rest =>
    obtain ⟨later, hwords⟩ := p.2.words_eq_cons
    rw [wordsParams, List.flatten_cons, hwords]
    exact fun hblank => firstWord_ne_blank h.1 (Option.some.inj hblank)

/-- An empty word stands for nothing else than an empty list. -/
theorem append_eq_of_orBlank (hws : ws.head? ≠ some "") (hws' : ws'.head? ≠ some "")
    (h : orBlank ws ++ r = orBlank ws' ++ r') : ws ++ r = ws' ++ r' := by
  cases ws with
  | nil =>
    cases ws' with
    | nil => exact (List.cons.inj h).2
    | cons w' rest' => exact absurd (congrArg some (List.cons.inj h).1.symm) hws'
  | cons w rest =>
    cases ws' with
    | nil => exact absurd (congrArg some (List.cons.inj h).1) hws
    | cons w' rest' => exact h

mutual
/-- What follows its words does not matter: they tell a type apart from any other that does not look like it. -/
theorem words_append_inj : (s t : Ty) → s.IsMangleable → t.IsMangleable → UsedAlike s.uses t.uses →
    ∀ {r r' : List String}, s.words ++ r = t.words ++ r' → s.plain = t.plain ∧ r = r'
  | .primitive k, t, hs, ht, _, r, r', h => by
    have hform := sameForm_of_firstWord hs ht (firstWord_eq_of_words h)
    cases t with
    | primitive k' =>
      obtain rfl : k = k' := hform
      exact ⟨rfl, List.append_cancel_left h⟩
    | _ => cases hform
  | .path name args, t, hs, ht, huses, r, r', h => by
    have hform := sameForm_of_firstWord hs ht (firstWord_eq_of_words h)
    cases t with
    | path name' args' =>
      obtain rfl : name = name' := hform
      have hcount : args.length = 0 ↔ args'.length = 0 :=
        huses _ List.mem_cons_self _ List.mem_cons_self rfl
      cases args with
      | nil =>
        obtain rfl : args' = [] := List.eq_nil_of_length_eq_zero (hcount.1 rfl)
        exact ⟨rfl, List.append_cancel_left h⟩
      | cons a as =>
        cases args' with
        | nil => exact absurd (hcount.2 rfl) (by simp)
        | cons b bs =>
          have hrest : (wordsAll (a :: as)).flatten ++ "" :: "" :: r =
              (wordsAll (b :: bs)).flatten ++ "" :: "" :: r' := by
            simpa [words] using h
          obtain ⟨hargs, hr⟩ := wordsAll_append_inj (a :: as) (b :: bs) hs.2.2.2 ht.2.2.2
            (huses.mono (List.subset_cons_self _ _) (List.subset_cons_self _ _)) (ends_blank _) (ends_blank _) hrest
          exact ⟨by rw [plain, plain, hargs], by simpa using hr⟩
    | _ => cases hform
  | .pointer target isMut nullable, t, hs, ht, huses, r, r', h => by
    have hform := sameForm_of_firstWord hs ht (firstWord_eq_of_words h)
    cases t with
    | pointer target' isMut' nullable' =>
      obtain rfl : isMut = isMut' := hform
      obtain ⟨htarget, hr⟩ := words_append_inj target target' hs ht huses (List.cons.inj h).2
      exact ⟨by rw [plain, plain, htarget], hr⟩
    | _ => cases hform
  | .array element length, t, hs, ht, huses, r, r', h => by
    have hform := sameForm_of_firstWord hs ht (firstWord_eq_of_words h)
    cases t with
    | array element' length' =>
      have hrest : element.words ++ length :: r = element'.words ++ length' :: r' := by
        simpa [words] using h
      obtain ⟨helement, hr⟩ := words_append_inj element element' hs.1 ht.1 huses hrest
      obtain ⟨rfl, hend⟩ := List.cons.inj hr
      exact ⟨by rw [plain, plain, helement], hend⟩
    | _ => cases hform
  | .function params ret never, t, hs, ht, huses, r, r', h => by
    have hform := sameForm_of_firstWord hs ht (firstWord_eq_of_words h)
    cases t with
    | function params' ret' never' =>
      have hrest : orBlank (wordsParams params).flatten ++ "Ret" :: (ret.words ++ "" :: "" :: r) =
          orBlank (wordsParams params').flatten ++ "Ret" :: (ret'.words ++ "" :: "" :: r') := by
        simpa [words] using h
      obtain ⟨hparams, hresult⟩ := wordsParams_append_inj params params' hs.1 ht.1
        (huses.mono (List.subset_append_left _ _) (List.subset_append_left _ _)) (ends_result _) (ends_result _)
        (append_eq_of_orBlank (head?_wordsParams hs.1) (head?_wordsParams ht.1) hrest)
      obtain ⟨hret, hr⟩ := words_append_inj ret ret' hs.2 ht.2
        (huses.mono (List.subset_append_right _ _) (List.subset_append_right _ _)) (List.cons.inj hresult).2
      exact ⟨by rw [plain, plain, hparams, hret], by simpa using hr⟩
    | _ => cases hform

theorem wordsAll_append_inj : (as bs : List Ty) → AreMangleable as → AreMangleable bs →
    UsedAlike (usesAll as) (usesAll bs) → ∀ {r r' : List String}, Ends r → Ends r' →
    (wordsAll as).flatten ++ r = (wordsAll bs).flatten ++ r' → plainAll as = plainAll bs ∧ r = r'
  | [], [], _, _, _, _, _, _, _, h => ⟨rfl, h⟩
  | [], b :: bs, _, hbs, _, r, r', hr, _, h => by
    rw [flatten_wordsAll_cons] at h
    exact absurd h (hr.ne_words hbs.1 _)
  | a :: as, [], has, _, _, r, r', _, hr', h => by
    rw [flatten_wordsAll_cons] at h
    exact absurd h.symm (hr'.ne_words has.1 _)
  | a :: as, b :: bs, has, hbs, huses, r, r', hr, hr', h => by
    rw [flatten_wordsAll_cons, flatten_wordsAll_cons] at h
    obtain ⟨hfirst, hrest⟩ := words_append_inj a b has.1 hbs.1
      (huses.mono (List.subset_append_left _ _) (List.subset_append_left _ _)) h
    obtain ⟨hothers, hend⟩ := wordsAll_append_inj as bs has.2 hbs.2
      (huses.mono (List.subset_append_right _ _) (List.subset_append_right _ _)) hr hr' hrest
    exact ⟨by rw [plainAll, plainAll, hfirst, hothers], hend⟩

theorem wordsParams_append_inj : (ps qs : List (Option String × Ty)) → ParamsMangleable ps → ParamsMangleable qs →
    UsedAlike (usesParams ps) (usesParams qs) → ∀ {r r' : List String}, Ends r → Ends r' →
    (wordsParams ps).flatten ++ r = (wordsParams qs).flatten ++ r' → plainParams ps = plainParams qs ∧ r = r'
  | [], [], _, _, _, _, _, _, _, h => ⟨rfl, h⟩
  | [], (_, b) :: bs, _, hbs, _, r, r', hr, _, h => by
    rw [flatten_wordsParams_cons] at h
    exact absurd h (hr.ne_words hbs.1 _)
  | (_, a) :: as, [], has, _, _, r, r', _, hr', h => by
    rw [flatten_wordsParams_cons] at h
    exact absurd h.symm (hr'.ne_words has.1 _)
  | (_, a) :: as, (_, b) :: bs, has, hbs, huses, r, r', hr, hr', h => by
    rw [flatten_wordsParams_cons, flatten_wordsParams_cons] at h
    obtain ⟨hfirst, hrest⟩ := words_append_inj a b has.1 hbs.1
      (huses.mono (List.subset_append_left _ _) (List.subset_append_left _ _)) h
    obtain ⟨hothers, hend⟩ := wordsParams_append_inj as bs has.2 hbs.2
      (huses.mono (List.subset_append_right _ _) (List.subset_append_right _ _)) hr hr' hrest
    exact ⟨by rw [plainParams, plainParams, hfirst, hothers], hend⟩
end

/-! ### Whole names -/

/-- Words that have no underscores are told apart where underscores join them. -/
def AreJoinable (ws : List String) : Prop := ∀ w ∈ ws, '_' ∉ w.toList

theorem AreJoinable.append (h : AreJoinable ws) (h' : AreJoinable ws') : AreJoinable (ws ++ ws') :=
  List.forall_mem_append.2 ⟨h, h'⟩

theorem AreJoinable.cons {w : String} (hw : '_' ∉ w.toList) (h : AreJoinable ws) : AreJoinable (w :: ws) :=
  List.forall_mem_cons.2 ⟨hw, h⟩

theorem areJoinable_nil : AreJoinable [] := fun _ h => absurd h List.not_mem_nil

theorem areJoinable_closed : AreJoinable ["", ""] := by
  unfold AreJoinable
  decide

theorem AreJoinable.orBlank (h : AreJoinable ws) : AreJoinable (orBlank ws) := by
  cases ws with
  | nil => exact areJoinable_nil.cons (by decide)
  | cons w rest => exact h

mutual
theorem areJoinable_words : (t : Ty) → t.IsMangleable → AreJoinable t.words
  | .primitive k, h => areJoinable_nil.cons (underscore_not_mem h)
  | .path name [], h => areJoinable_nil.cons (underscore_not_mem h.1)
  | .path name (t :: rest), h =>
    ((areJoinable_wordsAll (t :: rest) h.2.2.2).append areJoinable_closed).cons (underscore_not_mem h.1)
  | .pointer target isMut _, h => (areJoinable_words target h).cons (by cases isMut <;> decide)
  | .array element length, h =>
    ((areJoinable_words element h.1).append (areJoinable_nil.cons (underscore_not_mem h.2))).cons (by decide)
  | .function params ret _, h =>
    ((areJoinable_wordsParams params h.1).orBlank.append
      (((areJoinable_words ret h.2).append areJoinable_closed).cons (by decide))).cons (by decide)

theorem areJoinable_wordsAll : (ts : List Ty) → AreMangleable ts → AreJoinable (wordsAll ts).flatten
  | [], _ => areJoinable_nil
  | t :: rest, h => (areJoinable_words t h.1).append (areJoinable_wordsAll rest h.2)

theorem areJoinable_wordsParams : (ps : List (Option String × Ty)) → ParamsMangleable ps →
    AreJoinable (wordsParams ps).flatten
  | [], _ => areJoinable_nil
  | (_, t) :: rest, h => (areJoinable_words t h.1).append (areJoinable_wordsParams rest h.2)
end

/-- Words without underscores are what stands between the underscores. -/
theorem splitOn_intercalate (h : AreJoinable ws) (hne : ws ≠ []) :
    ("_".intercalate ws).toList.splitOn '_' = ws.map String.toList := by
  rw [String.toList_intercalate]
  refine List.splitOn_intercalate '_' (fun l hl => ?_) (by simpa using hne)
  obtain ⟨w, hw, rfl⟩ := List.mem_map.1 hl
  exact h w hw

theorem eq_of_intercalate_eq (h : AreJoinable ws) (h' : AreJoinable ws') (hne : ws ≠ []) (hne' : ws' ≠ [])
    (heq : "_".intercalate ws = "_".intercalate ws') : ws = ws' := by
  have hsplit := congrArg (fun s : String => s.toList.splitOn '_') heq
  rw [splitOn_intercalate h hne, splitOn_intercalate h' hne'] at hsplit
  exact List.map_injective_iff.2 (fun _ _ => String.toList_inj.1) hsplit

theorem mangledName_eq (template : String) (h : AreMangleable args) :
    mangledName template args dropUnderscores =
      template ++ "_" ++ "_".intercalate (orBlank (wordsAll args).flatten) := by
  rw [mangledName, mangleAll_eq args h, intercalate_flatten words_ne_nil_of_mem_all, intercalate_orBlank]

/-- Mangled names can be read back. Where every name, spelling and length is one word and a name has the same number
of arguments wherever it is used, two lists of arguments that give one name to a template's instances differ in
nothing that a name could show: in whether pointers may be null, in parameter names and never marks. -/
theorem mangledName_eq_iff (template : String) (h : AreMangleable args) (h' : AreMangleable args')
    (hcounts : ∀ u ∈ usesAll (args ++ args'), ∀ v ∈ usesAll (args ++ args'), u.1 = v.1 → u.2 = v.2) :
    mangledName template args dropUnderscores = mangledName template args' dropUnderscores ↔
      plainAll args = plainAll args' := by
  refine ⟨fun hname => ?_, mangledName_alike template⟩
  have huses : UsedAlike (usesAll args) (usesAll args') := by
    intro u hu v hv hsame
    rw [usesAll_append] at hcounts
    rw [hcounts u (List.mem_append_left _ hu) v (List.mem_append_right _ hv) hsame]
  rw [mangledName_eq template h, mangledName_eq template h', String.append_right_inj] at hname
  have hwords : orBlank (wordsAll args).flatten = orBlank (wordsAll args').flatten :=
    eq_of_intercalate_eq (areJoinable_wordsAll args h).orBlank (areJoinable_wordsAll args' h').orBlank
      (orBlank_ne_nil _) (orBlank_ne_nil _) hname
  have hrows : (wordsAll args).flatten ++ [] = (wordsAll args').flatten ++ [] :=
    append_eq_of_orBlank (head?_wordsAll h) (head?_wordsAll h') (by rw [hwords])
  exact (wordsAll_append_inj args args' h h' huses ends_nil ends_nil hrows).1

/-- A pair and an array of callbacks without parameters, twice: only names and marks that a text does not show
differ. -/
def gridArgs (nullable never : Bool) (param : Option String) : List Ty := [
  .path "Pair" [.primitive .i32, .pointer (.path "Node" []) false nullable],
  .array (.function [] (.function [(param, .path "Node" [])] (.primitive .bool) never) never) "4"]

theorem mangledName_eq_iff_grid : AreMangleable (gridArgs true false none) ∧
    AreMangleable (gridArgs false true (some "node")) ∧
    mangledName "Grid" (gridArgs true false none) false =
      "Grid_Pair_i32_ConstPtr_Node___Array_Fn__Ret_Fn_Node_Ret_bool_____4" ∧
    (mangledName "Grid" (gridArgs true false none) false =
        mangledName "Grid" (gridArgs false true (some "node")) false ↔
      plainAll (gridArgs true false none) = plainAll (gridArgs false true (some "node"))) := by
  have hnullable : AreMangleable (gridArgs true false none) := by decide +kernel
  have hnever : AreMangleable (gridArgs false true (some "node")) := by decide +kernel
  exact ⟨hnullable, hnever, by decide, mangledName_eq_iff "Grid" hnullable hnever (by decide)⟩

/-- A name that is used both with arguments and without does not show which of the two it is. -/
example : mangledName "Grid" [.path "Pair" [.path "Node" [], .path "Leaf" []]] false =
    mangledName "Grid" [.path "Pair" [], .path "Node" [.path "Leaf" []]] false := by decide

end CrateHeader.Ty
