import CrateHeader.Proofs.Failing
import CrateHeader.Proofs.Mentioning
import CrateHeader.Proofs.RenumberedHeader

/-!
# Disabled declarations

A disabled declaration is built like any other before pruning takes its entity away: it has a place, and it keeps its
name from the declarations that come later. If building stops at none of the declarations of a name, all of them
disabled, a run without them differs in the places of the entities that come after, which no header shows.
-/

namespace CrateHeader

/-! ### Runs side by side -/

/-- Do two computations fail in the same way, or give what is related? -/
inductive SameUpTo {ε α β : Type} (r : α → β → Prop) : Except ε α → Except ε β → Prop
  | error (e : ε) : SameUpTo r (.error e) (.error e)
  | ok {a : α} {b : β} : r a b → SameUpTo r (.ok a) (.ok b)

theorem SameUpTo.bind {ε α β α' β' : Type} {r : α → β → Prop} {r' : α' → β' → Prop} {x : Except ε α}
    {y : Except ε β} {f : α → Except ε α'} {g : β → Except ε β'} (h : SameUpTo r x y)
    (hfg : ∀ a b, r a b → SameUpTo r' (f a) (g b)) : SameUpTo r' (x >>= f) (y >>= g) := by
  cases h with
  | error e => exact .error e
  | ok hab => exact hfg _ _ hab

/-! ### Places -/

/-- The place of what comes before a gap, or behind it. -/
def skip (gap i : Nat) : Nat := if i < gap then i else i + 1

theorem strictMono_skip (gap : Nat) : StrictMono (skip gap) := by
  intro i j hij
  unfold skip
  split <;> split <;> omega

theorem skip_of_lt {gap i : Nat} (h : i < gap) : skip gap i = i := if_pos h

theorem skip_of_le {gap i : Nat} (h : gap ≤ i) : skip gap i = i + 1 := if_neg (Nat.not_lt.2 h)

namespace Library

variable {lib : Library} {name : String}

theorem without_of_not_mem (h : name ∉ lib.names) : lib.without name = lib := by
  have hkept : lib.entities.filter (fun e => e.name != name) = lib.entities :=
    List.filter_eq_self.2 fun e he => bne_iff_ne.2 fun heq => h (List.mem_map.2 ⟨e, he, heq⟩)
  rw [without, hkept]

theorem without_push (e : Entity) :
    (lib.push e).without name = if e.name = name then lib.without name else (lib.without name).push e := by
  by_cases hname : e.name = name
  · simp [without, push, hname]
  · simp [without, push, hname]

theorem renumber_skip {gap : Nat} (h : ∀ e ∈ lib.entities, e.index < gap) (hunused : lib.instances = []) :
    lib.renumber (skip gap) = lib := by
  have hsame : lib.entities.map (Entity.renumber (skip gap)) = lib.entities := by
    refine (List.map_congr_left fun e he => ?_).trans (List.map_id _)
    rw [Entity.renumber, skip_of_lt (h e he), id_eq]
  rw [renumber, hsame, hunused, List.map_nil, ← hunused]

end Library

/-! ### Declarations of one name -/

namespace Declaration

/-- Did another crate declare the name before? -/
def IsPassedOver (earlier : List Declaration) (d : Declaration) : Prop :=
  ∃ first, earlier.find? (fun x => x.ident == d.ident) = some first ∧ first.crate ≠ d.crate

/-- All declarations of a name are disabled, and building stops at none of them: each can be built, and none is a
second one of the same crate. -/
structure AreIdle (env : Environment) (name : String) (ds : List Declaration) : Prop where
  disabled : ∀ d ∈ ds, d.ident = name → d.isEnabled env = false
  built : ∀ d ∈ ds, d.ident = name → ∃ e, (d.convert 0).result = .ok e
  crates : (ds.filter fun d => d.ident == name).Pairwise fun a b => a.crate ≠ b.crate

/-- Whether a declaration can be built does not depend on its place. -/
theorem convert_renumber (d : Declaration) (move : Nat → Nat) (index : Nat) :
    (d.convert (move index)).result = (d.convert index).result.map (Entity.renumber move) := by
  simp only [convert, Logged.bind_result, Logged.pure_result]
  cases (AttributeSummary.read d.ident d.attributes).result with
  | error error => rfl
  | ok said =>
    cases (Logged.ofExcept d.inheritedCfg).result with
    | error error => rfl
    | ok inherited =>
      dsimp only [Except.bind]
      cases (convertBody d.generics d.ident said.annotations d.body).result <;> rfl

end Declaration

/-! ### Building side by side -/

namespace Builder

/-- The builder after a declaration, if it can be added. -/
def after (b : Builder) (d : Declaration) : Except BuildError Builder := (b.add d).2.result.map fun () => (b.add d).1

variable {b b' : Builder} {d x : Declaration} {ds : List Declaration} {gap : Nat}

theorem addAll_eq_foldlM (b : Builder) (ds : List Declaration) :
    ((b.addAll ds).2.result.map fun () => (b.addAll ds).1) = ds.foldlM after b := by
  induction ds generalizing b with
  | nil => rfl
  | cons d rest ih =>
    rw [List.foldlM_cons, addAll, after]
    dsimp only
    cases hadd : (b.add d).2.result with
    | error error => rfl
    | ok _ => exact ih (b.add d).1

theorem build_eq_foldlM (external : List String) (ds : List Declaration) :
    (Library.build external ds).result = (ds.foldlM after (empty external)).map (·.library) := by
  rw [← addAll_eq_foldlM]
  unfold Library.build
  dsimp only
  rw [Logged.bind_result]
  cases ((empty external).addAll ds).2.result <;> rfl

theorem after_eq (b : Builder) (d : Declaration) : b.after d =
    match b.declared.lookup d.ident with
    | some first => if first = d.crate then .error (.duplicate d.ident d.crate) else .ok b
    | none => (d.convert b.nextIndex).result >>= fun e =>
      if b.library.contains d.ident then .error (.taken d.ident)
      else .ok ⟨b.library.push e, (d.ident, d.crate) :: b.declared, b.nextIndex + 1⟩ := by
  unfold after add
  cases b.declared.lookup d.ident with
  | some first =>
    dsimp only
    split <;> rfl
  | none =>
    dsimp only
    cases (d.convert b.nextIndex).result with
    | error error => rfl
    | ok e =>
      dsimp only [bind, Except.bind]
      split <;> rfl

theorem after_ok (h : b.after d = .ok b') : (b.add d).2.result = .ok () ∧ (b.add d).1 = b' := by
  unfold after at h
  cases hadd : (b.add d).2.result with
  | error error =>
    rw [hadd] at h
    cases h
  | ok _ =>
    rw [hadd] at h
    cases h
    exact ⟨rfl, rfl⟩

/-- Every entity is remembered as declared and has a place before the next one. -/
structure IsSound (b : Builder) : Prop where
  fresh : b.library.IsFresh
  claimed : b.IsClaimed
  counted : ∀ e ∈ b.library.entities, e.index < b.nextIndex

theorem isSound_empty (external : List String) : (empty external).IsSound :=
  ⟨⟨Library.isTable_empty external, rfl⟩, List.nil_subset _, nofun⟩

theorem isSound_after (hsound : b.IsSound) (h : b.after d = .ok b') : b'.IsSound := by
  obtain ⟨hadd, rfl⟩ := after_ok h
  refine ⟨Library.isFresh_add d hsound.fresh, isClaimed_add hsound.claimed hadd, ?_⟩
  rcases add_ok hadd with ⟨_, hsame⟩ | ⟨_, e, he, hnext⟩
  · rw [hsame]
    exact hsound.counted
  · obtain ⟨_, _, _, _, _, _, rfl⟩ := Declaration.convert_ok he
    rw [hnext]
    intro x hx
    rcases List.mem_append.1 hx with hx | hx
    · exact Nat.lt_succ_of_lt (hsound.counted x hx)
    · obtain rfl := List.mem_singleton.1 hx
      exact Nat.lt_succ_self _

/-- The crate that declared a name first is remembered. -/
theorem lookup_after (h : b.after d = .ok b') (name : String) : b'.declared.lookup name =
    (b.declared.lookup name).or (if d.ident == name then some d.crate else none) := by
  obtain ⟨hadd, rfl⟩ := after_ok h
  rcases add_ok hadd with ⟨htaken, hsame⟩ | ⟨hfree, e, _, hnext⟩
  · rw [hsame]
    by_cases hname : d.ident = name
    · subst hname
      cases hlookup : b.declared.lookup d.ident with
      | none => exact absurd htaken (lookup_eq_none_iff.1 hlookup)
      | some crate => rfl
    · simp [hname]
  · rw [hnext]
    by_cases hname : d.ident = name
    · subst hname
      simp [lookup_eq_none_iff.2 hfree]
    · have hne : (name == d.ident) = false := beq_false_of_ne (Ne.symm hname)
      simp [List.lookup_cons, hne, hname]

/-- What is remembered of a name after some declarations is the crate of the first of them that has it. -/
theorem sound_foldlM (hsound : b.IsSound) (h : ds.foldlM after b = .ok b') : b'.IsSound ∧
    ∀ name, b'.declared.lookup name =
      (b.declared.lookup name).or ((ds.find? fun d => d.ident == name).map (·.crate)) := by
  induction ds generalizing b with
  | nil =>
    cases h
    exact ⟨hsound, fun name => by simp⟩
  | cons d rest ih =>
    rw [List.foldlM_cons] at h
    cases hafter : b.after d with
    | error error =>
      rw [hafter] at h
      cases h
    | ok b₁ =>
      rw [hafter] at h
      obtain ⟨hsound', hlookup⟩ := ih (isSound_after hsound hafter) h
      refine ⟨hsound', fun name => ?_⟩
      rw [hlookup, lookup_after hafter, Option.or_assoc, List.find?_cons]
      split <;> simp [*]

/-- One builder has added a declaration at a place, and the other has not. -/
structure Omits (x : Declaration) (gap : Nat) (b b' : Builder) : Prop where
  library : b'.library.without x.ident = b.library.renumber (skip gap)
  declared : ∀ name, name ≠ x.ident → b'.declared.lookup name = b.declared.lookup name
  taken : b'.declared.lookup x.ident = some x.crate
  next : b'.nextIndex = b.nextIndex + 1
  gap_le : gap ≤ b.nextIndex

/-- A declaration whose name is free opens the gap: its entity is the last one, so all others are in front of it. -/
theorem omits_after_self (hsound : b.IsSound) (hfree : b.declared.lookup x.ident = none)
    (hbuilt : ∃ e, (x.convert 0).result = .ok e) : ∃ b', b.after x = .ok b' ∧ Omits x b.nextIndex b b' := by
  obtain ⟨e, he⟩ := hbuilt
  have hconvert : (x.convert b.nextIndex).result = .ok (e.renumber fun _ => b.nextIndex) := by
    rw [x.convert_renumber (fun _ => b.nextIndex) 0, he]
    rfl
  have hnot : x.ident ∉ b.library.names := fun hmem => lookup_eq_none_iff.1 hfree (hsound.claimed hmem)
  have hcontains : b.library.contains x.ident = false := by
    rw [← Bool.not_eq_true, Library.contains_iff]
    exact hnot
  have hname : (e.renumber fun _ => b.nextIndex).name = x.ident := (Library.ident_of_convert he).1
  refine ⟨⟨b.library.push (e.renumber fun _ => b.nextIndex), (x.ident, x.crate) :: b.declared, b.nextIndex + 1⟩,
    ?_, ?_, fun name hne => ?_, by simp, rfl, Nat.le_refl _⟩
  · rw [after_eq, hfree, hconvert]
    dsimp only [bind, Except.bind]
    rw [hcontains]
    rfl
  · dsimp only
    rw [Library.without_push, if_pos hname, Library.without_of_not_mem hnot,
      Library.renumber_skip hsound.counted hsound.fresh.unused]
  · have hne' : (name == x.ident) = false := by simpa using hne
    simp [List.lookup_cons, hne']

/-- A declaration of another name is passed over, fails or is added on both sides alike. -/
theorem omits_after (h : Omits x gap b b') (hne : d.ident ≠ x.ident) :
    SameUpTo (Omits x gap) (b.after d) (b'.after d) := by
  have hcontains : b'.library.contains d.ident = b.library.contains d.ident := by
    rw [Library.contains, ← Library.get?_without hne, h.library, ← Library.contains, Library.renumber_contains]
  have hconvert : (d.convert b'.nextIndex).result =
      (d.convert b.nextIndex).result.map (Entity.renumber (skip gap)) := by
    rw [h.next, ← skip_of_le h.gap_le, d.convert_renumber]
  rw [after_eq, after_eq, h.declared d.ident hne, hconvert, hcontains]
  cases b.declared.lookup d.ident with
  | some first =>
    dsimp only
    split
    · exact .error _
    · exact .ok h
  | none =>
    cases hbuilt : (d.convert b.nextIndex).result with
    | error error => exact .error error
    | ok e =>
      dsimp only [bind, Except.bind, Except.map]
      split
      · exact .error _
      have hother : (e.renumber (skip gap)).name ≠ x.ident := by
        rw [Entity.renumber_name, (Library.ident_of_convert hbuilt).1]
        exact hne
      refine .ok ⟨?_, fun name hname => ?_, ?_, congrArg (· + 1) h.next, Nat.le_succ_of_le h.gap_le⟩
      · dsimp only
        rw [Library.without_push, if_neg hother, h.library, Library.renumber_push]
      · simp only [List.lookup_cons, h.declared name hname]
      · have hne' : (x.ident == d.ident) = false := beq_false_of_ne (Ne.symm hne)
        rw [List.lookup_cons, hne']
        exact h.taken

/-- A builder that has added a declaration passes over all others of its name. -/
theorem omits_foldlM (h : Omits x gap b b') (hds : ∀ d ∈ ds, d.ident = x.ident → x.crate ≠ d.crate) :
    SameUpTo (Omits x gap) ((ds.filter fun d => d.ident != x.ident).foldlM after b) (ds.foldlM after b') := by
  induction ds generalizing b b' with
  | nil => exact .ok h
  | cons d rest ih =>
    obtain ⟨hd, hrest⟩ := List.forall_mem_cons.1 hds
    rw [List.foldlM_cons]
    by_cases hname : d.ident = x.ident
    · have hpassed : b'.after d = .ok b' := by
        rw [after_eq, hname, h.taken]
        exact if_neg (hd hname)
      rw [List.filter_cons_of_neg (by simpa using hname), hpassed]
      exact ih h hrest
    · rw [List.filter_cons_of_pos (by simpa using hname), List.foldlM_cons]
      exact (omits_after h hname).bind fun _ _ hnext => ih hnext hrest

end Builder

namespace Library

variable {external : List String} {env : Environment} {name : String} {ds : List Declaration}

/-- Without the declarations of a name, building fails in the same way or gives the same library without the entity of
that name, at other places. -/
theorem build_sameUpTo (external : List String) (h : Declaration.AreIdle env name ds) (hmem : ∃ d ∈ ds, d.ident = name) :
    ∃ gap, SameUpTo (fun lib lib' => lib'.without name = lib.renumber (skip gap))
      (build external (ds.filter fun d => d.ident != name)).result (build external ds).result := by
  have hsome : (ds.find? fun d => d.ident == name).isSome := by
    rw [List.find?_isSome]
    simpa using hmem
  -- Both builders are the same up to the first declaration of the name.
  obtain ⟨x, hfind⟩ := Option.isSome_iff_exists.1 hsome
  obtain ⟨hx, pre, post, rfl, hpre⟩ := List.find?_eq_some_iff_append.1 hfind
  obtain rfl : x.ident = name := by simpa using hx
  have hkept : (pre.filter fun d => d.ident != x.ident) = pre := List.filter_eq_self.2 hpre
  have hidle : (pre.filter fun d => d.ident == x.ident) = [] := List.filter_eq_nil_iff.2 (by simpa using hpre)
  have hcrates : ∀ d ∈ post, d.ident = x.ident → x.crate ≠ d.crate := by
    intro d hd hname
    have hpairwise := h.crates
    rw [List.filter_append, hidle, List.nil_append, List.filter_cons_of_pos (by simp), List.pairwise_cons] at hpairwise
    exact hpairwise.1 d (List.mem_filter.2 ⟨hd, by simpa using hname⟩)
  rw [Builder.build_eq_foldlM, Builder.build_eq_foldlM, List.filter_append, List.filter_cons_of_neg (by simp), hkept,
    List.foldlM_append, List.foldlM_append]
  cases hfold : pre.foldlM Builder.after (Builder.empty external) with
  | error error => exact ⟨0, .error error⟩
  | ok b =>
    obtain ⟨hsound, hlookup⟩ := Builder.sound_foldlM (Builder.isSound_empty external) hfold
    have hfree : b.declared.lookup x.ident = none := by
      rw [hlookup, List.find?_eq_none.2 (by simpa using hpre)]
      rfl
    obtain ⟨b', hafter, homits⟩ := Builder.omits_after_self hsound hfree (h.built x (by simp) rfl)
    refine ⟨b.nextIndex, ?_⟩
    change SameUpTo _ (Except.map _ ((post.filter _).foldlM Builder.after b))
      (Except.map _ ((x :: post).foldlM Builder.after b))
    rw [List.foldlM_cons, hafter]
    exact (Builder.omits_foldlM homits hcrates).bind fun _ _ hlast => .ok hlast.library

/-- The entities of a name are disabled if its declarations are, and only the names that declarations write are
mentioned. -/
theorem idle_of_build {lib : Library} (hbuild : (build external ds).result = .ok lib)
    (h : Declaration.AreIdle env name ds) (hwritten : ∀ d ∈ ds, d.ident ≠ name → name ∉ d.writtenNames) :
    ∀ e ∈ lib.entities, (e.name = name → e.isEnabled env = false) ∧ (e.name ≠ name → name ∉ e.pathNames) := by
  intro e he
  obtain ⟨⟨d, index⟩, hd, hconvert⟩ := Declaration.exists_convert (build_declares hbuild) he
  have hmem : d ∈ ds := Declaration.mem_of_mem_firsts (List.fst_mem_of_mem_zipIdx hd)
  have hname : e.name = d.ident := (ident_of_convert hconvert).1
  refine ⟨fun hsame => ?_, fun hother hmention => ?_⟩
  · rw [Declaration.isEnabled_convert hconvert]
    exact h.disabled d hmem (hname.symm.trans hsame)
  · exact hwritten d hmem (hname ▸ hother) (Entity.pathNames_convert hconvert hmention)

end Library

/-! ### Headers without disabled declarations -/

namespace Pipeline

variable {settings : Settings} {ds : List Declaration} {name : String}

/-- Where all declarations of a name are idle and no other one writes the name, they might all be left out. -/
theorem run_filter_idle (h : Declaration.AreIdle settings.cfg.environment name ds)
    (hwritten : ∀ d ∈ ds, d.ident ≠ name → name ∉ d.writtenNames) :
    (run settings (ds.filter fun d => d.ident != name) >>= write settings).result =
      (run settings ds >>= write settings).result := by
  by_cases hmem : ∃ d ∈ ds, d.ident = name
  · obtain ⟨gap, hsame⟩ := Library.build_sameUpTo settings.surface.external h hmem
    simp only [run_write_eq, Logged.bind_result, build, inStage]
    generalize hwithout : (Library.build settings.surface.external (ds.filter fun d => d.ident != name)).result = x,
      hbuild : (Library.build settings.surface.external ds).result = y at hsame
    cases hsame with
    | error error => rfl
    | @ok lib lib' hrelated =>
      have hidle := Library.idle_of_build hbuild h hwritten
      have hpruned : (lib'.prune settings.cfg.environment settings.surface.opaqueMarks).library =
          (lib.prune settings.cfg.environment settings.surface.opaqueMarks).library.renumber (skip gap) := by
        rw [← Library.prune_without (Library.isFresh_build hbuild) (fun e he => (hidle e he).1)
          fun e he => (hidle e he).2, hrelated, Library.renumber_prune]
      change (finish settings _).result = (finish settings _).result
      rw [hpruned, renumber_finish settings (strictMono_skip gap)]
  · have hsame : (ds.filter fun d => d.ident != name) = ds :=
      List.filter_eq_self.2 fun d hd => bne_iff_ne.2 fun heq => hmem ⟨d, hd, heq⟩
    rw [hsame]

variable {pre post : List Declaration} {d : Declaration}

theorem run_of_isPassedOver (h : d.IsPassedOver pre) :
    (run settings (pre ++ d :: post) >>= write settings).result =
      (run settings (pre ++ post) >>= write settings).result := by
  obtain ⟨first, hfind, hcrate⟩ := h
  have hbuild : (Library.build settings.surface.external (pre ++ d :: post)).result =
      (Library.build settings.surface.external (pre ++ post)).result := by
    rw [Builder.build_eq_foldlM, Builder.build_eq_foldlM, List.foldlM_append, List.foldlM_append]
    cases hfold : pre.foldlM Builder.after (Builder.empty settings.surface.external) with
    | error error => rfl
    | ok b =>
      have hlookup := (Builder.sound_foldlM (Builder.isSound_empty _) hfold).2 d.ident
      have hpassed : b.after d = .ok b := by
        rw [Builder.after_eq, hlookup, hfind]
        exact if_neg hcrate
      change Except.map _ ((d :: post).foldlM Builder.after b) = _
      rw [List.foldlM_cons, hpassed]
  simp only [run_write_eq, Logged.bind_result, build, inStage, hbuild]

/-- A declaration that no other one mentions might be left out if it is passed over, or if all declarations of its
name, itself among them, are disabled and building stops at none of them. -/
theorem run_without_disabled (settings : Settings) (pre post : List Declaration) (d : Declaration)
    (hwritten : ∀ x ∈ pre ++ post, d.ident ∉ x.writtenNames)
    (h : d.IsPassedOver pre ∨ Declaration.AreIdle settings.cfg.environment d.ident (pre ++ d :: post)) :
    (run settings (pre ++ d :: post) >>= write settings).result =
      (run settings (pre ++ post) >>= write settings).result := by
  rcases h with hpassed | hidle
  · exact run_of_isPassedOver hpassed
  have hrest : Declaration.AreIdle settings.cfg.environment d.ident (pre ++ post) := by
    have hsub : (pre ++ post).Sublist (pre ++ d :: post) := (List.sublist_cons_self d post).append_left pre
    exact ⟨fun x hx => hidle.disabled x (hsub.subset hx), fun x hx => hidle.built x (hsub.subset hx),
      hidle.crates.sublist (hsub.filter _)⟩
  have hfilter : ((pre ++ d :: post).filter fun x => x.ident != d.ident) =
      (pre ++ post).filter fun x => x.ident != d.ident := by simp
  have hothers : ∀ x ∈ pre ++ d :: post, x.ident ≠ d.ident → d.ident ∉ x.writtenNames := by
    intro x hx hne
    refine hwritten x ?_
    simp only [List.mem_append, List.mem_cons] at hx ⊢
    rcases hx with hx | rfl | hx
    · exact .inl hx
    · exact absurd rfl hne
    · exact .inr hx
  -- Both lists are the same once all declarations of the name are gone.
  rw [← run_filter_idle hidle hothers, hfilter, run_filter_idle hrest fun x hx _ => hwritten x hx]

/-- A struct that several crates may declare. -/
def dial (crate : String) : Declaration :=
  { Declaration.bare .struct "Dial" crate with body := .struct [⟨"turns", .path "u8" [], []⟩] }

/-- The struct, on one platform only. -/
def windowsDial (crate : String) : Declaration := { dial crate with attributes := [⟨"cfg", some "windows"⟩] }

def knob : Declaration := { Declaration.bare .struct "Knob" "core" with body := .struct [⟨"size", .path "u8" [], []⟩] }

/-- Two crates declare a struct that neither of them has here: it might be missing in the first, and as it is there, in
the second. -/
theorem run_without_windowsDial :
    (∀ x ∈ [knob, windowsDial "app"], "Dial" ∉ x.writtenNames) ∧
    (∀ x ∈ [knob, windowsDial "core"], "Dial" ∉ x.writtenNames) ∧
    Declaration.AreIdle Settings.default.cfg.environment "Dial" [knob, windowsDial "core", windowsDial "app"] ∧
    (windowsDial "app").IsPassedOver [knob, windowsDial "core"] ∧
    (run .default [knob, windowsDial "core", windowsDial "app"] >>= write .default).result =
      (run .default [knob, windowsDial "app"] >>= write .default).result ∧
    (run .default [knob, windowsDial "core", windowsDial "app"] >>= write .default).result =
      (run .default [knob, windowsDial "core"] >>= write .default).result := by
  have happ : ∀ x ∈ [knob, windowsDial "app"], "Dial" ∉ x.writtenNames := by decide
  have hcore : ∀ x ∈ [knob, windowsDial "core"], "Dial" ∉ x.writtenNames := by decide
  have hidle : Declaration.AreIdle Settings.default.cfg.environment "Dial"
      [knob, windowsDial "core", windowsDial "app"] := by
    refine ⟨?_, ?_, by decide⟩
    · intro d hd hname
      simp only [List.mem_cons, List.not_mem_nil, or_false] at hd
      rcases hd with rfl | rfl | rfl
      · exact absurd hname (by decide)
      · cbv
      · cbv
    · rintro d hd -
      simp only [List.mem_cons, List.not_mem_nil, or_false] at hd
      rcases hd with rfl | rfl | rfl <;> exact ⟨_, by cbv⟩
  have hpassed : (windowsDial "app").IsPassedOver [knob, windowsDial "core"] :=
    ⟨windowsDial "core", by cbv, by decide⟩
  exact ⟨happ, hcore, hidle, hpassed,
    run_without_disabled .default [knob] [windowsDial "app"] (windowsDial "core") happ (.inr hidle),
    run_without_disabled .default [knob, windowsDial "core"] [] (windowsDial "app") hcore (.inl hpassed)⟩

/-- An alias of nothing, on one platform only. -/
def windowsGauge : Declaration :=
  { Declaration.bare .typeAlias "Gauge" "core" with attributes := [⟨"cfg", some "windows"⟩] }

def plainSettings : Settings := { Settings.default with noIncludes := true }

def dialHeader : String := "typedef struct Dial \x7b\n  uint8_t turns;\n\x7d Dial;\n"

/-- A disabled declaration keeps its name from another crate, it is a second one of its own crate, and building stops
at it if it is malformed. -/
theorem run_windowsDial_matters :
    ((windowsDial "core").isEnabled plainSettings.cfg.environment = false ∧
      windowsGauge.isEnabled plainSettings.cfg.environment = false ∧
      ∀ x ∈ [dial "app", dial "core"], "Dial" ∉ x.writtenNames) ∧
    ((run plainSettings [windowsDial "core", dial "app"] >>= write plainSettings).result = .ok "\n" ∧
      (run plainSettings [dial "app"] >>= write plainSettings).result = .ok dialHeader ∧ "\n" ≠ dialHeader) ∧
    ((run plainSettings [windowsDial "core", dial "core"] >>= write plainSettings).result =
        .error (.build (.duplicate "Dial" "core")) ∧
      (run plainSettings [dial "core"] >>= write plainSettings).result = .ok dialHeader) ∧
    ((run plainSettings [windowsGauge] >>= write plainSettings).result =
        .error (.build (.untyped .typeAlias "Gauge")) ∧
      (run plainSettings [] >>= write plainSettings).result = .ok "\n") :=
  ⟨⟨by cbv, by cbv, by decide⟩, ⟨by cbv, by cbv, by decide⟩, ⟨by cbv, by cbv⟩, by cbv, by cbv⟩

end Pipeline

end CrateHeader
