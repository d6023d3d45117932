import CrateHeader.Proofs.Declaring
import CrateHeader.Proofs.Stages

/-!
# What pruning keeps

An entity stays exactly when every single predicate of its declaration holds, those of its module and its
crate among them, and it then loses exactly the members of which some predicate does not hold. Only types
that are marked opaque lose their whole bodies, and only stubs are added.
-/

namespace CrateHeader

namespace Library

variable {lib : Library} {env : Environment} {marks : List String} {e : Entity}

/-! ### Stages of pruning -/

/-- Entities are removed by name, and no enabled one has the name of a disabled one. -/
theorem entities_pruneEntities (env : Environment) (h : lib.IsTable) : (lib.pruneEntities env).entities =
    (lib.entities.filter (Entity.isEnabled env)).map (Entity.prune env) := by
  unfold pruneEntities mapEntities
  dsimp only
  rw [entities_foldl erase (·.name) fun _ _ => rfl]
  congr 1
  refine List.filter_congr fun x hx => ?_
  rw [Bool.eq_iff_iff, Bool.not_eq_true', ← Bool.not_eq_true, List.contains_iff_mem, List.mem_map]
  constructor
  · intro hnot
    by_contra hdisabled
    exact hnot ⟨x, List.mem_filter.2 ⟨hx, by simpa using hdisabled⟩, rfl⟩
  · rintro henabled ⟨d, hd, hname⟩
    obtain ⟨hmem, hdisabled⟩ := List.mem_filter.1 hd
    rw [eq_of_name_eq h hmem hx hname, henabled] at hdisabled
    cases hdisabled

theorem isTable_pruneEntities (env : Environment) (h : lib.IsTable) : (lib.pruneEntities env).IsTable := by
  unfold IsTable names
  rw [entities_pruneEntities env h, List.map_map]
  exact h.sublist (List.filter_sublist.map _)

/-- Replacing entities of different names one after the other replaces each of them. -/
theorem entities_foldl_replace {f : Entity → Entity} (hf : ∀ e, (f e).name = e.name) (es : List Entity)
    (hes : (es.map (·.name)).Nodup) (lib : Library)
    (hlib : ∀ x ∈ lib.entities, ∀ e ∈ es, x.name = e.name → x = e) :
    (es.foldl (fun lib e => lib.replace e (f e)) lib).entities =
      lib.entities.map fun x => if x ∈ es then f x else x := by
  induction es generalizing lib with
  | nil => simp
  | cons e rest ih =>
    rw [List.map_cons, List.nodup_cons] at hes
    obtain ⟨hfresh, hrest⟩ := hes
    have hother : ∀ y ∈ rest, y.name ≠ e.name := fun y hy hname =>
      hfresh (hname ▸ List.mem_map_of_mem hy)
    have hstep : (lib.replace e (f e)).entities = lib.entities.map fun x => if x = e then f e else x := by
      refine List.map_congr_left fun x hx => ?_
      by_cases hname : x.name = e.name
      · rw [if_pos hname, if_pos (hlib x hx e (by simp) hname)]
      · rw [if_neg hname, if_neg fun heq => hname (congrArg Entity.name heq)]
    -- What is replaced keeps its name, so the entities that come later are still found under theirs.
    rw [List.foldl_cons, ih hrest, hstep, List.map_map]
    · refine List.map_congr_left fun x hx => ?_
      by_cases heq : x = e
      · subst heq
        have hdone : f x ∉ rest := fun hmem => hother _ hmem (hf x)
        simp [hdone]
      · simp [heq]
    · rw [hstep]
      intro x hx y hy hname
      obtain ⟨z, hz, rfl⟩ := List.mem_map.1 hx
      by_cases heq : z = e
      · rw [if_pos heq, hf] at hname
        exact absurd hname.symm (hother y hy)
      · rw [if_neg heq] at hname ⊢
        exact hlib z hz y (by simp [hy]) hname

theorem entities_markOpaque (h : lib.IsTable) : (lib.markOpaque marks).entities =
    lib.entities.map fun e => if isMarkedOpaque marks e && e.isType then e.asOpaque else e := by
  unfold markOpaque
  rw [entities_foldl_replace (f := Entity.asOpaque) (fun _ => rfl)]
  · refine List.map_congr_left fun x hx => ?_
    by_cases hmarked : (isMarkedOpaque marks x && x.isType) = true
    · rw [if_pos (List.mem_filter.2 ⟨hx, hmarked⟩), if_pos hmarked]
    · have hnot : x ∉ lib.entities.filter fun e => isMarkedOpaque marks e && e.isType :=
        fun hmem => hmarked (List.mem_filter.1 hmem).2
      rw [if_neg hnot, if_neg hmarked]
  · exact h.sublist (List.filter_sublist.map _)
  · intro x hx y hy hname
    exact eq_of_name_eq h hx (List.mem_filter.1 hy).1 hname

/-- Stubs come after all other entities. Each is made for something mentioned, and whatever is mentioned has an
entity of its name afterwards. -/
theorem entities_foldl_addStub {α β : Type} (mentions : List (α × β × Entity)) (lib : Library) :
    ∃ stubs, (mentions.foldl (fun lib (_, _, r) => lib.addStub r) lib).entities = lib.entities ++ stubs ∧
      (∀ s ∈ stubs, ∃ p ∈ mentions, s = p.2.2.stub) ∧
      ∀ p ∈ mentions, p.2.2.name ∈ (lib.entities ++ stubs).map (·.name) := by
  induction mentions generalizing lib with
  | nil => exact ⟨[], by simp, by simp, by simp⟩
  | cons m rest ih =>
    obtain ⟨stubs, hstubs, hmade, hnames⟩ := ih (lib.addStub m.2.2)
    have hrest : ∀ s ∈ stubs, ∃ p ∈ m :: rest, s = p.2.2.stub := fun s hs =>
      (hmade s hs).imp fun p hp => ⟨List.mem_cons_of_mem _ hp.1, hp.2⟩
    have hfirst : (m :: rest).foldl (fun lib (_, _, r) => lib.addStub r) lib =
        rest.foldl (fun lib (_, _, r) => lib.addStub r) (lib.addStub m.2.2) := rfl
    rw [hfirst, hstubs]
    cases hfree : lib.contains m.2.2.name with
    | true =>
      have hsame : lib.addStub m.2.2 = lib := by rw [addStub, if_pos hfree]
      rw [hsame] at hnames ⊢
      refine ⟨stubs, rfl, hrest, List.forall_mem_cons.2 ⟨?_, hnames⟩⟩
      rw [List.map_append]
      exact List.mem_append_left _ (contains_iff.1 hfree)
    | false =>
      have hpush : lib.addStub m.2.2 = lib.push m.2.2.stub := by
        rw [addStub, if_neg (by simp [hfree])]
      have hentities : (lib.addStub m.2.2).entities ++ stubs = lib.entities ++ m.2.2.stub :: stubs := by
        rw [hpush, push, List.append_assoc, List.singleton_append]
      rw [hentities] at hnames ⊢
      refine ⟨m.2.2.stub :: stubs, rfl, List.forall_mem_cons.2 ⟨⟨m, List.mem_cons_self, rfl⟩, hrest⟩,
        List.forall_mem_cons.2 ⟨?_, hnames⟩⟩
      exact List.mem_map.2 ⟨m.2.2.stub, by simp, rfl⟩

/-- Pruning its members does not change what kind of entity one is. -/
theorem kind_prune : (e.prune env).kind = e.kind := by
  unfold Entity.kind Entity.prune
  cases e.body <;> rfl

theorem isMarkedOpaque_prune (env : Environment) (marks : List String) (e : Entity) :
    isMarkedOpaque marks (e.prune env) = isMarkedOpaque marks e := by
  unfold isMarkedOpaque
  rw [kind_prune]
  rfl

theorem isType_prune (env : Environment) (e : Entity) : (e.prune env).isType = e.isType :=
  congrArg EntityKind.isType kind_prune

/-- What pruning leaves of the entities of a table, before stubs are added. -/
theorem entities_marked (env : Environment) (marks : List String) (h : lib.IsTable) :
    ((lib.pruneEntities env).markOpaque marks).entities =
      (lib.entities.filter (Entity.isEnabled env)).map fun e =>
        if isMarkedOpaque marks e && e.isType then (e.prune env).asOpaque else e.prune env := by
  rw [entities_markOpaque (isTable_pruneEntities env h), entities_pruneEntities env h, List.map_map]
  congr 1
  funext e
  simp only [Function.comp_apply, isMarkedOpaque_prune, isType_prune]

/-- What pruning leaves of the entities of a table. -/
theorem entities_prune (env : Environment) (marks : List String) (h : lib.IsTable) : ∃ stubs,
    (lib.prune env marks).library.entities =
      ((lib.entities.filter (Entity.isEnabled env)).map fun e =>
        if isMarkedOpaque marks e && e.isType then (e.prune env).asOpaque else e.prune env) ++ stubs ∧
      ∀ s ∈ stubs, s.synthetic = true := by
  obtain ⟨stubs, hstubs, hmade, _⟩ := entities_foldl_addStub
    (((lib.pruneEntities env).markOpaque marks).stubMentions (lib.entities.filter fun e => !e.isEnabled env))
    ((lib.pruneEntities env).markOpaque marks)
  rw [entities_marked env marks h] at hstubs
  refine ⟨stubs, hstubs, fun s hs => ?_⟩
  obtain ⟨p, _, rfl⟩ := hmade s hs
  rfl

/-! ### From declarations to what is left -/

/-- What is left of the entity that a declaration was built into: all of it but the body, and of the body
what the enabled part of the declaration is built into. A type that is marked opaque has no body left. -/
structure Survives (env : Environment) (marks : List String) (d : Declaration) (e x : Entity) : Prop where
  same : x = { e with body := x.body }
  marked : (isMarkedOpaque marks e && e.isType) = true → x.body = .opaqueType
  kept : (isMarkedOpaque marks e && e.isType) = false →
    x.body = e.body.prune env ∧ ((d.enabledPart env).convert e.index).result = .ok x

/-- What was declared has nothing but its body to forget. -/
theorem asOpaque_of_declared (hexport : e.exportName = e.name) (hinstance : e.instanceOf = none)
    (hseq : e.seq = 0) (hsynthetic : e.synthetic = false) :
    e.asOpaque = { e with body := .opaqueType } := by
  unfold Entity.asOpaque
  rw [hexport, ← hinstance, ← hseq, ← hsynthetic, ite_self, ← hexport]

theorem survives_of_convert {d : Declaration} {index : Nat} (h : (d.convert index).result = .ok e) :
    Survives env marks d e
      (if isMarkedOpaque marks e && e.isType then (e.prune env).asOpaque else e.prune env) := by
  have hpart := Declaration.convert_enabledPart env h
  obtain ⟨said, inherited, body, _, _, _, rfl⟩ := Declaration.convert_ok h
  split
  · next hmarked =>
    refine ⟨?_, fun _ => rfl, fun hnot => ?_⟩
    · rw [asOpaque_of_declared rfl rfl rfl rfl]
      rfl
    · rw [hmarked] at hnot
      cases hnot
  · next hnot =>
    refine ⟨rfl, fun hmarked => absurd hmarked hnot, fun _ => ⟨rfl, hpart⟩⟩

variable {external : List String} {ds : List Declaration} {index : Nat} {es kept : List Entity}

/-- The declarations of which pruning leaves the entities, with their places. -/
def enabledFirsts (env : Environment) (ds : List Declaration) : List (Declaration × Nat) :=
  (Declaration.firsts [] ds).zipIdx.filter fun p => p.1.isEnabled env

/-- Are entities what is left of those that some declarations were built into? -/
abbrev Remains (env : Environment) (marks : List String) (ps : List (Declaration × Nat))
    (kept : List Entity) : Prop :=
  List.Forall₂ (fun p x => ∃ e, (p.1.convert p.2).result = .ok e ∧ Survives env marks p.1 e x) ps kept

theorem remains_of_declares (env : Environment) (marks : List String)
    (h : Declares 0 (Declaration.firsts [] ds) es) :
    Remains env marks (enabledFirsts env ds) ((es.filter (Entity.isEnabled env)).map fun e =>
      if isMarkedOpaque marks e && e.isType then (e.prune env).asOpaque else e.prune env) := by
  rw [Remains, List.forall₂_map_right_iff]
  have hsame : ∀ (p : Declaration × Nat) (e : Entity), (p.1.convert p.2).result = .ok e →
      (p.1.isEnabled env = true ↔ e.isEnabled env = true) := by
    intro p e he
    rw [Declaration.isEnabled_convert he]
  have hfilter := List.rel_filter (p := fun p : Declaration × Nat => p.1.isEnabled env)
    (q := Entity.isEnabled env) (fun p e he => hsame p e he) h
  exact hfilter.imp fun p e he => ⟨e, he, survives_of_convert he⟩

theorem ident_of_convert {d : Declaration} (h : (d.convert index).result = .ok e) :
    e.name = d.ident ∧ e.synthetic = false := by
  obtain ⟨_, _, _, _, _, _, rfl⟩ := Declaration.convert_ok h
  exact ⟨rfl, rfl⟩

/-- What is left of an entity has its name and is no stub. -/
theorem Survives.name {d : Declaration} {x : Entity} (h : Survives env marks d e x) :
    x.name = e.name ∧ x.synthetic = e.synthetic := by
  rw [h.same]
  exact ⟨rfl, rfl⟩

theorem map_eq_map_of_forall₂ {α β γ : Type} {r : α → β → Prop} {f : α → γ} {g : β → γ} {as : List α}
    {bs : List β} (h : List.Forall₂ r as bs) (hfg : ∀ a b, r a b → f a = g b) : as.map f = bs.map g := by
  induction h with
  | nil => rfl
  | cons hab _ ih => rw [List.map_cons, List.map_cons, hfg _ _ hab, ih]

theorem names_of_declares (h : Declares index ds es) : es.map (·.name) = ds.map (·.ident) := by
  rw [← map_eq_map_of_forall₂ h fun p e he => (ident_of_convert he).1.symm]
  conv_rhs => rw [← List.zipIdx_map_fst index ds, List.map_map]
  rfl

theorem names_of_remains (h : Remains env marks (enabledFirsts env ds) kept) :
    kept.map (·.name) = ((Declaration.firsts [] ds).filter (·.isEnabled env)).map (·.ident) := by
  have hnames : (enabledFirsts env ds).map (·.1.ident) = kept.map (·.name) := by
    refine map_eq_map_of_forall₂ h ?_
    rintro p x ⟨e, he, hsurvives⟩
    exact (hsurvives.name.1.trans (ident_of_convert he).1).symm
  have hfirsts : (enabledFirsts env ds).map Prod.fst =
      (Declaration.firsts [] ds).filter (·.isEnabled env) := by
    conv_rhs => rw [← List.zipIdx_map_fst 0 (Declaration.firsts [] ds), List.filter_map]
    rfl
  rw [← hnames, ← hfirsts, List.map_map]
  rfl

theorem synthetic_of_remains {ps : List (Declaration × Nat)} (h : Remains env marks ps kept) :
    ∀ x ∈ kept, x.synthetic = false := by
  induction h with
  | nil => simp
  | cons hhead _ ih =>
    obtain ⟨e, he, hsurvives⟩ := hhead
    rintro x (_ | ⟨_, hx⟩)
    · exact hsurvives.name.2.trans (ident_of_convert he).2
    · exact ih x hx

/-- Pruning is exact: of what was built, in its order and in front of the stubs that pruning adds, there stays
what every single predicate of the declaration allows, with the members that their predicates allow. -/
theorem prune_exact (h : (build external ds).result = .ok lib) (env : Environment) (marks : List String) :
    Declares 0 (Declaration.firsts [] ds) lib.entities ∧
    (∀ d ∈ Declaration.firsts [] ds,
      (∃ x ∈ (lib.prune env marks).library.entities, x.name = d.ident ∧ x.synthetic = false) ↔
        d.isEnabled env = true) ∧
    ∃ kept stubs, (lib.prune env marks).library.entities = kept ++ stubs ∧
      Remains env marks (enabledFirsts env ds) kept ∧ ∀ s ∈ stubs, s.synthetic = true := by
  have hdeclares := build_declares h
  have htable := (isFresh_build h).table
  obtain ⟨stubs, hentities, hstubs⟩ := entities_prune env marks htable
  have hremains := remains_of_declares env marks hdeclares
  refine ⟨hdeclares, fun d hd => ?_, _, stubs, hentities, hremains, hstubs⟩
  have hnodup : ((Declaration.firsts [] ds).map (·.ident)).Nodup := by
    rw [← names_of_declares hdeclares]
    exact htable
  have hiff : d.ident ∈ ((Declaration.firsts [] ds).filter (·.isEnabled env)).map (·.ident) ↔
      d.isEnabled env = true := by
    constructor
    · intro hmem
      obtain ⟨d', hd', hident⟩ := List.mem_map.1 hmem
      obtain ⟨hmem', henabled⟩ := List.mem_filter.1 hd'
      rwa [← List.inj_on_of_nodup_map hnodup hmem' hd hident]
    · exact fun henabled => List.mem_map_of_mem (List.mem_filter.2 ⟨hd, henabled⟩)
  rw [hentities, ← hiff, ← names_of_remains hremains]
  constructor
  · rintro ⟨x, hx, hname, hdeclared⟩
    rcases List.mem_append.1 hx with hx | hx
    · exact hname ▸ List.mem_map_of_mem hx
    · rw [hstubs x hx] at hdeclared
      cases hdeclared
  · intro hmem
    obtain ⟨x, hx, hname⟩ := List.mem_map.1 hmem
    exact ⟨x, List.mem_append_left _ hx, hname, synthetic_of_remains hremains x hx⟩

/-- A struct with a predicate repeated on two levels and one on a field, an enum that is built for another
system but still pointed to, and a function with a parameter for tests. -/
def harbour : List Declaration := [
  ⟨"Ship", [⟨"cfg", some "unix"⟩], [], "port", true, [.text "all(unix, not(test))"],
    .struct [⟨"crew", .path "u8" [], [⟨"cfg", some "unix"⟩]⟩, ⟨"log", .path "u8" [], [⟨"cfg", some "test"⟩]⟩,
      ⟨"dock", .pointer (.path "Dock" []) false false, []⟩]⟩,
  ⟨"Dock", [⟨"cfg", some "windows"⟩], [], "port", true, [], .enum [⟨"Dry", none, [], []⟩]⟩,
  ⟨"moor", [], [], "port", true, [.text "unix"],
    .function [⟨some "ship", .pointer (.path "Ship" []) true false, []⟩,
      ⟨none, .path "bool" [], [⟨"cfg", some "any(test, windows)"⟩]⟩] none true⟩]

theorem prune_exact_harbour : ∃ lib, (build [] harbour).result = .ok lib ∧
    (lib.prune ⟨[("unix", true)], []⟩ ["moor"]).library.names = ["Ship", "moor", "Dock"] ∧
    ∀ d ∈ harbour, (∃ x ∈ (lib.prune ⟨[("unix", true)], []⟩ ["moor"]).library.entities,
      x.name = d.ident ∧ x.synthetic = false) ↔ d.isEnabled ⟨[("unix", true)], []⟩ = true := by
  have hnames : (build [] harbour).result.map (fun lib =>
      (lib.prune ⟨[("unix", true)], []⟩ ["moor"]).library.names) = .ok ["Ship", "moor", "Dock"] := by
    cbv
  cases hbuild : (build [] harbour).result with
  | error e => rw [hbuild] at hnames; cases hnames
  | ok lib =>
    rw [hbuild] at hnames
    exact ⟨lib, rfl, Except.ok.inj hnames, (prune_exact hbuild _ _).2.1⟩

end Library

end CrateHeader
