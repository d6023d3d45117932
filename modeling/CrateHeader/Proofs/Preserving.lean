import CrateHeader.Proofs.Pruning

/-!
# What the stages preserve

A property of entities that holds of whatever the declarations are built into holds of all entities that are
ordered, if it withstands what each stage in between does to an entity. `Entity.IsStable` lists what that is, and
`Pipeline.forall_prepare` takes a stable property through the stages.
-/

namespace CrateHeader

namespace Declaration

variable {index : Nat} {e : Entity} {d : Declaration}

/-- What some declarations are built into is what one of them is built into at its place. -/
theorem exists_convert {ds : List Declaration} {es : List Entity} (h : Declares index ds es) (he : e ∈ es) :
    ∃ p ∈ ds.zipIdx index, (p.1.convert p.2).result = .ok e := by
  unfold Declares at h
  generalize ds.zipIdx index = places at h ⊢
  induction h with
  | nil => cases he
  | cons hhead _ ih =>
    rcases List.mem_cons.1 he with rfl | he
    · exact ⟨_, List.mem_cons_self, hhead⟩
    · obtain ⟨p, hp, hconvert⟩ := ih he
      exact ⟨p, List.mem_cons_of_mem _ hp, hconvert⟩

theorem mem_of_mem_firsts {taken : List String} {ds : List Declaration} (h : d ∈ firsts taken ds) : d ∈ ds := by
  induction ds generalizing taken with
  | nil => cases h
  | cons x rest ih =>
    unfold firsts at h
    split at h
    · exact List.mem_cons_of_mem _ (ih h)
    · rcases List.mem_cons.1 h with rfl | h
      · exact List.mem_cons_self
      · exact List.mem_cons_of_mem _ (ih h)

end Declaration

/-- A property of entities that nothing takes away that is done to them between building and ordering. On the
surface of a library it holds of what is made of a template if it holds of all that was declared. -/
structure Entity.IsStable (settings : Settings) (p : Entity → Prop) : Prop where
  prune : ∀ e, p e → p (e.prune settings.cfg.environment)
  asOpaque : ∀ e : Entity, p e.asOpaque
  stub : ∀ e : Entity, p e.stub
  surface : ∀ lib : Library, (∀ e ∈ lib.entities, p e) → ∀ included excluded s,
    OnSurface lib included excluded s → ∀ dropUnderscores seq, p (s.entity dropUnderscores seq)
  replacePaths : ∀ rename e, p e → p (e.mapTypes (Ty.replacePaths rename))
  assignNames : ∀ e, p e → p (e.assignNames settings)

theorem Entity.kind_assignNames (settings : Settings) (e : Entity) : (e.assignNames settings).kind = e.kind := by
  unfold Entity.kind assignNames nameMembers
  cases e.body <;> rfl

namespace Library

variable {lib : Library} {settings : Settings} {p : Entity → Prop}

theorem forall_build {external : List String} {ds : List Declaration} (h : (build external ds).result = .ok lib)
    (hds : ∀ d ∈ ds, ∀ index e, (d.convert index).result = .ok e → p e) : ∀ e ∈ lib.entities, p e := by
  intro e he
  obtain ⟨⟨d, index⟩, hd, hconvert⟩ := Declaration.exists_convert (build_declares h) he
  exact hds d (Declaration.mem_of_mem_firsts (List.fst_mem_of_mem_zipIdx hd)) index e hconvert

/-- A property that holds of all opaque types and withstands the pruning of members holds after pruning. -/
theorem forall_prune {env : Environment} (hprune : ∀ e, p e → p (e.prune env))
    (hbodiless : ∀ e : Entity, p e.asOpaque) (hstub : ∀ e : Entity, p e.stub) (marks : List String)
    (h : ∀ e ∈ lib.entities, p e) : ∀ e ∈ (lib.prune env marks).library.entities, p e := by
  have hadd : ∀ (lib : Library) (r : Entity), (∀ e ∈ lib.entities, p e) → ∀ e ∈ (lib.addStub r).entities, p e := by
    intro lib r hlib e he
    unfold addStub at he
    split at he
    · exact hlib e he
    · rcases List.mem_append.1 he with he | he
      · exact hlib e he
      · rw [List.mem_singleton.1 he]
        exact hstub r
  have hreplace : ∀ (lib : Library) (r : Entity), (∀ e ∈ lib.entities, p e) →
      ∀ e ∈ (lib.replace r r.asOpaque).entities, p e := by
    intro lib r hlib e he
    obtain ⟨x, hx, rfl⟩ := List.mem_map.1 he
    split
    · exact hbodiless r
    · exact hlib x hx
  have hkept : ∀ e ∈ ((lib.entities.filter fun e => !e.isEnabled env).foldl erase lib).entities, p e :=
    List.foldlRecOn (motive := fun lib : Library => ∀ e ∈ lib.entities, p e) _ _ h
      fun _ hlib _ _ e he => hlib e (List.mem_filter.1 he).1
  unfold prune
  dsimp only
  refine List.foldlRecOn _ _ ?_ fun lib hlib m _ => hadd lib m.2.2 hlib
  unfold markOpaque
  refine List.foldlRecOn _ _ ?_ fun lib hlib r _ => hreplace lib r hlib
  intro e he
  obtain ⟨x, hx, rfl⟩ := List.mem_map.1 he
  exact hprune x (hkept x hx)

end Library

namespace Workshop

variable {ceiling : Ceiling} {included excluded : List String} {w w' : Workshop} {settings : Settings}
  {p : Entity → Prop}

theorem forall_specialize (hp : Entity.IsStable settings p) (hfresh : w.library.IsFresh)
    (h : w.specialize ceiling included excluded = (w', .ok ())) (hw : ∀ e ∈ w.library.entities, p e) :
    ∀ e ∈ w'.library.entities, p e := by
  obtain ⟨walk, owner, hinv, _, hlib⟩ := specialize_ok hfresh.table hfresh.unused h
  intro e he
  rw [hlib, Library.entities_keepReached] at he
  obtain ⟨x, hx, rfl⟩ := List.mem_map.1 he
  obtain ⟨hmem, hreached, _⟩ := Library.mem_survivors.1 hx
  obtain ⟨s, seq, hs, rfl⟩ := hinv.sound hmem hreached
  exact hp.replacePaths _ _ (hp.surface _ hw _ _ s hs _ seq)

end Workshop

/-- What all declarations are built into with a stable property is ordered with it. -/
theorem Pipeline.forall_prepare {settings : Settings} {ds : List Declaration} {lib : Library} {p : Entity → Prop}
    (hp : Entity.IsStable settings p) (h : (prepare settings ds).result = .ok lib)
    (hds : ∀ d ∈ ds, ∀ index e, (d.convert index).result = .ok e → p e) : ∀ e ∈ lib.entities, p e := by
  obtain ⟨built, w', hbuilt, hspecialize, rfl⟩ := prepare_stages h
  have hpruned := Library.forall_prune hp.prune hp.asOpaque hp.stub settings.surface.opaqueMarks
    (Library.forall_build hbuilt hds)
  have hmade := Workshop.forall_specialize hp (Library.isFresh_prune _ _ (Library.isFresh_build hbuilt))
    hspecialize hpruned
  intro e he
  obtain ⟨x, hx, rfl⟩ := List.mem_map.1 he
  exact hp.assignNames x (hmade x hx)

end CrateHeader
