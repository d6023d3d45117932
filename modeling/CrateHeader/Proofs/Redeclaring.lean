import CrateHeader.Proofs.Disabling

/-!
# Names that are declared again

A builder remembers of each name the crate that declares it first, and no other crate. So it stops where this crate
declares the name once more. Other crates' declarations of the name are passed over, however many there are.
-/

namespace CrateHeader

namespace Declaration

variable {ds : List Declaration} {d : Declaration}

/-- Can the declaration be built? Where it stands does not matter. -/
def IsWellFormed (d : Declaration) : Prop := ∃ e, (d.convert 0).result = .ok e

/-- What a crate declares a name once by. -/
def key (d : Declaration) : String × String := (d.ident, d.crate)

/-- The crate that declares a name first. -/
def owner? (ds : List Declaration) (name : String) : Option String :=
  (ds.find? fun d => d.ident == name).map (·.crate)

/-- Does the crate that declares some name first declare it again? -/
def Redeclares (ds : List Declaration) : Prop :=
  ∃ earlier d later, ds = earlier ++ d :: later ∧ owner? earlier d.ident = some d.crate

theorem redeclares_concat : Redeclares (ds ++ [d]) ↔ Redeclares ds ∨ owner? ds d.ident = some d.crate := by
  constructor
  · rintro ⟨earlier, again, later, hsplit, howner⟩
    rcases concat_eq_append_cons hsplit with ⟨rfl, rfl⟩ | ⟨between, rfl⟩
    · exact .inr howner
    · exact .inl ⟨earlier, again, between, rfl, howner⟩
  · rintro (⟨earlier, again, later, rfl, howner⟩ | howner)
    · exact ⟨earlier, again, later ++ [d], by simp, howner⟩
    · exact ⟨ds, d, [], rfl, howner⟩

theorem key_mem_of_owner? (h : owner? ds d.ident = some d.crate) : d.key ∈ ds.map key := by
  obtain ⟨first, hfind, hcrate⟩ := Option.map_eq_some_iff.1 h
  have hident : first.ident = d.ident := by simpa using List.find?_some hfind
  exact List.mem_map.2 ⟨first, List.mem_of_find?_eq_some hfind, Prod.ext hident hcrate⟩

theorem not_nodup_of_redeclares (h : Redeclares ds) : ¬ (ds.map key).Nodup := by
  obtain ⟨earlier, d, later, rfl, howner⟩ := h
  rw [List.map_append, List.nodup_append]
  rintro ⟨_, _, hdisjoint⟩
  exact hdisjoint _ (key_mem_of_owner? howner) _ List.mem_cons_self rfl

/-- Where no two crates declare one name, each crate is the first to declare its names. -/
theorem redeclares_iff (h : ∀ a ∈ ds, ∀ b ∈ ds, a.ident = b.ident → a.crate = b.crate) :
    Redeclares ds ↔ ¬ (ds.map key).Nodup := by
  refine ⟨not_nodup_of_redeclares, ?_⟩
  induction ds using List.reverseRecOn with
  | nil => exact fun hnot => absurd List.nodup_nil hnot
  | append_singleton ds d ih =>
    intro hnot
    rw [redeclares_concat]
    by_cases hnodup : (ds.map key).Nodup
    · have hmem : d.key ∈ ds.map key := by
        by_contra hnew
        exact hnot (nodup_map_concat hnodup fun x hx hkey => hnew (hkey ▸ List.mem_map_of_mem hx))
      obtain ⟨x, hx, hkey⟩ := List.mem_map.1 hmem
      have hident : x.ident = d.ident := congrArg Prod.fst hkey
      have hsome : (ds.find? fun y => y.ident == d.ident).isSome :=
        List.find?_isSome.2 ⟨x, hx, by simpa using hident⟩
      obtain ⟨first, hfirst⟩ := Option.isSome_iff_exists.1 hsome
      have hfound : first.ident = d.ident := by simpa using List.find?_some hfirst
      have hcrate : first.crate = d.crate :=
        h first (List.mem_append_left _ (List.mem_of_find?_eq_some hfirst)) d (by simp) hfound
      exact .inr (Option.map_eq_some_iff.2 ⟨first, hfirst, hcrate⟩)
    · exact .inl (ih (fun a ha b hb => h a (List.mem_append_left _ ha) b (List.mem_append_left _ hb)) hnodup)

end Declaration

open Declaration

namespace Builder

variable {b : Builder} {d : Declaration} {ds : List Declaration} {external : List String}

/-- What can be built is refused only if its crate is remembered as that of its name. -/
theorem after_isWellFormed (hsound : b.IsSound) (hd : d.IsWellFormed) :
    (b.declared.lookup d.ident = some d.crate ∧ b.after d = .error (.duplicate d.ident d.crate)) ∨
      (b.declared.lookup d.ident ≠ some d.crate ∧ ∃ b', b.after d = .ok b') := by
  cases hlookup : b.declared.lookup d.ident with
  | none =>
    obtain ⟨b', hafter, _⟩ := omits_after_self hsound hlookup hd
    exact .inr ⟨nofun, b', hafter⟩
  | some first =>
    rw [after_eq, hlookup]
    dsimp only
    split
    · next hfirst => exact .inl ⟨congrArg some hfirst, rfl⟩
    · next hother => exact .inr ⟨fun heq => hother (Option.some.inj heq), b, rfl⟩

/-- Declarations that can be built are added to the end unless a crate declares once more what it declares first. -/
theorem foldlM_after_isWellFormed (external : List String) (h : ∀ d ∈ ds, d.IsWellFormed) :
    (Redeclares ds ∧ ∃ ident crate, ds.foldlM after (empty external) = .error (.duplicate ident crate)) ∨
      (¬ Redeclares ds ∧ ∃ b, ds.foldlM after (empty external) = .ok b) := by
  induction ds using List.reverseRecOn with
  | nil => exact .inr ⟨fun ⟨_, _, _, hsplit, _⟩ => by simp at hsplit, _, rfl⟩
  | append_singleton ds d ih =>
    rw [redeclares_concat, List.foldlM_append]
    rcases ih fun x hx => h x (List.mem_append_left _ hx) with ⟨hagain, ident, crate, hstopped⟩ | ⟨hnot, b, hfold⟩
    · rw [hstopped]
      exact .inl ⟨.inl hagain, ident, crate, rfl⟩
    · obtain ⟨hsound, hlookup⟩ := sound_foldlM (isSound_empty external) hfold
      have howner : b.declared.lookup d.ident = owner? ds d.ident := hlookup d.ident
      have hlast : [d].foldlM after b = b.after d := by simp
      rw [hfold, ← howner]
      change (_ ∧ ∃ ident crate, [d].foldlM after b = _) ∨ (_ ∧ ∃ b', [d].foldlM after b = _)
      rw [hlast]
      rcases after_isWellFormed hsound (h d (by simp)) with ⟨hsame, hstopped⟩ | ⟨hother, hadded⟩
      · exact .inl ⟨.inr hsame, _, _, hstopped⟩
      · exact .inr ⟨not_or.2 ⟨hnot, hother⟩, hadded⟩

/-- What stops the adding of declarations is what stops it one by one. -/
theorem addAll_result (b : Builder) (ds : List Declaration) :
    (b.addAll ds).2.result = (ds.foldlM after b).map fun _ => () := by
  rw [← addAll_eq_foldlM]
  cases (b.addAll ds).2.result <;> rfl

end Builder

/-- Entities that stand for declarations have the places of these. -/
theorem Declares.map_index {index : Nat} {ds : List Declaration} {es : List Entity} (h : Declares index ds es) :
    es.map (·.index) = List.range' index ds.length := by
  induction ds generalizing index es with
  | nil =>
    cases h
    rfl
  | cons d rest ih =>
    rw [Declares, List.zipIdx_cons, List.forall₂_cons_left_iff] at h
    obtain ⟨e, es, hconvert, hrest, rfl⟩ := h
    obtain ⟨_, _, _, _, _, _, rfl⟩ := Declaration.convert_ok hconvert
    rw [List.map_cons, ih hrest, List.length_cons, List.range'_succ]

namespace Builder

/-- Declarations that can be built stop at a duplicate exactly when the crate that declares a name first declares it
again. A crate then declares a name more than once, and if no two crates declare one name, that is all it takes.
Without a duplicate the table has the first declaration of each name, each at its place among these. -/
theorem addAll_redeclares (external : List String) {ds : List Declaration} (h : ∀ d ∈ ds, d.IsWellFormed) :
    let built := (empty external).addAll ds
    ((∃ ident crate, built.2.result = .error (.duplicate ident crate)) ↔ Redeclares ds) ∧
      (built.2.result = .ok () ↔ ¬ Redeclares ds) ∧
      (Redeclares ds → ¬ (ds.map key).Nodup) ∧
      ((∀ a ∈ ds, ∀ b ∈ ds, a.ident = b.ident → a.crate = b.crate) → (Redeclares ds ↔ ¬ (ds.map key).Nodup)) ∧
      (built.2.result = .ok () → Declares 0 (firsts [] ds) built.1.library.entities ∧
        built.1.library.entities.map (·.index) = List.range (firsts [] ds).length) := by
  intro built
  have hlisted : built.2.result = .ok () → Declares 0 (firsts [] ds) built.1.library.entities ∧
      built.1.library.entities.map (·.index) = List.range (firsts [] ds).length := by
    intro hok
    obtain ⟨es, hes, hdeclares⟩ := addAll_ok hok
    have hentities : built.1.library.entities = es := hes
    rw [hentities]
    exact ⟨hdeclares, hdeclares.map_index.trans List.range_eq_range'.symm⟩
  have hresult : built.2.result = (ds.foldlM after (empty external)).map fun _ => () := addAll_result _ _
  rcases foldlM_after_isWellFormed external h with ⟨hagain, ident, crate, hstopped⟩ | ⟨hnot, b, hfold⟩
  · rw [hstopped] at hresult
    refine ⟨iff_of_true ⟨ident, crate, hresult⟩ hagain, iff_of_false ?_ (not_not.2 hagain), not_nodup_of_redeclares,
      redeclares_iff, hlisted⟩
    rw [hresult]
    nofun
  · rw [hfold] at hresult
    refine ⟨iff_of_false ?_ hnot, iff_of_true hresult hnot, not_nodup_of_redeclares, redeclares_iff, hlisted⟩
    rintro ⟨_, _, hduplicate⟩
    rw [hresult] at hduplicate
    cases hduplicate

/-- A name of one crate that another declares twice. -/
def twice : List Declaration := [
  .bare .opaqueType "Config" "core", .bare .opaqueType "Config" "app", .bare .opaqueType "Config" "app"]

theorem isWellFormed_twice : ∀ d ∈ twice, d.IsWellFormed := by
  have hbuilt : ∀ crate, (Declaration.bare .opaqueType "Config" crate).IsWellFormed := fun _ => ⟨_, rfl⟩
  intro d hd
  simp only [twice, List.mem_cons, List.not_mem_nil, or_false] at hd
  rcases hd with rfl | rfl | rfl
  all_goals exact hbuilt _

theorem addAll_twice : ((empty []).addAll twice).2.result = .ok () := by cbv

/-- The first crate alone is heeded, and its declaration alone is listed. -/
theorem addAll_redeclares_twice :
    (∀ d ∈ twice, d.IsWellFormed) ∧ ¬ Redeclares twice ∧
      Declares 0 [.bare .opaqueType "Config" "core"] ((empty []).addAll twice).1.library.entities := by
  obtain ⟨_, hok, _, _, hlisted⟩ := addAll_redeclares [] isWellFormed_twice
  exact ⟨isWellFormed_twice, hok.1 addAll_twice, (hlisted addAll_twice).1⟩

/-- A crate that declares a name twice is not found out if another has declared it before. -/
theorem not_addAll_duplicate_iff :
    ¬ ∀ external ds, (∀ d ∈ ds, Declaration.IsWellFormed d) →
      ((∃ ident crate, ((empty external).addAll ds).2.result = .error (.duplicate ident crate)) ↔
        ¬ (ds.map key).Nodup) := by
  intro h
  have hrepeated : ¬ (twice.map key).Nodup := by decide
  obtain ⟨ident, crate, hduplicate⟩ := (h [] twice isWellFormed_twice).2 hrepeated
  rw [addAll_twice] at hduplicate
  cases hduplicate

end Builder

end CrateHeader
