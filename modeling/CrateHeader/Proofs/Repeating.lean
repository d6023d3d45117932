import CrateHeader.Proofs.Capturing
import CrateHeader.Proofs.PathNames

/-!
# Fixed points of specialization

Renaming a second time changes nothing where no key has the name of an instance in it. Where a library has no
templates, specialization makes nothing: it walks the surface of the library and renames what is left of it.
It changes nothing at all just when the library is settled. That nothing is made is the point of
`Walk.Strolls`; such a walk does not depend on what was made before, so it goes as one in a library where
nothing was.
-/

namespace CrateHeader

/-! ### Renaming twice -/

namespace Ty

variable {rename : String → List Ty → Option String} {name : String}

/-- Is a name one that paths become? -/
def IsGiven (rename : String → List Ty → Option String) (n : String) : Prop :=
  ∃ name args, rename name args = some n

mutual
/-- Where no name that paths become is to be seen afterwards, nothing was replaced. -/
theorem replacePaths_eq_self : (ty : Ty) →
    (∀ n, IsGiven rename n → n ∉ (ty.replacePaths rename).pathNames) → ty.replacePaths rename = ty
  | .primitive _, _ => rfl
  | .path _ [], _ => rfl
  | .path name (first :: rest), h => by
    cases hn : rename name (first :: rest) with
    | some n =>
      rw [replacePaths_of_some hn] at h
      exact absurd List.mem_cons_self (h n ⟨_, _, hn⟩)
    | none =>
      rw [replacePaths_of_none hn] at h ⊢
      rw [replacePathsAll_eq_self (first :: rest) fun n hgiven hmem =>
        h n hgiven (List.mem_cons_of_mem _ hmem)]
  | .pointer target _ _, h => by rw [replacePaths, replacePaths_eq_self target h]
  | .array element _, h => by rw [replacePaths, replacePaths_eq_self element h]
  | .function params ret _, h => by
    rw [replacePaths, replacePathsParams_eq_self params fun n hgiven hmem =>
      h n hgiven (List.mem_append_left _ hmem), replacePaths_eq_self ret fun n hgiven hmem =>
      h n hgiven (List.mem_append_right _ hmem)]

theorem replacePathsAll_eq_self : (ts : List Ty) →
    (∀ n, IsGiven rename n → n ∉ pathNamesAll (replacePathsAll rename ts)) → replacePathsAll rename ts = ts
  | [], _ => rfl
  | t :: rest, h => by
    rw [replacePathsAll, replacePaths_eq_self t fun n hgiven hmem => h n hgiven (List.mem_append_left _ hmem),
      replacePathsAll_eq_self rest fun n hgiven hmem => h n hgiven (List.mem_append_right _ hmem)]

theorem replacePathsParams_eq_self : (ps : List (Option String × Ty)) →
    (∀ n, IsGiven rename n → n ∉ pathNamesParams (replacePathsParams rename ps)) →
      replacePathsParams rename ps = ps
  | [], _ => rfl
  | (_, t) :: rest, h => by
    rw [replacePathsParams, replacePaths_eq_self t fun n hgiven hmem =>
      h n hgiven (List.mem_append_left _ hmem), replacePathsParams_eq_self rest fun n hgiven hmem =>
      h n hgiven (List.mem_append_right _ hmem)]
end

/-- No path that is replaced has in its arguments a name that paths become. -/
def HasPlainKeys (rename : String → List Ty → Option String) : Prop :=
  ∀ name args n, rename name args = some n → ∀ k, IsGiven rename k → k ∉ pathNamesAll args

mutual
/-- With such keys, replacing once replaces all there is to replace. -/
theorem replacePaths_replacePaths (hkeys : HasPlainKeys rename) : (ty : Ty) →
    (ty.replacePaths rename).replacePaths rename = ty.replacePaths rename
  | .primitive _ => rfl
  | .path _ [] => rfl
  | .path name (first :: rest) => by
    cases hn : rename name (first :: rest) with
    | some n => rw [replacePaths_of_some hn]; rfl
    | none =>
      have hrest := replacePathsAll_replacePathsAll hkeys (first :: rest)
      rw [replacePaths_of_none hn]
      rw [replacePathsAll] at hrest ⊢
      cases hagain : rename name (first.replacePaths rename :: replacePathsAll rename rest) with
      | none => rw [replacePaths_of_none hagain, hrest]
      | some n =>
        -- then the arguments stand as they were, and they had no name
        have hself : replacePathsAll rename (first :: rest) = first :: rest :=
          replacePathsAll_eq_self (first :: rest) (hkeys _ _ _ hagain)
        rw [replacePathsAll] at hself
        rw [hself, hn] at hagain
        cases hagain
  | .pointer target _ _ => by simp only [replacePaths, replacePaths_replacePaths hkeys target]
  | .array element _ => by simp only [replacePaths, replacePaths_replacePaths hkeys element]
  | .function params ret _ => by
    simp only [replacePaths, replacePathsParams_replacePathsParams hkeys params,
      replacePaths_replacePaths hkeys ret]

theorem replacePathsAll_replacePathsAll (hkeys : HasPlainKeys rename) : (ts : List Ty) →
    replacePathsAll rename (replacePathsAll rename ts) = replacePathsAll rename ts
  | [] => rfl
  | t :: rest => by
    simp only [replacePathsAll, replacePaths_replacePaths hkeys t, replacePathsAll_replacePathsAll hkeys rest]

theorem replacePathsParams_replacePathsParams (hkeys : HasPlainKeys rename) :
    (ps : List (Option String × Ty)) →
      replacePathsParams rename (replacePathsParams rename ps) = replacePathsParams rename ps
  | [] => rfl
  | (_, t) :: rest => by
    simp only [replacePathsParams, replacePaths_replacePaths hkeys t,
      replacePathsParams_replacePathsParams hkeys rest]
end

end Ty

theorem Body.mapTypes_mapTypes (f f' : Ty → Ty) (b : Body) :
    (b.mapTypes f).mapTypes f' = b.mapTypes fun t => f' (f t) := by
  cases b <;> simp [mapTypes]

theorem Entity.mapTypes_mapTypes (f f' : Ty → Ty) (e : Entity) :
    (e.mapTypes f).mapTypes f' = e.mapTypes fun t => f' (f t) :=
  congrArg (fun body => { e with body }) (Body.mapTypes_mapTypes f f' e.body)

/-! ### Walking without templates -/

theorem Library.get?_congr {lib lib' : Library} (h : lib.entities = lib'.entities) : lib.get? = lib'.get? := by
  funext name
  rw [get?, get?, h]

/-- What is on the surface depends on the table only. -/
theorem OnSurface.congr {lib lib' : Library} {included excluded : List String} {s : Member}
    (h : lib.entities = lib'.entities) (hs : OnSurface lib included excluded s) :
    OnSurface lib' included excluded s := by
  have hget : lib.get? = lib'.get? := Library.get?_congr h
  induction hs with
  | root he hconcrete hkept hwanted => exact .root (h ▸ he) hconcrete hkept hwanted
  | concrete _ hm hkept ht hconcrete ih => exact .concrete ih hm hkept (hget ▸ ht) hconcrete
  | generic _ hm hkept ht hgeneric ih => exact .generic ih hm hkept (hget ▸ ht) hgeneric

namespace Workshop

variable {ceiling : Ceiling} {excluded : List String} {w w' : Workshop} {owner : Entity} {m : Ty.Mention}
  {depth : Nat} {found : Option Entity}

/-- The workshop without the memory of what was made in it. -/
def forget (w : Workshop) : Workshop := { w with library := { w.library with instances := [] } }

/-- Without templates nothing is made, and nothing depends on what was made before. -/
theorem follow_of_concrete (hconcrete : ∀ e ∈ w.library.entities, e.isGeneric = false)
    (h : w.follow ceiling excluded owner m depth = .ok (found, w')) :
    w' = w ∧ (∀ e ∈ found, e ∈ w.library.entities) ∧
      w.forget.follow ceiling excluded owner m depth = .ok (found, w.forget) := by
  have hget : w.forget.library.get? m.name = w.library.get? m.name := rfl
  rcases follow_ok h with ⟨rfl, rfl, hnone⟩ | ⟨t, ht, hkept, hplain, hargs, rfl, rfl⟩ |
    ⟨t, _, ht, _, hgeneric, _⟩
  · refine ⟨rfl, by simp, ?_⟩
    unfold follow
    rw [hget]
    rcases hnone with hnone | hexcluded
    · rw [hnone]
    · cases w'.library.get? m.name with
      | none => rfl
      | some t => simp [hexcluded]
  · refine ⟨rfl, ?_, ?_⟩
    · rintro e ⟨⟩
      exact Library.mem_of_get? ht
    · unfold follow
      rw [hget, ht]
      simp [hkept, hplain, hargs]
  · rw [hconcrete t (Library.mem_of_get? ht)] at hgeneric
    cases hgeneric

theorem exists_follow (hconcrete : ∀ e ∈ w.library.entities, e.isGeneric = false)
    (hplain : m.args ≠ [] → w.library.get? m.name = none) :
    ∃ found, w.follow ceiling excluded owner m depth = .ok (found, w) := by
  unfold follow
  cases ht : w.library.get? m.name with
  | none => exact ⟨none, rfl⟩
  | some t =>
    have hargs : m.args = [] := by
      by_contra hargs
      rw [hplain hargs] at ht
      cases ht
    by_cases hexcluded : m.name ∈ excluded
    · exact ⟨none, by simp [hexcluded]⟩
    · exact ⟨some t, by simp [hexcluded, hconcrete t (Library.mem_of_get? ht), hargs]⟩

end Workshop

namespace Walk

variable {ceiling : Ceiling} {excluded : List String} {w w' : Walk} {owner : Entity} {m : Ty.Mention}
  {left : List Ty.Mention} {depth : Nat} {shop : Workshop} {found : Option Entity}

/-- A walk that has left its workshop as it was. -/
structure Strolls (shop : Workshop) (w : Walk) : Prop where
  workshop : w.workshop = shop
  waiting : ∀ x ∈ w.queue, x.1 ∈ shop.library.entities

def forget (w : Walk) : Walk := { w with workshop := w.workshop.forget }

theorem reach_forget : w.forget.reach depth (found, shop.forget) = (w.reach depth (found, shop)).forget := by
  cases found with
  | none => rfl
  | some e =>
    unfold reach
    by_cases hreached : w.reached.contains e.name = true
    · have hforget : w.forget.reached.contains e.name = true := hreached
      simp only [if_pos hreached, if_pos hforget]
      rfl
    · have hforget : ¬ w.forget.reached.contains e.name = true := hreached
      simp only [if_neg hreached, if_neg hforget]
      rfl

namespace Strolls

theorem reach (hw : Strolls shop w) (hfound : ∀ e ∈ found, e ∈ shop.library.entities) :
    Strolls shop (w.reach depth (found, shop)) := by
  cases found with
  | none => exact hw
  | some e =>
    refine ⟨workshop_reach, fun x hx => ?_⟩
    rcases of_mem_queue_reach hx with hx | hx
    · exact hw.waiting x hx
    · exact hx ▸ hfound e rfl

variable (hconcrete : ∀ e ∈ shop.library.entities, e.isGeneric = false)
include hconcrete

theorem of_visit (hw : Strolls shop w) (h : visit ceiling excluded owner depth left w = .ok w') :
    Strolls shop w' ∧ visit ceiling excluded owner depth left w.forget = .ok w'.forget := by
  induction left generalizing w with
  | nil =>
    cases h
    exact ⟨hw, rfl⟩
  | cons m rest ih =>
    obtain rfl := hw.workshop
    simp only [visit] at h ⊢
    split at h
    · cases h
    · next found hfollow =>
      obtain ⟨found, after⟩ := found
      obtain ⟨rfl, hfound, hforget⟩ := Workshop.follow_of_concrete hconcrete hfollow
      have hagain : w.forget.workshop.follow ceiling excluded owner m depth = .ok (found, w.forget.workshop) :=
        hforget
      obtain ⟨hstrolls, hvisit⟩ := ih (hw.reach hfound) h
      rw [hagain]
      exact ⟨hstrolls, (congrArg _ reach_forget).trans hvisit⟩

/-- A visit fails only at a path with arguments to what is in the table. -/
theorem exists_visit (hw : Strolls shop w)
    (hplain : ∀ m ∈ left, m.args ≠ [] → shop.library.get? m.name = none) :
    ∃ w', visit ceiling excluded owner depth left w = .ok w' := by
  induction left generalizing w with
  | nil => exact ⟨w, rfl⟩
  | cons m rest ih =>
    obtain rfl := hw.workshop
    have hexists : ∃ found, w.workshop.follow ceiling excluded owner m depth = .ok (found, w.workshop) :=
      Workshop.exists_follow hconcrete (hplain m List.mem_cons_self)
    obtain ⟨found, hfollow⟩ := hexists
    simp only [visit, hfollow]
    obtain ⟨_, hfound, _⟩ := Workshop.follow_of_concrete hconcrete hfollow
    exact ih (hw.reach hfound) fun m' hm' => hplain m' (List.mem_cons_of_mem _ hm')

theorem of_run (hw : Strolls shop w) (h : run ceiling excluded w = .ok w') :
    Strolls shop w' ∧ run ceiling excluded w.forget = .ok w'.forget := by
  induction w using Walk.run.induct ceiling excluded with
  | case1 w hq =>
    rw [run_of_nil hq] at h
    cases h
    exact ⟨hw, run_of_nil hq⟩
  | case2 w e depth rest hq failure hv =>
    rw [run_of_failure hq hv] at h
    cases h
  | case3 w e depth rest hq after hv _ ih =>
    rw [run_of_visit hq hv] at h
    have hrest : Strolls shop { w with queue := rest } :=
      ⟨hw.workshop, fun x hx => hw.waiting x (hq ▸ List.mem_cons_of_mem _ hx)⟩
    obtain ⟨hafter, hvisit⟩ := of_visit hconcrete hrest hv
    obtain ⟨hstrolls, hrun⟩ := ih hafter h
    have hforget : run ceiling excluded w.forget = run ceiling excluded after.forget := run_of_visit hq hvisit
    exact ⟨hstrolls, hforget.trans hrun⟩

theorem exists_run (hw : Strolls shop w)
    (hplain : ∀ e ∈ shop.library.entities, ∀ m ∈ e.mentions, m.args ≠ [] → shop.library.get? m.name = none) :
    ∃ w', run ceiling excluded w = .ok w' := by
  induction w using Walk.run.induct ceiling excluded with
  | case1 w hq => exact ⟨w, run_of_nil hq⟩
  | case2 w e depth rest hq failure hv =>
    have hrest : Strolls shop { w with queue := rest } :=
      ⟨hw.workshop, fun x hx => hw.waiting x (hq ▸ List.mem_cons_of_mem _ hx)⟩
    have he : e ∈ shop.library.entities := hw.waiting (e, depth) (hq ▸ List.mem_cons_self)
    obtain ⟨after, hafter⟩ := exists_visit hconcrete hrest (hplain e he)
    rw [hv] at hafter
    cases hafter
  | case3 w e depth rest hq after hv _ ih =>
    have hrest : Strolls shop { w with queue := rest } :=
      ⟨hw.workshop, fun x hx => hw.waiting x (hq ▸ List.mem_cons_of_mem _ hx)⟩
    rw [run_of_visit hq hv]
    exact ih (of_visit hconcrete hrest hv).1

end Strolls

end Walk

/-! ### Fixed points -/

/-- What renaming makes of an entity. -/
def Library.renamed (lib : Library) (e : Entity) : Entity := e.mapTypes (Ty.replacePaths lib.instanceName?)

/-- Every reference with arguments leads out of the table, everything is on the surface, and no path selects
an instance. -/
structure Library.IsSettled (included excluded : List String) (lib : Library) : Prop where
  plain : ∀ e ∈ lib.entities, ∀ m ∈ e.mentions, m.args ≠ [] → lib.get? m.name = none
  reached : ∀ e ∈ lib.entities, OnSurface lib included excluded (.declared e)
  renamed : ∀ e ∈ lib.entities, lib.renamed e = e

namespace Workshop

variable {ceiling : Ceiling} {included excluded : List String} {w w' : Workshop} {walk : Walk}

/-- Specialization succeeds and changes neither the table nor what is left to included headers. -/
def Repeats (ceiling : Ceiling) (included excluded : List String) (w : Workshop) : Prop :=
  ∃ w', w.specialize ceiling included excluded = (w', .ok ()) ∧
    w'.library.entities = w.library.entities ∧ w'.library.external = w.library.external

theorem strolls_start (included excluded : List String) (w : Workshop) :
    Walk.Strolls (w.start included excluded).workshop (w.start included excluded) := by
  refine ⟨rfl, fun x hx => ?_⟩
  obtain ⟨e, he, rfl⟩ := List.mem_map.1 hx
  exact (List.mem_filter.1 he).1

section

variable (htable : w.library.IsTable) (hconcrete : ∀ e ∈ w.library.entities, e.isGeneric = false)
include htable hconcrete

/-- A walk through a library without templates reaches the surface and leaves the library as it is. -/
theorem strolled (hrun : Walk.run ceiling excluded (w.start included excluded) = .ok walk) :
    walk.workshop.library = w.library ∧
    (∀ e ∈ w.library.entities, e.name ∈ walk.reached ↔ OnSurface w.library included excluded (.declared e)) ∧
    ∀ e ∈ w.library.entities, e.name ∈ walk.reached → e.name ∉ excluded → ∀ m ∈ e.mentions, m.args ≠ [] →
      m.name ∉ excluded → w.library.get? m.name = none := by
  have hstart : ∀ e ∈ (w.start included excluded).workshop.library.entities, e.isGeneric = false := hconcrete
  obtain ⟨hstrolls, hforget⟩ := Walk.Strolls.of_run hstart (strolls_start included excluded w) hrun
  -- the same walk without memory is one that starts with nothing made
  have htwin : Walk.run ceiling excluded (w.forget.start included excluded) = .ok walk.forget := hforget
  let left : Workshop :=
    { w.forget with library := walk.forget.workshop.library.keepReached walk.forget.reached excluded }
  have hexists : ∃ owner, Ended ceiling included excluded w.forget left walk.forget owner :=
    exists_ended_of_run htable rfl htwin rfl
  obtain ⟨owner, hended⟩ := hexists
  have hentities : w.forget.library.entities = w.library.entities := rfl
  have hlibrary : walk.workshop.library = (w.start included excluded).workshop.library :=
    congrArg Workshop.library hstrolls.workshop
  refine ⟨hlibrary, fun e he => ⟨fun hreached => ?_, fun hs => ?_⟩, ?_⟩
  · exact (hended.inv.declared e he hreached).congr hentities
  · exact (hended.inv.mem_reached hended.idle).2 ⟨_, hs.congr hentities.symm, rfl⟩
  · intro e he hreached hkept m hm hargs hmkept
    cases hget : w.library.get? m.name with
    | none => rfl
    | some t =>
      have ht := Library.mem_of_get? hget
      have hsurvives : e ∈ Library.survivors walk.forget.reached excluded (seen w.forget left) :=
        Library.mem_survivors.2 ⟨List.mem_append_left _ he, hreached, hkept⟩
      exact absurd (hended.args_eq_nil hsurvives hm ht (Library.name_of_get? hget) hmkept (hconcrete t ht)) hargs

/-- A library without templates, of which nothing is left out any more, is a fixed point of specialization just
when it is settled. -/
theorem repeats_iff_isSettled (hkept : ∀ n ∈ w.library.names, n ∉ excluded)
    (hexternal : ∀ n ∈ excluded, n ∈ w.library.external) :
    w.Repeats ceiling included excluded ↔ w.library.IsSettled included excluded := by
  have hname : ∀ e ∈ w.library.entities, e.name ∉ excluded := fun e he => hkept _ (List.mem_map_of_mem he)
  constructor
  · rintro ⟨w', h, hentities, _⟩
    obtain ⟨walk, hrun, hlib⟩ := specialize_run h
    obtain ⟨hsame, hreached, hplain⟩ := strolled htable hconcrete hrun
    rw [hlib, Library.entities_keepReached, hsame] at hentities
    -- as many entities are left as there were
    have hall : Library.survivors walk.reached excluded w.library.entities = w.library.entities :=
      List.filter_sublist.eq_of_length ((List.length_map _).symm.trans (congrArg List.length hentities))
    have hin : ∀ e ∈ w.library.entities, e.name ∈ walk.reached := fun e he =>
      (Library.mem_survivors.1 (hall.symm ▸ he)).2.1
    constructor
    case plain =>
      intro e he m hm hargs
      cases hget : w.library.get? m.name with
      | none => rfl
      | some t =>
        have hmkept : m.name ∉ excluded := Library.name_of_get? hget ▸ hname t (Library.mem_of_get? hget)
        exact hget.symm.trans (hplain e he (hin e he) (hname e he) m hm hargs hmkept)
    case reached => exact fun e he => (hreached e he).1 (hin e he)
    case renamed =>
      rw [hall] at hentities
      exact List.map_inj_left.1 (hentities.trans (List.map_id _).symm)
  · intro hsettled
    have hexists : ∃ walk, Walk.run ceiling excluded (w.start included excluded) = .ok walk :=
      Walk.Strolls.exists_run (show ∀ e ∈ (w.start included excluded).workshop.library.entities, _ from hconcrete)
        (strolls_start included excluded w) hsettled.plain
    obtain ⟨walk, hrun⟩ := hexists
    obtain ⟨hsame, hreached, _⟩ := strolled htable hconcrete hrun
    obtain ⟨hok, hlib⟩ := specialize_of_walk hrun
    have hall : Library.survivors walk.reached excluded w.library.entities = w.library.entities := by
      refine List.filter_eq_self.2 fun e he => ?_
      simpa using ⟨(hreached e he).2 (hsettled.reached e he), hname e he⟩
    refine ⟨_, Prod.ext rfl hok, ?_, ?_⟩
    · rw [hlib, Library.entities_keepReached, hsame, hall]
      exact (List.map_congr_left hsettled.renamed).trans (List.map_id _)
    · rw [hlib, hsame, Library.external_keepReached_eq_self hexternal]

end

end Workshop

end CrateHeader
