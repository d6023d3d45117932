import CrateHeader.Crate
import CrateHeader.Failure
import Mathlib.Data.List.Infix
import Mathlib.Logic.Relation
import Mathlib.Tactic.Common

/-!
# The order that crates are loaded in

A walk takes the places of a list one after the other, and what each depends on in front of it, as often as it is
met. It comes to an end exactly when no place below the list depends on itself, and there is only one. The
crates are found in the order in which the walk meets each for the first time: so each is found once and behind
all that it depends on, and crates that another lists are met in the order of the list.
-/

namespace CrateHeader

namespace Registry

open Relation (ReflTransGen TransGen)

variable {r : Registry} {root place : Location} {places visited : List Location} {m : Manifest}
  {walk walk' found out : List Manifest}

/-- One place has a manifest that lists another. -/
def Depends (r : Registry) (a b : Location) : Prop := ∃ m, r.find a = .ok m ∧ b ∈ m.dependencies

/-- A place is another one or is listed below it. -/
def Reach (r : Registry) (a b : Location) : Prop := ReflTransGen r.Depends a b

/-- The manifests at some places, those that each lists in front of it. -/
inductive Walk (r : Registry) : List Location → List Manifest → Prop
  | nil : Walk r [] []
  | cons {place : Location} {rest : List Location} {m : Manifest} {below behind : List Manifest}
      (found : r.find place = .ok m) (listed : Walk r m.dependencies below) (others : Walk r rest behind) :
      Walk r (place :: rest) (below ++ m :: behind)

/-! ### Walks -/

namespace Walk

theorem unique (h : r.Walk places walk) (h' : r.Walk places walk') : walk = walk' := by
  induction h generalizing walk' with
  | nil => cases h'; rfl
  | cons hfound _ _ ihlisted ihothers =>
    cases h' with
    | cons hfound' hlisted' hothers' =>
      cases hfound.symm.trans hfound'
      rw [ihlisted hlisted', ihothers hothers']

theorem append {others : List Location} (h : r.Walk places walk) (h' : r.Walk others walk') :
    r.Walk (places ++ others) (walk ++ walk') := by
  induction h with
  | nil => exact h'
  | cons hfound hlisted _ _ ih =>
    rw [List.cons_append, List.append_assoc, List.cons_append]
    exact .cons hfound hlisted ih

theorem single {below : List Manifest} (hfound : r.find place = .ok m) (h : r.Walk m.dependencies below) :
    r.Walk [place] (below ++ [m]) := .cons hfound h .nil

/-- What a walk meets has been met with all that is below it. -/
theorem part (h : r.Walk places walk) (hm : m ∈ walk) : ∃ inner, r.Walk [m.directory] inner ∧ inner <:+: walk := by
  induction h with
  | nil => cases hm
  | @cons place rest m' below behind hfound hlisted _ ihlisted ihothers =>
    have hsplit : below ++ m' :: behind = (below ++ [m']) ++ behind := by simp
    rcases List.mem_append.1 hm with hm | hm
    · obtain ⟨inner, hinner, hsub⟩ := ihlisted hm
      exact ⟨inner, hinner, hsub.trans (List.prefix_append _ _).isInfix⟩
    · rcases List.mem_cons.1 hm with rfl | hm
      · refine ⟨below ++ [m], ?_, hsplit ▸ (List.prefix_append _ _).isInfix⟩
        rw [r.directory_of_find _ _ hfound]
        exact single hfound hlisted
      · obtain ⟨inner, hinner, hsub⟩ := ihothers hm
        exact ⟨inner, hinner, hsub.trans (hsplit ▸ (List.suffix_append _ _).isInfix)⟩

theorem find (h : r.Walk places walk) (hm : m ∈ walk) : r.find m.directory = .ok m := by
  induction h with
  | nil => cases hm
  | cons hfound _ _ ihlisted ihothers =>
    rcases List.mem_append.1 hm with hm | hm
    · exact ihlisted hm
    · rcases List.mem_cons.1 hm with rfl | hm
      · rwa [r.directory_of_find _ _ hfound]
      · exact ihothers hm

/-- Nothing is met in front of itself. -/
theorem not_mem_below {below : List Manifest} (hfound : r.find place = .ok m) (h : r.Walk m.dependencies below) :
    place ∉ below.map Manifest.directory := by
  intro hplace
  obtain ⟨m', hm', rfl⟩ := List.mem_map.1 hplace
  obtain ⟨inner, hinner, hsub⟩ := h.part hm'
  have hlength := hsub.length_le
  rw [hinner.unique (single hfound h), List.length_append, List.length_singleton] at hlength
  omega

theorem places_subset (h : r.Walk places walk) : places ⊆ walk.map Manifest.directory := by
  induction h with
  | nil => exact List.Subset.refl _
  | @cons place rest m below behind hfound _ _ _ ih =>
    have hplace : place = m.directory := (r.directory_of_find _ _ hfound).symm
    rw [List.map_append, List.map_cons, hplace]
    exact List.cons_subset.2 ⟨by simp, fun x hx => List.mem_append_right _ (List.mem_cons_of_mem _ (ih hx))⟩

/-- A walk goes no further than its places reach. -/
theorem reach (h : r.Walk places walk) (hplace : place ∈ walk.map Manifest.directory) :
    ∃ start ∈ places, r.Reach start place := by
  induction h with
  | nil => cases hplace
  | @cons start rest m below behind hfound _ _ ihlisted ihothers =>
    rw [List.map_append, List.map_cons] at hplace
    rcases List.mem_append.1 hplace with hplace | hplace
    · obtain ⟨next, hnext, hreach⟩ := ihlisted hplace
      exact ⟨start, List.mem_cons_self, .head ⟨m, hfound, hnext⟩ hreach⟩
    · rcases List.mem_cons.1 hplace with rfl | hplace
      · exact ⟨start, List.mem_cons_self, by rw [r.directory_of_find _ _ hfound]; exact .refl⟩
      · obtain ⟨next, hnext, hreach⟩ := ihothers hplace
        exact ⟨next, List.mem_cons_of_mem _ hnext, hreach⟩

/-- A place of a walk has a manifest, and the walk meets what it lists right in front of it. -/
theorem listed (h : r.Walk places walk) (hplace : place ∈ walk.map Manifest.directory) :
    ∃ m below, r.find place = .ok m ∧ r.Walk m.dependencies below ∧ below ++ [m] <:+: walk := by
  obtain ⟨m, hm, rfl⟩ := List.mem_map.1 hplace
  obtain ⟨inner, hinner, hsub⟩ := h.part hm
  cases hinner with
  | cons hfound hlisted hnone =>
    cases hnone
    exact ⟨_, _, hfound, hlisted, hsub⟩

/-- A walk meets all that its places reach. -/
theorem mem_of_reach {start : Location} (h : r.Walk places walk) (hstart : start ∈ places)
    (hreach : r.Reach start place) : place ∈ walk.map Manifest.directory := by
  induction hreach with
  | refl => exact h.places_subset hstart
  | tail _ hdepends ih =>
    obtain ⟨m, below, hfound, hbelow, hsub⟩ := h.listed ih
    obtain ⟨m', hfound', hnext⟩ := hdepends
    cases hfound.symm.trans hfound'
    have hpart : below.map Manifest.directory ⊆ walk.map Manifest.directory :=
      List.map_subset _ fun x hx => hsub.subset (List.mem_append_left _ hx)
    exact hpart (hbelow.places_subset hnext)

/-- Where there is a walk, nothing below its places is below itself. -/
theorem acyclic {start : Location} (h : r.Walk places walk) (hstart : start ∈ places)
    (hreach : r.Reach start place) : ¬ TransGen r.Depends place place := by
  intro hcycle
  obtain ⟨m, below, hfound, hbelow, _⟩ := h.listed (h.mem_of_reach hstart hreach)
  obtain ⟨next, ⟨m', hfound', hnext⟩, hback⟩ := TransGen.head'_iff.1 hcycle
  cases hfound.symm.trans hfound'
  exact not_mem_below hfound hbelow (hbelow.mem_of_reach hnext hback)

/-- What a manifest lists has been met before. -/
theorem before {front back : List Manifest} (h : r.Walk places (front ++ m :: back)) :
    m.dependencies ⊆ front.map Manifest.directory := by
  generalize hwalk : front ++ m :: back = walk at h
  induction h generalizing front back with
  | nil => simp at hwalk
  | @cons place rest m' below behind hfound hlisted _ ihlisted ihothers =>
    rcases List.append_eq_append_iff.1 hwalk with ⟨middle, hbelow, hrest⟩ | ⟨middle, hfront, hrest⟩
    · cases middle with
      | nil =>
        obtain ⟨rfl, rfl⟩ := List.cons.inj hrest
        rw [List.append_nil] at hbelow
        exact hbelow ▸ hlisted.places_subset
      | cons x middle =>
        obtain ⟨rfl, rfl⟩ := List.cons.inj hrest
        exact ihlisted hbelow.symm
    · cases middle with
      | nil =>
        obtain ⟨rfl, rfl⟩ := List.cons.inj hrest
        rw [List.append_nil] at hfront
        exact hfront ▸ hlisted.places_subset
      | cons x middle =>
        obtain ⟨rfl, rfl⟩ := List.cons.inj hrest
        rw [hfront, List.map_append, List.map_cons]
        exact fun d hd => List.mem_append_right _ (List.mem_cons_of_mem _ (ihothers rfl hd))

end Walk

/-! ### The search keeps to a walk -/

/-- Manifests that are those of a walk, each where the walk meets it first. -/
structure Keeps (r : Registry) (found met : List Manifest) : Prop where
  walk : ∃ places, r.Walk places met
  order : found.map Manifest.directory = distinct (met.map Manifest.directory)
  manifests : ∀ m ∈ found, r.find m.directory = .ok m

namespace Keeps

variable {met below : List Manifest}

theorem empty (r : Registry) : r.Keeps [] [] := ⟨⟨[], .nil⟩, rfl, by simp⟩

theorem mem_iff (h : r.Keeps found met) :
    place ∈ found.map Manifest.directory ↔ place ∈ met.map Manifest.directory := by
  rw [h.order, mem_distinct]

/-- A place that was met before is walked once more, and nothing new is found. -/
theorem again (h : r.Keeps found met) (hplace : place ∈ found.map Manifest.directory) :
    ∃ inner, r.Walk [place] inner ∧ r.Keeps found (met ++ inner) := by
  obtain ⟨places, hmet⟩ := h.walk
  obtain ⟨m, hm, rfl⟩ := List.mem_map.1 (h.mem_iff.1 hplace)
  obtain ⟨inner, hinner, hsub⟩ := hmet.part hm
  refine ⟨inner, hinner, ⟨_, hmet.append hinner⟩, ?_, h.manifests⟩
  rw [List.map_append, distinct_append_of_subset (List.map_subset _ hsub.subset), h.order]

/-- A new place joins those found when all that it lists has been found. -/
theorem join (h : r.Keeps found (met ++ below)) (hfound : r.find place = .ok m)
    (hbelow : r.Walk m.dependencies below) (hnew : place ∉ met.map Manifest.directory)
    (hmet : ∃ places, r.Walk places met) : r.Keeps (found ++ [m]) (met ++ (below ++ [m])) := by
  obtain rfl := r.directory_of_find _ _ hfound
  obtain ⟨places, hmet⟩ := hmet
  refine ⟨⟨_, hmet.append (Walk.single hfound hbelow)⟩, ?_, ?_⟩
  · have hlast : m.directory ∉ (met ++ below).map Manifest.directory := by
      rw [List.map_append, List.mem_append, not_or]
      exact ⟨hnew, Walk.not_mem_below hfound hbelow⟩
    rw [← List.append_assoc, List.map_append, h.order]
    exact (congrArg distinct List.map_append).trans (distinct_concat hlast) |>.symm
  · rintro m' hm'
    rcases List.mem_append.1 hm' with hm' | hm'
    · exact h.manifests m' hm'
    · obtain rfl := List.mem_singleton.1 hm'
      exact hfound

/-- What a manifest lists is found before it. -/
theorem before {front back : List Manifest} (h : r.Keeps (front ++ m :: back) met) :
    m.dependencies ⊆ front.map Manifest.directory := by
  have horder := h.order.symm
  rw [List.map_append, List.map_cons, distinct] at horder
  obtain ⟨front', back', hmet, hfront⟩ := distinctFrom_split horder
  obtain ⟨met₁, met₂, rfl, hmet₁, hmet₂⟩ := List.map_eq_append_iff.1 hmet
  obtain ⟨m', met₂, rfl, hm', _⟩ := List.map_eq_cons_iff.1 hmet₂
  obtain ⟨places, hwalk⟩ := h.walk
  -- the manifest is the one that the walk meets first at its place
  have hsame := hwalk.find (List.mem_append_right met₁ List.mem_cons_self)
  rw [hm', h.manifests m (List.mem_append_right front List.mem_cons_self)] at hsame
  cases hsame
  intro d hd
  have hd := hwalk.before hd
  rw [hmet₁] at hd
  exact (hfront d hd).resolve_left (by simp)

end Keeps

/-! ### The search -/

theorem any_iff : (found.any fun m => m.directory == place) = true ↔ place ∈ found.map Manifest.directory := by
  simp

/-- A new place is searched behind what its manifest lists. -/
theorem collect_new {rest : List Location} (hany : ¬ (found.any fun m => m.directory == place) = true)
    (hvisited : ¬ visited.contains place = true) (hfound : r.find place = .ok m) :
    r.collect visited found (place :: rest) =
      (r.collect (place :: visited) found m.dependencies).bind fun before =>
        r.collect visited (before ++ [m]) rest := by
  rw [collect, if_neg hany, dif_neg hvisited]
  split
  · next herror => cases hfound.symm.trans herror
  · next hok =>
    cases hfound.symm.trans hok
    cases r.collect (place :: visited) found m.dependencies <;> rfl

theorem collect_missing {rest : List Location} {e : LoadError}
    (hany : ¬ (found.any fun m => m.directory == place) = true) (hvisited : ¬ visited.contains place = true)
    (hmissing : r.find place = .error e) : r.collect visited found (place :: rest) = .error (.manifest e) := by
  rw [collect, if_neg hany, dif_neg hvisited]
  split
  · next herror =>
    cases hmissing.symm.trans herror
    rfl
  · next hok => cases hmissing.symm.trans hok

/-- What the search finds keeps to a walk of its places, behind the one that has been kept to. -/
theorem keeps_collect {met : List Manifest} (hkeeps : r.Keeps found met)
    (h : r.collect visited found places = .ok out) : ∃ walk, r.Walk places walk ∧ r.Keeps out (met ++ walk) := by
  induction visited, found, places using Registry.collect.induct r generalizing met out with
  | case1 visited found =>
    rw [collect] at h
    cases h
    exact ⟨[], .nil, by rwa [List.append_nil]⟩
  | case2 visited found place rest hany ih =>
    rw [collect, if_pos hany] at h
    obtain ⟨inner, hinner, hagain⟩ := hkeeps.again (any_iff.1 hany)
    obtain ⟨behind, hbehind, hout⟩ := ih hagain h
    exact ⟨inner ++ behind, hinner.append hbehind, by rwa [← List.append_assoc]⟩
  | case3 visited found place rest hany hvisited =>
    rw [collect, if_neg hany, dif_pos hvisited] at h
    cases h
  | case4 visited found place rest hany hvisited e hmissing =>
    rw [collect_missing hany hvisited hmissing] at h
    cases h
  | case5 visited found place rest hany hvisited m hfound _ e herror ih =>
    rw [collect_new hany hvisited hfound, herror] at h
    cases h
  | case6 visited found place rest hany hvisited m hfound _ before hbefore ihlisted ihothers =>
    rw [collect_new hany hvisited hfound, hbefore] at h
    obtain ⟨below, hbelow, hlisted⟩ := ihlisted hkeeps hbefore
    have hnew : place ∉ met.map Manifest.directory := fun hmem => hany (any_iff.2 (hkeeps.mem_iff.2 hmem))
    obtain ⟨behind, hbehind, hout⟩ := ihothers (hlisted.join hfound hbelow hnew hkeeps.walk) h
    refine ⟨below ++ [m] ++ behind, (Walk.single hfound hbelow).append hbehind, ?_⟩
    rwa [← List.append_assoc]

/-- Where all manifests can be loaded, the search fails on the way back to a place that it comes from, and on nothing
else. The places visited are those that it comes from. -/
theorem collect_error {error : RegistryError}
    (hload : ∀ start ∈ places, ∀ place, r.Reach start place → ∃ m, r.find place = .ok m)
    (hvisited : ∀ v ∈ visited, ∀ start ∈ places, TransGen r.Depends v start)
    (h : r.collect visited found places = .error error) :
    ∃ place, error = .cycle place ∧ TransGen r.Depends place place ∧ ∃ start ∈ places, r.Reach start place := by
  -- what holds of a place in front holds of what it lists
  have hrest : ∀ {p : Location → Prop} {place rest}, (∀ start ∈ place :: rest, p start) → ∀ start ∈ rest, p start :=
    fun hall start hstart => hall start (List.mem_cons_of_mem _ hstart)
  have hbelow : ∀ {place next m}, r.find place = .ok m → next ∈ m.dependencies → r.Depends place next :=
    fun hfound hnext => ⟨_, hfound, hnext⟩
  induction visited, found, places using Registry.collect.induct r generalizing error with
  | case1 visited found =>
    rw [collect] at h
    cases h
  | case2 visited found place rest hany ih =>
    rw [collect, if_pos hany] at h
    obtain ⟨p, herror, hcycle, start, hstart, hreach⟩ := ih (hrest hload) (fun v hv => hrest (hvisited v hv)) h
    exact ⟨p, herror, hcycle, start, List.mem_cons_of_mem _ hstart, hreach⟩
  | case3 visited found place rest hany hmem =>
    rw [collect, if_neg hany, dif_pos hmem] at h
    cases h
    exact ⟨place, rfl, hvisited place (by simpa using hmem) place List.mem_cons_self, place, List.mem_cons_self, .refl⟩
  | case4 visited found place rest hany hmem e hmissing =>
    obtain ⟨m, hfound⟩ := hload place List.mem_cons_self place .refl
    cases hmissing.symm.trans hfound
  | case5 visited found place rest hany hmem m hfound _ e herror ih =>
    rw [collect_new hany hmem hfound, herror] at h
    cases h
    have hlisted : ∀ start ∈ m.dependencies, ∀ p, r.Reach start p → ∃ m, r.find p = .ok m :=
      fun start hstart p hreach => hload place List.mem_cons_self p (.head (hbelow hfound hstart) hreach)
    have hway : ∀ v ∈ place :: visited, ∀ start ∈ m.dependencies, TransGen r.Depends v start := by
      intro v hv start hstart
      rcases List.mem_cons.1 hv with rfl | hv
      · exact .single (hbelow hfound hstart)
      · exact (hvisited v hv place List.mem_cons_self).tail (hbelow hfound hstart)
    obtain ⟨p, herror, hcycle, start, hstart, hreach⟩ := ih hlisted hway herror
    exact ⟨p, herror, hcycle, place, List.mem_cons_self, .head (hbelow hfound hstart) hreach⟩
  | case6 visited found place rest hany hmem m hfound _ before hbefore _ ihothers =>
    rw [collect_new hany hmem hfound, hbefore] at h
    obtain ⟨p, herror, hcycle, start, hstart, hreach⟩ := ihothers (hrest hload) (fun v hv => hrest (hvisited v hv)) h
    exact ⟨p, herror, hcycle, start, List.mem_cons_of_mem _ hstart, hreach⟩

/-! ### What is loaded, and in which order -/

/-- Crates whose manifests can all be loaded have no order exactly when one that is depended on depends on itself, and
such a one is named then. Otherwise each crate that is depended on comes once, behind all that it depends on,
and where a walk that takes dependencies as they are listed meets it first. -/
theorem inOrder_correct (hload : ∀ place, r.Reach root place → ∃ m, r.find place = .ok m) :
    ((∃ error, r.inOrder root = .error error) ↔ ∃ place, r.Reach root place ∧ TransGen r.Depends place place) ∧
    (∀ error, r.inOrder root = .error error → ∃ place, error = .cycle place ∧
      r.Reach root place ∧ TransGen r.Depends place place ∧
      ∀ t, (Crate.orderError t error).failure =
        .diagnostic ⟨.source, "Crate dependency cycle through " ++ t.shown place, "", none⟩) ∧
    ((∀ place, r.Reach root place → ¬ TransGen r.Depends place place) → ∃ manifests,
      r.inOrder root = .ok manifests ∧
      (∀ m ∈ manifests, r.find m.directory = .ok m) ∧
      (manifests.map Manifest.directory).Nodup ∧
      (∀ place, place ∈ manifests.map Manifest.directory ↔ r.Reach root place) ∧
      (∀ front m back, manifests = front ++ m :: back → m.dependencies ⊆ front.map Manifest.directory) ∧
      ∃ walk, r.Walk [root] walk ∧ manifests.map Manifest.directory = distinct (walk.map Manifest.directory)) := by
  have hwalk : ∀ {manifests}, r.inOrder root = .ok manifests → ∃ walk, r.Walk [root] walk ∧ r.Keeps manifests walk :=
    fun h => keeps_collect (Keeps.empty r) h
  have herror : ∀ {error}, r.inOrder root = .error error →
      ∃ place, error = .cycle place ∧ r.Reach root place ∧ TransGen r.Depends place place := by
    intro error h
    obtain ⟨place, heq, hcycle, start, hstart, hreach⟩ := collect_error (by simpa using hload) (by simp) h
    obtain rfl := List.mem_singleton.1 hstart
    exact ⟨place, heq, hreach, hcycle⟩
  refine ⟨⟨?_, ?_⟩, fun error h => ?_, fun hacyclic => ?_⟩
  · rintro ⟨error, h⟩
    obtain ⟨place, _, hreach, hcycle⟩ := herror h
    exact ⟨place, hreach, hcycle⟩
  · rintro ⟨place, hreach, hcycle⟩
    cases h : r.inOrder root with
    | error error => exact ⟨error, rfl⟩
    | ok manifests =>
      obtain ⟨walk, hwalk, _⟩ := hwalk h
      exact absurd hcycle (hwalk.acyclic List.mem_cons_self hreach)
  · obtain ⟨place, rfl, hreach, hcycle⟩ := herror h
    exact ⟨place, rfl, hreach, hcycle, fun t => rfl⟩
  · cases h : r.inOrder root with
    | error error =>
      obtain ⟨place, _, hreach, hcycle⟩ := herror h
      exact absurd hcycle (hacyclic place hreach)
    | ok manifests =>
      obtain ⟨walk, hwalk, hkeeps⟩ := hwalk h
      refine ⟨manifests, rfl, hkeeps.manifests, hkeeps.order ▸ nodup_distinct _, fun place => ?_, ?_, walk, hwalk,
        hkeeps.order⟩
      · rw [hkeeps.mem_iff]
        refine ⟨fun hplace => ?_, hwalk.mem_of_reach List.mem_cons_self⟩
        obtain ⟨start, hstart, hreach⟩ := hwalk.reach hplace
        rwa [List.mem_singleton.1 hstart] at hreach
      · rintro front m back rfl
        exact hkeeps.before

/-- A registry of some manifests. -/
def ofManifests (manifests : List Manifest) : Registry where
  find place := match manifests.find? fun m => m.directory == place with
    | some m => .ok m
    | none => .error (.noManifest "")
  places := manifests.map Manifest.directory
  mem_places place m h := by
    split at h
    · next found hfound =>
      cases h
      obtain rfl : m.directory = place := by simpa using List.find?_some hfound
      exact List.mem_map_of_mem (List.mem_of_find?_eq_some hfound)
    · cases h
  directory_of_find place m h := by
    split at h
    · next found hfound =>
      cases h
      simpa using List.find?_some hfound
    · cases h

/-- Manifests that list each other can all be loaded. -/
theorem load_ofManifests {manifests : List Manifest} (hroot : root ∈ manifests.map Manifest.directory)
    (hlisted : ∀ m ∈ manifests, ∀ place ∈ m.dependencies, place ∈ manifests.map Manifest.directory)
    (hreach : (ofManifests manifests).Reach root place) : ∃ m, (ofManifests manifests).find place = .ok m := by
  have hmem : place ∈ manifests.map Manifest.directory := by
    induction hreach with
    | refl => exact hroot
    | tail _ hdepends _ =>
      obtain ⟨m, hfound, hplace⟩ := hdepends
      simp only [ofManifests] at hfound
      split at hfound
      · next hm =>
        cases hfound
        exact hlisted m (List.mem_of_find?_eq_some hm) _ hplace
      · cases hfound
  obtain ⟨m, hm, rfl⟩ := List.mem_map.1 hmem
  cases hfind : manifests.find? fun m' => m'.directory == m.directory with
  | some m' => exact ⟨m', by simp only [ofManifests, hfind]⟩
  | none => exact absurd (List.find?_eq_none.1 hfind m hm) (by simp)

/-- The directory of a crate of a name. -/
def tier (name : String) : Location := ⟨true, [name]⟩

/-- The manifest of a crate that depends on others. -/
def tierOn (name : String) (others : List String) : Manifest := ⟨tier name, .text name, others.map tier, .null⟩

/-- An application on three crates that depend on each other without a circle, the last one listed twice. -/
def tower : List Manifest :=
  [tierOn "app" ["view", "net", "core", "net"], tierOn "core" [], tierOn "net" ["core"], tierOn "view" ["core", "net"]]

theorem inOrder_correct_tower :
    (∀ place, (ofManifests tower).Reach (tier "app") place → ∃ m, (ofManifests tower).find place = .ok m) ∧
    ∃ manifests, (ofManifests tower).inOrder (tier "app") = .ok manifests ∧
      manifests.map Manifest.directory = [tier "core", tier "net", tier "view", tier "app"] := by
  have hload : ∀ place, (ofManifests tower).Reach (tier "app") place → ∃ m, (ofManifests tower).find place = .ok m :=
    fun _ => load_ofManifests (by decide) (by decide)
  have hcore : (ofManifests tower).Walk [tier "core"] ([] ++ [tierOn "core" []]) := .single rfl .nil
  have hnet : (ofManifests tower).Walk [tier "net"] (_ ++ [tierOn "net" ["core"]]) := .single rfl hcore
  have hview : (ofManifests tower).Walk [tier "view"] (_ ++ [tierOn "view" ["core", "net"]]) :=
    .single rfl (hcore.append hnet)
  have happ : (ofManifests tower).Walk [tier "app"] (_ ++ [tierOn "app" ["view", "net", "core", "net"]]) :=
    .single rfl (((hview.append hnet).append hcore).append hnet)
  obtain ⟨manifests, hok, _, _, _, _, walk, hwalk, horder⟩ := (inOrder_correct hload).2.2 fun _ hreach =>
    happ.acyclic List.mem_cons_self hreach
  refine ⟨hload, manifests, hok, ?_⟩
  rw [horder, hwalk.unique happ]
  decide

end Registry

end CrateHeader
