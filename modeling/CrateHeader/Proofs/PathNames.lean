import CrateHeader.Entity

/-!
# The names in a type

The names of all paths of a type, those inside arguments too. Substitution brings in the names of the arguments
and nothing else.
-/

namespace CrateHeader

namespace Ty

variable {name n : String}

mutual
/-- The names of all paths in a type, those inside arguments too. -/
def pathNames : Ty → List String
  | primitive _ => []
  | path name args => name :: pathNamesAll args
  | pointer target _ _ => target.pathNames
  | array element _ => element.pathNames
  | function params ret _ => pathNamesParams params ++ ret.pathNames

def pathNamesAll : List Ty → List String
  | [] => []
  | t :: rest => t.pathNames ++ pathNamesAll rest

def pathNamesParams : List (Option String × Ty) → List String
  | [] => []
  | (_, t) :: rest => t.pathNames ++ pathNamesParams rest
end

theorem mem_pathNamesAll {ts : List Ty} : n ∈ pathNamesAll ts ↔ ∃ t ∈ ts, n ∈ t.pathNames := by
  induction ts with
  | nil => simp [pathNamesAll]
  | cons t rest ih => simp [pathNamesAll, ih]

mutual
/-- A reference of a type has names of the type only. -/
theorem pathNames_of_mentions (behind : Bool) : (ty : Ty) → ∀ m ∈ ty.mentions behind,
    m.name :: pathNamesAll m.args ⊆ ty.pathNames
  | .primitive _ => by simp [mentions]
  | .path name args => by simp [mentions, pathNames]
  | .pointer target _ _ => pathNames_of_mentions true target
  | .array element _ => pathNames_of_mentions behind element
  | .function params ret _ => by
    intro m hm
    rcases List.mem_append.1 hm with hm | hm
    · exact List.subset_append_of_subset_left _ (pathNames_of_mentionsParams params m hm)
    · exact List.subset_append_of_subset_right _ (pathNames_of_mentions true ret m hm)

theorem pathNames_of_mentionsParams : (params : List (Option String × Ty)) → ∀ m ∈ mentionsParams params,
    m.name :: pathNamesAll m.args ⊆ pathNamesParams params
  | [] => by simp [mentionsParams]
  | (_, ty) :: rest => by
    intro m hm
    rcases List.mem_append.1 hm with hm | hm
    · exact List.subset_append_of_subset_left _ (pathNames_of_mentions true ty m hm)
    · exact List.subset_append_of_subset_right _ (pathNames_of_mentionsParams rest m hm)
end

theorem mem_of_lookup_bindings {params : List String} {args : List Ty} {t : Ty}
    (h : (bindings params args).lookup name = some t) : t ∈ args := by
  obtain ⟨front, back, hsplit, _⟩ := List.lookup_eq_some_iff.1 h
  have hmem : (name, t) ∈ bindings params args := by simp [hsplit]
  exact (List.of_mem_zip (List.mem_reverse.1 hmem)).2

section Substitution

variable {params : List String} {args : List Ty}

mutual
/-- The names that a type has after substitution it had before, or an argument has them. -/
theorem pathNames_substitute (hn : n ∉ pathNamesAll args) : (ty : Ty) →
    n ∈ (ty.substitute (bindings params args)).pathNames → n ∈ ty.pathNames
  | .primitive _ => id
  | .path name [] => by
    intro h
    rw [substitute] at h
    cases hlookup : (bindings params args).lookup name with
    | none => rwa [hlookup] at h
    | some t =>
      rw [hlookup] at h
      exact absurd (mem_pathNamesAll.2 ⟨t, mem_of_lookup_bindings hlookup, h⟩) hn
  | .path name (first :: rest) => by
    intro h
    rcases List.mem_cons.1 h with rfl | h
    · exact List.mem_cons_self
    · exact List.mem_cons_of_mem _ (pathNames_substituteAll hn (first :: rest) h)
  | .pointer target _ _ => pathNames_substitute hn target
  | .array element _ => pathNames_substitute hn element
  | .function ps ret _ => by
    intro h
    rcases List.mem_append.1 h with h | h
    · exact List.mem_append_left _ (pathNames_substituteParams hn ps h)
    · exact List.mem_append_right _ (pathNames_substitute hn ret h)

theorem pathNames_substituteAll (hn : n ∉ pathNamesAll args) : (ts : List Ty) →
    n ∈ pathNamesAll (substituteAll (bindings params args) ts) → n ∈ pathNamesAll ts
  | [] => id
  | t :: rest => by
    intro h
    rcases List.mem_append.1 h with h | h
    · exact List.mem_append_left _ (pathNames_substitute hn t h)
    · exact List.mem_append_right _ (pathNames_substituteAll hn rest h)

theorem pathNames_substituteParams (hn : n ∉ pathNamesAll args) : (ps : List (Option String × Ty)) →
    n ∈ pathNamesParams (substituteParams (bindings params args) ps) → n ∈ pathNamesParams ps
  | [] => id
  | (_, t) :: rest => by
    intro h
    rcases List.mem_append.1 h with h | h
    · exact List.mem_append_left _ (pathNames_substitute hn t h)
    · exact List.mem_append_right _ (pathNames_substituteParams hn rest h)
end

end Substitution

end Ty

/-- The names of all paths in the types of an entity. -/
def Entity.pathNames (e : Entity) : List String := e.body.types.flatMap Ty.pathNames

theorem Entity.pathNames_of_mentions {e : Entity} {m : Ty.Mention} (hm : m ∈ e.mentions) :
    m.name :: Ty.pathNamesAll m.args ⊆ e.pathNames := by
  obtain ⟨ty, hty, hm⟩ := List.mem_flatMap.1 hm
  intro n hn
  exact List.mem_flatMap.2 ⟨ty, hty, Ty.pathNames_of_mentions false ty m hm hn⟩

end CrateHeader
