import CrateHeader.Cfg

/-!
# Evaluating predicates

An environment gives values to some flags and keys. What it does not mention is unknown, and an unknown leaf
is false. A conjunction is read up to its first false part and a disjunction up to its first true one, so
`unknowns`, the unknown leaves in the order in which they are met, leaves out what is never read.
-/

namespace CrateHeader

structure Environment where
  flags : List (String × Bool)
  values : List (String × List String)

namespace Environment

/-- Features are the values of the key `feature`, and stand in place of any given under that key. -/
def ofSettings (flags : List (String × Bool)) (features : Option (List String))
    (values : List (String × List String)) : Environment :=
  ⟨flags, (features.map fun fs => [("feature", fs)]).getD [] ++ values⟩

def lookup? (env : Environment) : Cfg → Option Bool
  | .flag name => env.flags.lookup name
  | .value key value => (env.values.lookup key).map (·.contains value)
  | _ => none

end Environment

namespace Cfg

mutual
def holds (env : Environment) : Cfg → Bool
  | all items => holdsAll env items
  | any items => holdsAny env items
  | not item => !item.holds env
  | flag name => (env.lookup? (flag name)).getD false
  | value key v => (env.lookup? (value key v)).getD false

def holdsAll (env : Environment) : List Cfg → Bool
  | [] => true
  | c :: rest => c.holds env && holdsAll env rest

def holdsAny (env : Environment) : List Cfg → Bool
  | [] => false
  | c :: rest => c.holds env || holdsAny env rest
end

theorem holdsAll_eq_all (env : Environment) (cs : List Cfg) :
    holdsAll env cs = cs.all (holds env) := by
  induction cs with
  | nil => rfl
  | cons c rest ih => simp [holdsAll, ih]

mutual
def unknowns (env : Environment) : Cfg → List Cfg
  | all items => unknownsAll env items
  | any items => unknownsAny env items
  | not item => item.unknowns env
  | flag name => if (env.lookup? (flag name)).isNone then [flag name] else []
  | value key v => if (env.lookup? (value key v)).isNone then [value key v] else []

def unknownsAll (env : Environment) : List Cfg → List Cfg
  | [] => []
  | c :: rest => c.unknowns env ++ if c.holds env then unknownsAll env rest else []

def unknownsAny (env : Environment) : List Cfg → List Cfg
  | [] => []
  | c :: rest => c.unknowns env ++ if c.holds env then [] else unknownsAny env rest
end

/-- A missing predicate always holds. -/
def allows (env : Environment) (cfg : Option Cfg) : Bool := (cfg.map (holds env)).getD true

def unknownsIn (env : Environment) (cfg : Option Cfg) : List Cfg :=
  (cfg.map (unknowns env)).getD []

end Cfg

end CrateHeader
