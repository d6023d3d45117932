/-!
# Conditional-compilation predicates

A predicate is a tree over two kinds of leaves: a bare flag, and a key with a value. `join` puts the
predicates of one item, or of an item and what encloses it, together as one.
-/

namespace CrateHeader

inductive Cfg where
  | flag (name : String)
  | value (key value : String)
  | all (items : List Cfg)
  | any (items : List Cfg)
  | not (item : Cfg)
  deriving Inhabited, Repr

namespace Cfg

mutual
def eqb : Cfg → Cfg → Bool
  | flag a, flag b => a = b
  | value k v, value k' v' => k = k' && v = v'
  | all as, all bs => eqbAll as bs
  | any as, any bs => eqbAll as bs
  | not a, not b => eqb a b
  | _, _ => false

def eqbAll : List Cfg → List Cfg → Bool
  | [], [] => true
  | a :: as, b :: bs => eqb a b && eqbAll as bs
  | _, _ => false
end

mutual
theorem eqb_iff : (a b : Cfg) → (eqb a b = true ↔ a = b)
  | flag a, b => by cases b <;> simp [eqb]
  | value k v, b => by cases b <;> simp [eqb]
  | all as, b => by cases b <;> simp [eqb, eqbAll_iff as]
  | any as, b => by cases b <;> simp [eqb, eqbAll_iff as]
  | not a, b => by cases b <;> simp [eqb, eqb_iff a]

theorem eqbAll_iff : (as bs : List Cfg) → (eqbAll as bs = true ↔ as = bs)
  | [], bs => by cases bs <;> simp [eqbAll]
  | a :: as, bs => by cases bs <;> simp [eqbAll, eqb_iff a, eqbAll_iff as]
end

instance : DecidableEq Cfg := fun a b => decidable_of_iff _ (eqb_iff a b)

mutual
def text : Cfg → String
  | flag name => name
  | value key v => key ++ " = \"" ++ v ++ "\""
  | all items => "all(" ++ ", ".intercalate (textAll items) ++ ")"
  | any items => "any(" ++ ", ".intercalate (textAll items) ++ ")"
  | not item => "not(" ++ item.text ++ ")"

def textAll : List Cfg → List String
  | [] => []
  | c :: rest => c.text :: textAll rest
end

mutual
/-- The flags and key-value pairs of a predicate, from left to right. -/
def leaves : Cfg → List Cfg
  | flag name => [flag name]
  | value key v => [value key v]
  | all items => leavesAll items
  | any items => leavesAll items
  | not item => item.leaves

def leavesAll : List Cfg → List Cfg
  | [] => []
  | c :: rest => c.leaves ++ leavesAll rest
end

/-- The conjuncts that a predicate contributes to a conjunction. -/
def conjuncts : Cfg → List Cfg
  | all items => items
  | c => [c]

/-- Adds at the end those of the predicates that are not there yet. -/
def addNew (items : List Cfg) : List Cfg → List Cfg
  | [] => items
  | c :: rest => addNew (if c ∈ items then items else items ++ [c]) rest

/-- The conjunction of some predicates, each conjunct once; one conjunct stands for itself, and without
any there is no predicate. -/
def join (cfgs : List (Option Cfg)) : Option Cfg :=
  match cfgs.foldl (fun items c => addNew items ((c.map conjuncts).getD [])) [] with
  | [] => none
  | [c] => some c
  | items => some (all items)

end Cfg

end CrateHeader
