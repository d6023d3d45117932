import CrateHeader.Primitive

/-!
# Types

The types of fields, parameters and results. A path only names an entity; what it stands for is looked up
in a library. Beside the text of a type stand the operations on the paths inside it: substitution of
generic parameters and replacement from the outside in. `Ty.paths` lists the outer paths, those that are
not themselves arguments of a path, each with whether it stands behind a pointer or inside a function type.
-/

namespace CrateHeader

inductive Ty where
  | primitive (kind : Primitive)
  | path (name : String) (args : List Ty)
  | pointer (target : Ty) (isMut nullable : Bool)
  | array (element : Ty) (length : String)
  | function (params : List (Option String × Ty)) (ret : Ty) (never : Bool)
  deriving Inhabited, Repr

namespace Ty

abbrev void : Ty := .primitive .void

/-! ### Equality -/

mutual
def eqb : Ty → Ty → Bool
  | primitive a, primitive b => a = b
  | path a as, path b bs => a = b && eqbAll as bs
  | pointer a m n, pointer b m' n' => eqb a b && m = m' && n = n'
  | array a l, array b l' => eqb a b && l = l'
  | function ps r n, function ps' r' n' => eqbParams ps ps' && eqb r r' && n = n'
  | _, _ => false

def eqbAll : List Ty → List Ty → Bool
  | [], [] => true
  | a :: as, b :: bs => eqb a b && eqbAll as bs
  | _, _ => false

def eqbParams : List (Option String × Ty) → List (Option String × Ty) → Bool
  | [], [] => true
  | (n, a) :: as, (n', b) :: bs => n = n' && eqb a b && eqbParams as bs
  | _, _ => false
end

mutual
theorem eqb_iff : (a b : Ty) → (eqb a b = true ↔ a = b)
  | primitive a, b => by cases b <;> simp [eqb]
  | path a as, b => by cases b <;> simp [eqb, eqbAll_iff as]
  | pointer a m n, b => by cases b <;> simp [eqb, eqb_iff a, and_assoc]
  | array a l, b => by cases b <;> simp [eqb, eqb_iff a]
  | function ps r n, b => by cases b <;> simp [eqb, eqb_iff r, eqbParams_iff ps, and_assoc]

theorem eqbAll_iff : (as bs : List Ty) → (eqbAll as bs = true ↔ as = bs)
  | [], bs => by cases bs <;> simp [eqbAll]
  | a :: as, bs => by cases bs <;> simp [eqbAll, eqb_iff a, eqbAll_iff as]

theorem eqbParams_iff : (as bs : List (Option String × Ty)) → (eqbParams as bs = true ↔ as = bs)
  | [], bs => by cases bs <;> simp [eqbParams]
  | (n, a) :: as, bs => by
    rcases bs with _ | ⟨⟨n', b⟩, bs⟩ <;> simp [eqbParams, eqb_iff a, eqbParams_iff as, and_assoc]
end

instance : DecidableEq Ty := fun a b => decidable_of_iff _ (eqb_iff a b)

/-! ### Text -/

mutual
/-- A type written out. Parameter names, the never mark and nullability are not written. -/
def text : Ty → String
  | primitive k => k.spelling
  | path name [] => name
  | path name args => name ++ "<" ++ ", ".intercalate (textAll args) ++ ">"
  | pointer target isMut _ => (if isMut then "*mut " else "*const ") ++ target.text
  | array element length => "[" ++ element.text ++ "; " ++ length ++ "]"
  | function params ret _ => "fn(" ++ ", ".intercalate (textParams params) ++ ") -> " ++ ret.text

def textAll : List Ty → List String
  | [] => []
  | t :: rest => t.text :: textAll rest

def textParams : List (Option String × Ty) → List String
  | [] => []
  | (_, t) :: rest => t.text :: textParams rest
end

theorem textAll_eq_map (ts : List Ty) : textAll ts = ts.map text := by
  induction ts with
  | nil => rfl
  | cons t rest ih => simp [textAll, ih]

theorem textParams_eq_map (ps : List (Option String × Ty)) :
    textParams ps = ps.map fun p => p.2.text := by
  induction ps with
  | nil => rfl
  | cons p rest ih => simp [textParams, ih]

/-- A template's name with arguments, as messages show an instance. -/
def instanceText (name : String) (args : List Ty) : String :=
  name ++ "<" ++ ", ".intercalate (textAll args) ++ ">"

/-! ### Depth -/

mutual
/-- How deep a type nests; a type without parts has depth one. -/
def depth : Ty → Nat
  | primitive _ => 1
  | path _ args => 1 + depthAll args
  | pointer target _ _ => 1 + target.depth
  | array element _ => 1 + element.depth
  | function params ret _ => 1 + max (depthParams params) ret.depth

def depthAll : List Ty → Nat
  | [] => 0
  | t :: rest => max t.depth (depthAll rest)

def depthParams : List (Option String × Ty) → Nat
  | [] => 0
  | (_, t) :: rest => max t.depth (depthParams rest)
end

/-! ### Outer paths -/

/-- One outer path of a type. -/
structure Mention where
  name : String
  args : List Ty
  behindPointer : Bool
  deriving DecidableEq, Repr

mutual
def mentions (behind : Bool) : Ty → List Mention
  | primitive _ => []
  | path name args => [⟨name, args, behind⟩]
  | pointer target _ _ => target.mentions true
  | array element _ => element.mentions behind
  | function params ret _ => mentionsParams params ++ ret.mentions true

def mentionsParams : List (Option String × Ty) → List Mention
  | [] => []
  | (_, t) :: rest => t.mentions true ++ mentionsParams rest
end

/-- The outer paths of a type, from left to right. -/
def paths (t : Ty) : List Mention := t.mentions false

/-! ### Substitution -/

/-- Parameters bound to arguments in order; a parameter that repeats takes its last argument. -/
def bindings (params : List String) (args : List Ty) : List (String × Ty) :=
  (params.zip args).reverse

/-- A name finds among mapped values what it finds among the values, mapped. -/
theorem lookup_mapped {α β : Type} (f : α → β) (bound : List (String × α)) (name : String) :
    (bound.map fun b => (b.1, f b.2)).lookup name = (bound.lookup name).map f := by
  induction bound with
  | nil => rfl
  | cons b rest ih =>
    rw [List.map_cons, List.lookup_cons, List.lookup_cons]
    cases name == b.1 with
    | true => rfl
    | false => exact ih

mutual
/-- Every argument-free path that the bindings name is replaced, all at once. A path that has arguments
keeps its name, and its arguments are visited. -/
def substitute (bindings : List (String × Ty)) : Ty → Ty
  | primitive k => primitive k
  | path name [] => (bindings.lookup name).getD (path name [])
  | path name args => path name (substituteAll bindings args)
  | pointer target isMut nullable => pointer (target.substitute bindings) isMut nullable
  | array element length => array (element.substitute bindings) length
  | function params ret never =>
    function (substituteParams bindings params) (ret.substitute bindings) never

def substituteAll (bindings : List (String × Ty)) : List Ty → List Ty
  | [] => []
  | t :: rest => t.substitute bindings :: substituteAll bindings rest

def substituteParams (bindings : List (String × Ty)) :
    List (Option String × Ty) → List (Option String × Ty)
  | [] => []
  | (n, t) :: rest => (n, t.substitute bindings) :: substituteParams bindings rest
end

theorem substituteParams_eq_map (bindings : List (String × Ty)) (ps : List (Option String × Ty)) :
    substituteParams bindings ps = ps.map fun p => (p.1, p.2.substitute bindings) := by
  induction ps with
  | nil => rfl
  | cons p rest ih => simp [substituteParams, ih]

/-! ### Renaming instances -/

mutual
/-- Paths with arguments for which `rename` has a name become that name, outermost first; inside a path
that it does not know, the arguments are visited. -/
def replacePaths (rename : String → List Ty → Option String) : Ty → Ty
  | primitive k => primitive k
  | path name [] => path name []
  | path name args => match rename name args with
    | some instanceName => path instanceName []
    | none => path name (replacePathsAll rename args)
  | pointer target isMut nullable => pointer (target.replacePaths rename) isMut nullable
  | array element length => array (element.replacePaths rename) length
  | function params ret never =>
    function (replacePathsParams rename params) (ret.replacePaths rename) never

def replacePathsAll (rename : String → List Ty → Option String) : List Ty → List Ty
  | [] => []
  | t :: rest => t.replacePaths rename :: replacePathsAll rename rest

def replacePathsParams (rename : String → List Ty → Option String) :
    List (Option String × Ty) → List (Option String × Ty)
  | [] => []
  | (n, t) :: rest => (n, t.replacePaths rename) :: replacePathsParams rename rest
end

end Ty

end CrateHeader
