import CrateHeader.Entity

/-!
# Libraries

A library is a table of entities in the order in which they were added, no two of one name, with the
instances made so far. An instance is an entity of the table as long as it is listed there; when the table
gives it up, the instance keeps the entity as it then was, and asking for it again still finds it.
-/

namespace CrateHeader

structure Instance where
  key : InstanceKey
  /-- The entity as it was made. -/
  made : Entity
  /-- The entity of an instance that the table has given up. -/
  withdrawn : Option Entity
  deriving DecidableEq, Repr

def Instance.name (i : Instance) : String := i.made.name

structure Library where
  entities : List Entity
  instances : List Instance
  /-- Names that an included header provides. -/
  external : List String
  deriving DecidableEq, Repr

namespace Library

def empty (external : List String) : Library := ⟨[], [], external⟩

def get? (lib : Library) (name : String) : Option Entity :=
  lib.entities.find? fun e => e.name == name

def contains (lib : Library) (name : String) : Bool := (lib.get? name).isSome

def names (lib : Library) : List String := lib.entities.map (·.name)

/-- Adds an entity at the end of the table. -/
def push (lib : Library) (e : Entity) : Library := { lib with entities := lib.entities ++ [e] }

/-- The instance at a key keeps the entity that the table gives up. -/
def withdraw (lib : Library) (e : Entity) : Library :=
  { lib with instances := lib.instances.map fun i =>
      if i.name = e.name ∧ i.withdrawn = none then { i with withdrawn := some e } else i }

/-- Takes an entity out of the table. -/
def erase (lib : Library) (e : Entity) : Library :=
  { lib.withdraw e with entities := lib.entities.filter fun x => x.name != e.name }

/-- Takes the entity of a name out of the table, if there is one. -/
def remove? (lib : Library) (name : String) : Option (Entity × Library) :=
  (lib.get? name).map fun e => (e, lib.erase e)

/-- Puts another entity of the same name in the place of one. -/
def replace (lib : Library) (old new : Entity) : Library :=
  { lib.withdraw old with
    entities := lib.entities.map fun x => if x.name = old.name then new else x }

/-- Changes every entity of the table in place, keeping its name. -/
def mapEntities (lib : Library) (f : Entity → Entity) : Library :=
  { lib with entities := lib.entities.map f }

/-- The entity of an instance, in the table or withdrawn from it. -/
def entityOf (lib : Library) (i : Instance) : Entity :=
  i.withdrawn.getD ((lib.get? i.name).getD i.made)

theorem mem_of_get? {lib : Library} {name : String} {e : Entity} (h : lib.get? name = some e) :
    e ∈ lib.entities := List.mem_of_find?_eq_some h

theorem name_of_get? {lib : Library} {name : String} {e : Entity} (h : lib.get? name = some e) :
    e.name = name := by simpa using List.find?_some h

/-- The instance made for a key. -/
def instance? (lib : Library) (key : InstanceKey) : Option Instance :=
  lib.instances.find? fun i => i.key = key

def types (lib : Library) : List Entity := lib.entities.filter Entity.isType

def ofKind (lib : Library) (kind : EntityKind) : List Entity :=
  lib.entities.filter fun e => e.kind = kind

/-- How many entities of each kind there are. -/
def summary (lib : Library) : String :=
  let parts := EntityKind.all.filterMap fun kind =>
    let n := (lib.ofKind kind).length
    if n = 0 then none else some (toString n ++ " " ++ kind.name)
  if parts.isEmpty then "empty" else ", ".intercalate parts

end Library

end CrateHeader
