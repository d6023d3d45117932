import CrateHeader.Dependency.Order

/-!
# Emission streams

An ordered list of events with the library it speaks of. Making one is the last place where a mention can
fail: it has to name a type of the library, one that is complete where it is used by value, or a type that an
included header provides; and no two entities may have a name of C in common.
-/

namespace CrateHeader

inductive EmissionError where
  | unresolved (entity : String) (mention : Ty.Mention)
  | notType (entity : String) (kind : EntityKind) (target : String)
  | opaqueByValue (entity target : String)
  | sameExportName (entity name first : String)
  deriving DecidableEq, Repr

structure Stream where
  library : Library
  events : List Event

namespace Stream

/-- Entities by name, each where it occurs first. -/
def firstByName (seen : List String) : List Entity → List Entity
  | [] => []
  | e :: rest =>
    if seen.contains e.name then firstByName seen rest
    else e :: firstByName (e.name :: seen) rest

/-- Each entity of the stream once. -/
def entities (s : Stream) : List Entity := firstByName [] (s.events.map (·.entity))

def ofKind (s : Stream) (kind : EventKind) : List Event := s.events.filter fun e => e.kind = kind

/-- Is a mention in an entity of a type that is not available yet, and of which one? -/
def missing? (lib : Library) (declared defined : List String) (user : Entity) (m : Ty.Mention) :
    Option String :=
  match lib.get? m.name with
  | none => none
  | some target =>
    if !target.isType || target.name == user.name || defined.contains target.name ||
        (m.behindPointer && declared.contains target.name) then none
    else some target.name

def outstandingAfter (lib : Library) (declared defined : List String) :
    List Event → List (String × String)
  | [] => []
  | e :: rest =>
    if e.kind = .forwardDeclare then outstandingAfter lib (e.entity.name :: declared) defined rest
    else
      let here := (e.entity.mentions.filterMap (missing? lib declared defined e.entity)).map fun target =>
        (e.entity.name, target)
      here ++ if e.kind = .defineType then
          outstandingAfter lib (e.entity.name :: declared) (e.entity.name :: defined) rest
        else outstandingAfter lib declared defined rest

/-- Types mentioned before they are available, each with its user. -/
def outstanding (s : Stream) : List (String × String) := outstandingAfter s.library [] [] s.events

end Stream

namespace Library

/-- What a mention in an entity may be: a type of the library, or the name of an external one. -/
def checkMention (lib : Library) (user : Entity) (m : Ty.Mention) :
    Except EmissionError (Option String) :=
  match lib.get? m.name with
  | none =>
    if lib.external.contains m.name then .ok (some m.name) else .error (.unresolved user.name m)
  | some target =>
    if !target.isType then .error (.notType user.name target.kind target.name)
    else if target.kind = .opaqueType ∧ !m.behindPointer then
      .error (.opaqueByValue user.name target.name)
    else .ok none

/-- Checks mentions in order; an external type is reported where it is met first. -/
def checkMentions (lib : Library) (reported : List String) :
    List (Entity × Ty.Mention) → Logged EmissionError Unit
  | [] => pure ()
  | (user, m) :: rest => do
    match ← Logged.ofExcept (lib.checkMention user m) with
    | some name =>
      if reported.contains name then checkMentions lib reported rest
      else do
        Logged.note (Log.warning (name ++ " is expected to come from an included header"))
        checkMentions lib (name :: reported) rest
    | none => checkMentions lib reported rest

/-- The first of some names that is already taken, with its owner. -/
def takenName? (owners : List (String × String)) (names : List String) : Option (String × String) :=
  names.findSome? fun name => (owners.lookup name).map fun first => (name, first)

/-- No two entities may have a name in common; within one entity a name may repeat. -/
def checkNames (owners : List (String × String)) : List Entity → Except EmissionError Unit
  | [] => .ok ()
  | e :: rest =>
    let names := e.exportName :: e.generatedNames
    match takenName? owners names with
    | some (name, first) => .error (.sameExportName e.name name first)
    | none => checkNames (owners ++ names.map fun name => (name, e.name)) rest

/-- The stream of an ordered list of events. -/
def stream (lib : Library) (events : List Event) : Logged EmissionError Stream := do
  let s : Stream := ⟨lib, events⟩
  let entities := s.entities
  checkMentions lib [] (entities.flatMap fun e => e.mentions.map fun m => (e, m))
  Logged.ofExcept (checkNames [] entities)
  Logged.note (Log.info ("Emission stream ready: " ++ toString events.length ++ " events"))
  pure s

end Library

end CrateHeader
