import CrateHeader.Header
import CrateHeader.Pipeline
import CrateHeader.Proofs.Ordering
import CrateHeader.Proofs.Renumbering
import Mathlib.Order.Monotone.Basic

/-!
# Places count by their order alone

Declaration order compares places and looks at nothing else of them. So where entities are given other places
that compare in the same way, they are ordered, checked and written as before, and a header has no trace of
the places.
-/

namespace CrateHeader

variable {move : Nat → Nat}

/-! ### Order -/

theorem Entity.renumber_before (hmove : StrictMono move) (a b : Entity) :
    (a.renumber move).before (b.renumber move) = a.before b := by
  have hlt : decide (move a.index < move b.index) = decide (a.index < b.index) :=
    decide_eq_decide.2 hmove.lt_iff_lt
  have heq : (move a.index == move b.index) = (a.index == b.index) := by
    rw [Bool.eq_iff_iff, beq_iff_eq, beq_iff_eq, hmove.injective.eq_iff]
  show (decide (move a.index < move b.index) || (move a.index == move b.index && _)) = _
  rw [hlt, heq]
  rfl

def Event.renumber (move : Nat → Nat) (e : Event) : Event := ⟨e.kind, e.entity.renumber move⟩

namespace DependencyGraph

def renumber (move : Nat → Nat) (g : DependencyGraph) : DependencyGraph :=
  ⟨g.library.renumber move, g.nodes.map (Entity.renumber move), g.edges⟩

theorem renumber_edgesOf (lib : Library) (e : Entity) :
    edgesOf (lib.renumber move) (e.renumber move) = edgesOf lib e := by
  unfold edgesOf
  congr 2
  funext m
  rw [Library.renumber_get?]
  cases lib.get? m.name <;> rfl

theorem renumber_ofLibrary (hmove : StrictMono move) (lib : Library) :
    ofLibrary (lib.renumber move) = (ofLibrary lib).renumber move := by
  have htypes : (lib.renumber move).types.filter (fun e => !e.isGeneric) =
      (lib.types.filter fun e => !e.isGeneric).map (Entity.renumber move) := by
    rw [Library.types, Library.renumber_filter lib fun _ => rfl, List.filter_map]
    rfl
  unfold ofLibrary renumber
  dsimp only
  rw [htypes, ← map_sortBy (Entity.renumber_before hmove), List.flatMap_map]
  simp only [renumber_edgesOf]

variable (g : DependencyGraph)

theorem renumber_names : (g.renumber move).names = g.names := by
  simp [names, renumber, Function.comp_def]

theorem renumber_plan : (g.renumber move).plan = g.plan := plan_congr g.renumber_names rfl

theorem renumber_forwardEvents (forward declared names : List String) :
    (g.renumber move).forwardEvents forward declared names =
      (g.forwardEvents forward declared names).map (Event.renumber move) := by
  unfold forwardEvents
  rw [List.map_filterMap]
  congr 1
  funext name
  rw [renumber, Library.renumber_get?]
  cases g.library.get? name <;> rfl

theorem renumber_eventsOf (forward declared : List String) (e : Entity) :
    (g.renumber move).eventsOf forward declared (e.renumber move) =
      (g.eventsOf forward declared e).map (Event.renumber move) := by
  unfold eventsOf
  rw [renumber_forwardEvents, Entity.renumber_kind, Entity.renumber_name]
  split
  · split <;> rfl
  · rw [List.map_append]
    rfl

theorem renumber_declaredBy (events : List Event) :
    declaredBy (events.map (Event.renumber move)) = declaredBy events := by
  rw [declaredBy, List.filterMap_map]
  rfl

theorem renumber_orderTypes (hmove : StrictMono move) (forward : List String) :
    (g.renumber move).orderTypes forward = (g.orderTypes forward).map (List.map (Event.renumber move)) :=
  orderTypes_map Entity.renumber_name (Entity.renumber_before hmove) rfl (fun _ => rfl)
    (g.renumber_eventsOf forward) renumber_declaredBy

end DependencyGraph

namespace Library

variable (lib : Library)

theorem renumber_ofKind (kind : EntityKind) :
    (lib.renumber move).ofKind kind = (lib.ofKind kind).map (Entity.renumber move) :=
  renumber_filter lib fun _ => rfl

theorem renumber_constantEvents (hmove : StrictMono move) :
    (lib.renumber move).constantEvents = lib.constantEvents.map (Event.renumber move) := by
  unfold constantEvents
  rw [renumber_ofKind, ← map_sortBy (Entity.renumber_before hmove), List.map_map, List.map_map]
  rfl

theorem renumber_valueEvents (hmove : StrictMono move) :
    (lib.renumber move).valueEvents = lib.valueEvents.map (Event.renumber move) := by
  unfold valueEvents
  rw [renumber_ofKind, renumber_ofKind, ← List.map_append, ← map_sortBy (Entity.renumber_before hmove),
    List.map_map, List.map_map]
  rfl

theorem renumber_order (hmove : StrictMono move) :
    (lib.renumber move).order.result = lib.order.result.map (List.map (Event.renumber move)) := by
  rw [order_result, order_result, DependencyGraph.renumber_ofLibrary hmove, DependencyGraph.renumber_plan]
  cases (DependencyGraph.ofLibrary lib).plan.result with
  | error error => rfl
  | ok forward =>
    simp only [Except.bind, DependencyGraph.renumber_orderTypes _ hmove, renumber_constantEvents _ hmove,
      renumber_valueEvents _ hmove]
    cases (DependencyGraph.ofLibrary lib).orderTypes forward with
    | error error => rfl
    | ok types => simp [Except.map]

end Library

/-! ### Streams -/

def Stream.renumber (move : Nat → Nat) (s : Stream) : Stream :=
  ⟨s.library.renumber move, s.events.map (Event.renumber move)⟩

theorem Stream.map_firstByName (seen : List String) (es : List Entity) :
    (firstByName seen es).map (Entity.renumber move) = firstByName seen (es.map (Entity.renumber move)) := by
  induction es generalizing seen with
  | nil => rfl
  | cons e rest ih =>
    rw [firstByName, List.map_cons, firstByName]
    by_cases hseen : seen.contains e.name = true
    · have hseen' : seen.contains (e.renumber move).name = true := hseen
      rw [if_pos hseen, if_pos hseen', ih]
    · have hseen' : ¬ seen.contains (e.renumber move).name = true := hseen
      rw [if_neg hseen, if_neg hseen', List.map_cons, ih]
      rfl

theorem Stream.renumber_entities (s : Stream) :
    (s.renumber move).entities = s.entities.map (Entity.renumber move) := by
  rw [entities, entities, map_firstByName, renumber, List.map_map, List.map_map]
  rfl

namespace Library

variable (lib : Library)

theorem renumber_checkMention (user : Entity) (m : Ty.Mention) :
    (lib.renumber move).checkMention (user.renumber move) m = lib.checkMention user m := by
  unfold checkMention
  rw [renumber_get?]
  cases lib.get? m.name <;> rfl

theorem renumber_checkMentions (reported : List String) (pairs : List (Entity × Ty.Mention)) :
    (lib.renumber move).checkMentions reported (pairs.map fun p => (p.1.renumber move, p.2)) =
      lib.checkMentions reported pairs := by
  induction pairs generalizing reported with
  | nil => rfl
  | cons p rest ih => simp only [checkMentions, List.map_cons, renumber_checkMention, ih]

theorem renumber_checkNames (owners : List (String × String)) (es : List Entity) :
    checkNames owners (es.map (Entity.renumber move)) = checkNames owners es := by
  induction es generalizing owners with
  | nil => rfl
  | cons e rest ih =>
    have hgenerated : (e.renumber move).generatedNames = e.generatedNames := rfl
    simp only [checkNames, List.map_cons, hgenerated, Entity.renumber_exportName, Entity.renumber_name, ih]

theorem renumber_stream (events : List Event) :
    ((lib.renumber move).stream (events.map (Event.renumber move))).result =
      (lib.stream events).result.map (Stream.renumber move) := by
  have hentities : (⟨lib.renumber move, events.map (Event.renumber move)⟩ : Stream).entities =
      (⟨lib, events⟩ : Stream).entities.map (Entity.renumber move) := Stream.renumber_entities ⟨lib, events⟩
  have hpairs : ((⟨lib, events⟩ : Stream).entities.map (Entity.renumber move)).flatMap
      (fun e => e.mentions.map fun m => (e, m)) =
        ((⟨lib, events⟩ : Stream).entities.flatMap fun e => e.mentions.map fun m => (e, m)).map
          fun p => (p.1.renumber move, p.2) := by
    simp [List.flatMap_map, List.map_flatMap, Function.comp_def]
  unfold stream
  dsimp only
  rw [hentities, hpairs, renumber_checkMentions, renumber_checkNames]
  simp only [Logged.bind_result, Logged.ofExcept_result, Logged.note_result]
  cases (lib.checkMentions [] ((⟨lib, events⟩ : Stream).entities.flatMap fun e =>
      e.mentions.map fun m => (e, m))).result with
  | error error => rfl
  | ok _ =>
    dsimp only [Except.bind]
    cases checkNames [] (⟨lib, events⟩ : Stream).entities <;> rfl

end Library

/-! ### Headers -/

namespace Header

variable (settings : Settings) (lib : Library)

theorem renumber_nameOf : nameOf (lib.renumber move) = nameOf lib := by
  funext name
  simp [nameOf, Function.comp_def]

theorem renumber_declare : declare (lib.renumber move) = declare lib := by
  funext ty ident
  rw [declare, declare, renumber_nameOf]

theorem renumber_fieldLines : fieldLines settings (lib.renumber move) = fieldLines settings lib := by
  funext f
  rw [fieldLines, fieldLines, renumber_declare]

theorem renumber_defineType (declared : List String) (e : Entity) :
    defineType settings (lib.renumber move) declared (e.renumber move) = defineType settings lib declared e := by
  unfold defineType taggedEnum
  rw [renumber_fieldLines, renumber_declare]
  rfl

theorem renumber_typeBlocks (declared : List String) (events : List Event) :
    typeBlocks settings (lib.renumber move) declared (events.map (Event.renumber move)) =
      typeBlocks settings lib declared events := by
  induction events generalizing declared with
  | nil => rfl
  | cons e rest ih =>
    obtain ⟨kind, e⟩ := e
    cases kind with
    | forwardDeclare => exact congrArg (forwardDeclare settings e :: ·) (ih (e.exportName :: declared))
    | defineType => exact List.cons_eq_cons.2 ⟨renumber_defineType settings lib declared e, ih declared⟩
    | declareConstant => exact ih declared
    | declareStatic => exact ih declared
    | declareFunction => exact ih declared

theorem renumber_valueLines (e : Entity) :
    valueLines settings (lib.renumber move) (e.renumber move) = valueLines settings lib e := by
  unfold valueLines functionLines
  rw [renumber_nameOf]
  rfl

theorem renumber_blocksOf (s : Stream) (kinds : List EventKind) :
    blocksOf settings (s.renumber move) kinds = blocksOf settings s kinds := by
  rw [blocksOf, Stream.renumber, List.filter_map, List.map_map]
  exact List.map_congr_left fun e _ => renumber_valueLines settings s.library e.entity

theorem renumber_text (s : Stream) : text settings (s.renumber move) = text settings s := by
  have hblocks : typeBlocks settings (s.renumber move).library [] (s.renumber move).events =
      typeBlocks settings s.library [] s.events := renumber_typeBlocks settings s.library [] s.events
  rw [text, text, lines, lines, hblocks, renumber_blocksOf, renumber_blocksOf]

theorem renumber_misuse? (s : Stream) : misuse? settings (s.renumber move) = misuse? settings s := by
  have hnotes : notes (s.renumber move) = notes s := by
    rw [notes, Stream.renumber, List.filterMap_map]
    rfl
  unfold misuse? usesNote usesPlainMark
  rw [hnotes]

theorem renumber_write (s : Stream) : write settings (s.renumber move) = write settings s := by
  rw [write, write, renumber_misuse?, renumber_text]

end Header

/-! ### The stages from specialization on -/

namespace Pipeline

/-- What becomes of a library once it is pruned. -/
def finish (settings : Settings) (pruned : Library) : Logged PipelineError String := do
  let specialized ← specialize settings pruned
  let renamed ← rename settings specialized
  let events ← order renamed
  let s ← emit renamed events
  write settings s

theorem run_write_eq (settings : Settings) (ds : List Declaration) : (run settings ds >>= write settings) =
    build settings ds >>= fun built => prune settings built >>= finish settings := by
  simp only [run, bind_assoc]
  rfl

theorem mapError_map {ε ε' α β : Type} (f : ε → ε') (g : α → β) (x : Except ε α) :
    (x.map g).mapError f = (x.mapError f).map g := by
  cases x <;> rfl

theorem renumber_specialize (settings : Settings) (move : Nat → Nat) (lib : Library) :
    (specialize settings (lib.renumber move)).result =
      (specialize settings lib).result.map (Library.renumber move) := by
  have hshop := Workshop.renumber_specialize (⟨lib, 1, []⟩ : Workshop) move
    ⟨settings.specialization.maxDepth, settings.specialization.dropUnderscores⟩ settings.surface.included
    settings.surface.excluded
  unfold specialize
  dsimp only
  rw [show (⟨lib.renumber move, 1, []⟩ : Workshop) = Workshop.renumber move ⟨lib, 1, []⟩ from rfl, hshop]
  generalize Workshop.specialize _ _ _ (⟨lib, 1, []⟩ : Workshop) = made
  obtain ⟨workshop, result⟩ := made
  cases result <;> rfl

/-- A header has no trace of the places: where they compare in the same way, the result is the same. -/
theorem renumber_finish (settings : Settings) {move : Nat → Nat} (hmove : StrictMono move) (lib : Library) :
    (finish settings (lib.renumber move)).result = (finish settings lib).result := by
  have horder : ∀ lib : Library, (order (lib.renumber move)).result =
      (order lib).result.map (List.map (Event.renumber move)) := by
    intro lib
    simp only [order, inStage, Library.renumber_order _ hmove, mapError_map]
  have hemit : ∀ (lib : Library) (events : List Event),
      (emit (lib.renumber move) (events.map (Event.renumber move))).result =
        (emit lib events).result.map (Stream.renumber move) := by
    intro lib events
    simp only [emit, inStage, Library.renumber_stream, mapError_map]
  have hwrite : ∀ s : Stream, write settings (s.renumber move) = write settings s := by
    intro s
    rw [write, write, Header.renumber_write]
  simp only [finish, Logged.bind_result, renumber_specialize]
  cases (specialize settings lib).result with
  | error error => rfl
  | ok specialized =>
    have hrename : (rename settings (specialized.renumber move)).result =
        .ok ((specialized.assignNames settings).renumber move) :=
      congrArg Except.ok (specialized.renumber_assignNames settings)
    have hrename' : (rename settings specialized).result = .ok (specialized.assignNames settings) := rfl
    simp only [Except.map, Except.bind, hrename, hrename', horder]
    cases (order (specialized.assignNames settings)).result with
    | error error => rfl
    | ok events =>
      simp only [hemit]
      cases (emit (specialized.assignNames settings) events).result with
      | error error => rfl
      | ok s => exact congrArg Logged.result (hwrite s)

end Pipeline

end CrateHeader
