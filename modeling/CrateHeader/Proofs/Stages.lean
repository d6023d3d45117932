import CrateHeader.Pipeline
import CrateHeader.Proofs.Ordering
import CrateHeader.Proofs.Specializing

/-!
# From stage to stage

What each stage leaves for the next one. Building and pruning leave a table in which no instance has been
made, specialization one without templates, and naming changes nothing that an order depends on. A run that
succeeds has been through all of them; `Pipeline.run_ok` says once what is known of its stream.
-/

namespace CrateHeader

namespace Library

variable {lib lib' : Library} {e : Entity} {name : String}

/-- A table in which no instance has been made. -/
structure IsFresh (lib : Library) : Prop where
  table : lib.IsTable
  unused : lib.instances = []

/-! ### Building -/

theorem isFresh_add {b : Builder} (d : Declaration) (h : b.library.IsFresh) :
    (b.add d).1.library.IsFresh := by
  unfold Builder.add
  split
  · split
    · exact h
    · exact h
  · dsimp only
    split
    · exact h
    · next entity hconverted =>
      split
      · exact h
      · next hfree =>
        have hname : entity.name = d.ident := by
          unfold Declaration.convert at hconverted
          obtain ⟨_, _, hconverted⟩ := Logged.bind_ok hconverted
          obtain ⟨_, _, hconverted⟩ := Logged.bind_ok hconverted
          obtain ⟨_, _, hconverted⟩ := Logged.bind_ok hconverted
          cases hconverted
          rfl
        refine ⟨isTable_push h.table ?_, h.unused⟩
        rw [hname]
        simpa using hfree

theorem isFresh_addAll {b : Builder} (ds : List Declaration) (h : b.library.IsFresh) :
    (b.addAll ds).1.library.IsFresh := by
  induction ds generalizing b with
  | nil => exact h
  | cons d rest ih =>
    have hadd := isFresh_add d h
    unfold Builder.addAll
    dsimp only
    split
    · exact hadd
    · exact ih hadd

/-- What is built is a table without instances. -/
theorem isFresh_build {external : List String} {ds : List Declaration}
    (h : (build external ds).result = .ok lib) : lib.IsFresh := by
  unfold build at h
  dsimp only at h
  obtain ⟨_, _, h⟩ := Logged.bind_ok h
  obtain ⟨_, _, h⟩ := Logged.bind_ok h
  cases h
  exact isFresh_addAll ds ⟨isTable_empty external, rfl⟩

/-! ### Pruning -/

theorem isFresh_erase (h : lib.IsFresh) : (lib.erase e).IsFresh :=
  ⟨isTable_erase h.table, by simp [erase, withdraw, h.unused]⟩

theorem isFresh_mapEntities {f : Entity → Entity} (hf : ∀ e, (f e).name = e.name) (h : lib.IsFresh) :
    (lib.mapEntities f).IsFresh := by
  refine ⟨?_, h.unused⟩
  unfold IsTable
  rw [names_mapEntities hf]
  exact h.table

theorem isTable_replace {old new : Entity} (hname : new.name = old.name) (h : lib.IsTable) :
    (lib.replace old new).IsTable := by
  unfold IsTable
  rw [names_replace hname]
  exact h

theorem isFresh_replace {old new : Entity} (hname : new.name = old.name) (h : lib.IsFresh) :
    (lib.replace old new).IsFresh :=
  ⟨isTable_replace hname h.table, by simp [replace, withdraw, h.unused]⟩

theorem isTable_addStub (h : lib.IsTable) : (lib.addStub e).IsTable := by
  unfold addStub
  split
  · exact h
  · next hfree => exact isTable_push h (by simpa [Entity.stub, Entity.asOpaque] using hfree)

theorem isFresh_addStub (h : lib.IsFresh) : (lib.addStub e).IsFresh := by
  refine ⟨isTable_addStub h.table, ?_⟩
  unfold addStub
  split
  · exact h.unused
  · exact h.unused

/-- Pruning leaves a table without instances. -/
theorem isFresh_prune (env : Environment) (marks : List String) (h : lib.IsFresh) :
    (lib.prune env marks).library.IsFresh := by
  unfold prune
  dsimp only
  refine List.foldlRecOn _ _ ?_ fun _ hlib _ _ => isFresh_addStub hlib
  unfold markOpaque
  refine List.foldlRecOn _ _ ?_ fun _ hlib _ _ => isFresh_replace rfl hlib
  unfold pruneEntities
  refine isFresh_mapEntities (fun _ => rfl) ?_
  exact List.foldlRecOn _ _ h fun _ hlib _ _ => isFresh_erase hlib

/-! ### Naming -/

theorem isTable_assignNames {settings : Settings} (h : lib.IsTable) :
    (lib.assignNames settings).IsTable := by
  have hnames : (lib.assignNames settings).names = lib.names := names_mapEntities fun _ => rfl
  unfold IsTable
  rw [hnames]
  exact h

theorem isGeneric_assignNames {settings : Settings} (h : ∀ e ∈ lib.entities, e.isGeneric = false) :
    ∀ e ∈ (lib.assignNames settings).entities, e.isGeneric = false := by
  intro e he
  obtain ⟨x, hx, rfl⟩ := List.mem_map.1 he
  exact h x hx

/-! ### Checking -/

theorem checkMentions_ok {pairs : List (Entity × Ty.Mention)} {reported : List String}
    (h : (lib.checkMentions reported pairs).result = .ok ()) :
    ∀ p ∈ pairs, ∃ external, lib.checkMention p.1 p.2 = .ok external := by
  induction pairs generalizing reported with
  | nil => simp
  | cons p rest ih =>
    unfold checkMentions at h
    obtain ⟨found, hfound, h⟩ := Logged.bind_ok h
    have hrest : ∀ q ∈ rest, ∃ external, lib.checkMention q.1 q.2 = .ok external := by
      cases found with
      | none => exact ih h
      | some name =>
        dsimp only at h
        split at h
        · exact ih h
        · obtain ⟨_, _, h⟩ := Logged.bind_ok h
          exact ih h
    intro q hq
    rcases List.mem_cons.1 hq with rfl | hq
    · exact ⟨found, hfound⟩
    · exact hrest q hq

theorem stream_ok {events : List Event} {s : Stream} (h : (lib.stream events).result = .ok s) :
    s = ⟨lib, events⟩ ∧ checkNames [] s.entities = .ok () ∧
      ∀ e ∈ s.entities, ∀ m ∈ e.mentions, ∃ external, lib.checkMention e m = .ok external := by
  unfold stream at h
  obtain ⟨_, hmentions, h⟩ := Logged.bind_ok h
  obtain ⟨_, hnames, h⟩ := Logged.bind_ok h
  obtain ⟨_, _, h⟩ := Logged.bind_ok h
  cases h
  refine ⟨rfl, hnames, fun e he m hm => ?_⟩
  exact checkMentions_ok hmentions (e, m) (List.mem_flatMap.2 ⟨e, he, List.mem_map.2 ⟨m, hm, rfl⟩⟩)

/-- What a mention that passes the check names. -/
theorem checkMention_ok {user : Entity} {m : Ty.Mention} {external : Option String}
    (h : lib.checkMention user m = .ok external) :
    (lib.get? m.name = none ∧ m.name ∈ lib.external) ∨
      ∃ t, lib.get? m.name = some t ∧ t.isType = true ∧ (t.kind = .opaqueType → m.behindPointer = true) := by
  unfold checkMention at h
  split at h
  · next hnone =>
    split at h
    · next hexternal => exact Or.inl ⟨hnone, by simpa using hexternal⟩
    · cases h
  · next t ht =>
    split at h
    · cases h
    · next htype =>
      split at h
      · cases h
      · next hvalue =>
        refine Or.inr ⟨t, ht, by simpa using htype, fun hop => ?_⟩
        simpa [hop] using hvalue

end Library

/-- What is known of a stream once it is made. -/
structure Stream.IsMade (s : Stream) (forward : List String) (order : List Entity) : Prop where
  table : s.library.IsTable
  concrete : s.library.IsConcrete
  schedule : Schedule s.library forward order
  events : s.events =
    s.library.typeEvents forward order ++ s.library.constantEvents ++ s.library.valueEvents
  names : Library.checkNames [] s.entities = .ok ()
  mentions : ∀ e ∈ s.entities, ∀ m ∈ e.mentions, ∃ external, s.library.checkMention e m = .ok external

namespace Pipeline

theorem inStage_ok {ε α : Type} {stage : Stage} {wrap : ε → PipelineError} {x : Logged ε α} {a : α}
    (h : (inStage stage wrap x).result = .ok a) : x.result = .ok a := by
  unfold inStage at h
  dsimp only at h
  cases hx : x.result with
  | error e => rw [hx] at h; cases h
  | ok b => rw [hx] at h; cases h; rfl

theorem specialize_ok {settings : Settings} {lib lib' : Library}
    (h : (specialize settings lib).result = .ok lib') : ∃ workshop,
      Workshop.specialize ⟨settings.specialization.maxDepth, settings.specialization.dropUnderscores⟩
        settings.surface.included settings.surface.excluded ⟨lib, 1, []⟩ = (workshop, .ok ()) ∧
      lib' = workshop.library := by
  unfold specialize at h
  dsimp only at h
  have hok := inStage_ok h
  dsimp only at hok
  set made := Workshop.specialize ⟨settings.specialization.maxDepth, settings.specialization.dropUnderscores⟩
    settings.surface.included settings.surface.excluded ⟨lib, 1, []⟩ with hmade
  cases hresult : made.2 with
  | error e => rw [hresult] at hok; cases hok
  | ok u =>
    rw [hresult] at hok
    cases hok
    exact ⟨made.1, Prod.ext rfl hresult, rfl⟩

/-- The stages up to the one that orders. -/
def prepare (settings : Settings) (ds : List Declaration) : Logged PipelineError Library := do
  let built ← build settings ds
  let pruned ← prune settings built
  let specialized ← specialize settings pruned
  rename settings specialized

theorem run_eq_prepare (settings : Settings) (ds : List Declaration) : run settings ds =
    prepare settings ds >>= fun renamed => order renamed >>= fun events => emit renamed events := by
  simp only [run, prepare, bind_assoc]

/-- What the stages before the one that orders have done. -/
theorem prepare_stages {settings : Settings} {ds : List Declaration} {lib : Library}
    (h : (prepare settings ds).result = .ok lib) : ∃ built workshop,
      (Library.build settings.surface.external ds).result = .ok built ∧
      Workshop.specialize ⟨settings.specialization.maxDepth, settings.specialization.dropUnderscores⟩
        settings.surface.included settings.surface.excluded
          ⟨(built.prune settings.cfg.environment settings.surface.opaqueMarks).library, 1, []⟩ =
            (workshop, .ok ()) ∧
      lib = workshop.library.assignNames settings := by
  unfold prepare at h
  obtain ⟨built, hbuilt, h⟩ := Logged.bind_ok h
  obtain ⟨pruned, hpruned, h⟩ := Logged.bind_ok h
  obtain ⟨specialized, hspecialized, hrenamed⟩ := Logged.bind_ok h
  cases hpruned
  cases hrenamed
  obtain ⟨workshop, hworkshop, rfl⟩ := specialize_ok hspecialized
  exact ⟨built, workshop, inStage_ok hbuilt, hworkshop, rfl⟩

/-- What is ordered is a table without templates. -/
theorem prepare_ok {settings : Settings} {ds : List Declaration} {lib : Library}
    (h : (prepare settings ds).result = .ok lib) : lib.IsTable ∧ lib.IsConcrete := by
  obtain ⟨built, workshop, hbuilt, hworkshop, rfl⟩ := prepare_stages h
  have hfresh := Library.isFresh_prune settings.cfg.environment settings.surface.opaqueMarks
    (Library.isFresh_build hbuilt)
  exact ⟨Library.isTable_assignNames (Workshop.isTable_specialize hfresh.table hworkshop),
    fun e he _ => Library.isGeneric_assignNames
      (Workshop.not_isGeneric_of_specialize hfresh.table hfresh.unused hworkshop) e he⟩

/-- The table of a stream is the one that the stages before the one that orders leave. -/
theorem run_stages {settings : Settings} {ds : List Declaration} {s : Stream}
    (h : (run settings ds).result = .ok s) : (prepare settings ds).result = .ok s.library ∧
      ∃ events, s.library.order.result = .ok events ∧ (s.library.stream events).result = .ok s := by
  rw [run_eq_prepare] at h
  obtain ⟨renamed, hprepare, h⟩ := Logged.bind_ok h
  obtain ⟨events, hevents, hemit⟩ := Logged.bind_ok h
  have hstream := inStage_ok hemit
  obtain ⟨rfl, _⟩ := Library.stream_ok hstream
  exact ⟨hprepare, events, inStage_ok hevents, hstream⟩

/-- A run that succeeds makes its stream along a schedule of a table without templates. -/
theorem run_ok {settings : Settings} {ds : List Declaration} {s : Stream}
    (h : (run settings ds).result = .ok s) : ∃ forward order, s.IsMade forward order := by
  obtain ⟨hprepare, events, hevents, hstream⟩ := run_stages h
  obtain ⟨htable, hconcrete⟩ := prepare_ok hprepare
  obtain ⟨heq, hnames, hmentions⟩ := Library.stream_ok hstream
  obtain ⟨forward, order, hschedule, hmade⟩ := Library.exists_schedule htable hconcrete hevents
  exact ⟨forward, order, htable, hconcrete, hschedule, (congrArg Stream.events heq).trans hmade, hnames, hmentions⟩

end Pipeline

/-! ### A run that succeeds -/

/-- A struct and an enum with payloads that point at each other. -/
def grove : List Declaration := [
  { Declaration.bare .struct "Node" "crate" with
    body := .struct [⟨"tree", .pointer (.path "Tree" []) true false, []⟩] },
  { Declaration.bare .enum "Tree" "crate" with
    body := .enum [⟨"Leaf", none, [⟨"key", .path "u32" [], []⟩], []⟩,
      ⟨"Fork", none, [⟨"node", .pointer (.path "Node" []) true false, []⟩], []⟩] }]

def groveNode : Entity := .bare "Node" 0 (.struct [.bare "tree" (.pointer (.path "Tree" []) true true)])

def groveTree : Entity := .bare "Tree" 1 (.enum [
  ⟨"Leaf", "Leaf", none, [.bare "key" (.primitive .u32)], [], none⟩,
  ⟨"Fork", "Fork", none, [.bare "node" (.pointer (.path "Node" []) true true)], [], none⟩])

def groveStream : Stream where
  library := ⟨[groveNode, groveTree], [], []⟩
  events := [⟨.forwardDeclare, groveTree⟩, ⟨.defineType, groveNode⟩, ⟨.defineType, groveTree⟩]

/-- The enum is declared, the struct is defined, and the enum is defined behind it. -/
theorem order_grove : groveStream.library.order.result = .ok groveStream.events := by
  let g := DependencyGraph.ofLibrary groveStream.library
  have hnone : g.containment.cycles = [] := by cbv
  have hchosen : g.breakingEdge? [] = some ⟨"Node", "Tree", false, 0⟩ := by cbv
  have hbroken : g.breakingEdge? ["Tree"] = none := by cbv
  have hplan : g.plan.result = .ok ["Tree"] := by
    rw [DependencyGraph.plan, hnone, DependencyGraph.breakCycles_of_some hchosen,
      DependencyGraph.breakCycles_of_none hbroken]
    rfl
  have hstart : Agenda.release [] (g.waiters ["Tree"]) = ⟨[groveNode], [⟨groveTree, ["Node"], 1⟩]⟩ := by cbv
  have hnext : Agenda.next groveNode.name [] [⟨groveTree, ["Node"], 1⟩] = ⟨[groveTree], []⟩ := by cbv
  have hfirst : g.eventsOf ["Tree"] [] groveNode =
      [⟨.forwardDeclare, groveTree⟩, ⟨.defineType, groveNode⟩] := by cbv
  have hsecond : g.eventsOf ["Tree"] ["Tree"] groveTree = [⟨.defineType, groveTree⟩] := by cbv
  have hlast : g.place ["Tree"] ["Tree"] ⟨[groveTree], []⟩ = .ok [⟨.defineType, groveTree⟩] := by
    rw [DependencyGraph.place_of_cons rfl, hsecond, DependencyGraph.place_of_nil rfl]
    rfl
  have htypes : g.orderTypes ["Tree"] = .ok groveStream.events := by
    rw [DependencyGraph.orderTypes, hstart, DependencyGraph.place_of_cons rfl, hfirst, hnext]
    exact congrArg (Except.map _) hlast
  rw [Library.order_result, hplan]
  exact congrArg (Except.map _) htypes

theorem run_grove : (Pipeline.run .default grove).result = .ok groveStream := by
  have hbuild : (Pipeline.build .default grove).result = .ok groveStream.library := by cbv
  have hprune : (Pipeline.prune .default groveStream.library).result = .ok groveStream.library := by cbv
  have hspecialize : (Pipeline.specialize .default groveStream.library).result =
      .ok groveStream.library := by cbv
  have hrename : (Pipeline.rename .default groveStream.library).result = .ok groveStream.library := by cbv
  have horder : (Pipeline.order groveStream.library).result = .ok groveStream.events :=
    congrArg (Except.mapError _) order_grove
  have hemit : (Pipeline.emit groveStream.library groveStream.events).result = .ok groveStream := by cbv
  simp only [Pipeline.run, Logged.bind_result, hbuild, hprune, hspecialize, hrename, horder, hemit,
    Except.bind]

end CrateHeader
