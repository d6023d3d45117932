import CrateHeader.Crate
import CrateHeader.Failure
import CrateHeader.Header
import CrateHeader.Library.Naming
import CrateHeader.Library.Pruning

/-!
# The pipeline

From a crate to a header in stages, each of which takes up what the one before it leaves. A stage says
when it starts, and a failure carries the stage that it came from in its cause.
-/

namespace CrateHeader

/-- Why a run stopped. -/
inductive PipelineError where
  | parse (error : LoadError)
  | build (error : BuildError)
  | specialize (error : SpecializationError)
  | order (error : OrderError)
  | emit (error : EmissionError)
  | write (misuse : Misuse)

def PipelineError.stage : PipelineError → Stage
  | parse _ => .parse
  | build _ => .build
  | specialize _ => .specialize
  | order _ => .order
  | emit _ => .emit
  | write _ => .emit

def PipelineError.failure : PipelineError → Failure
  | parse e => e.failure.atStage .parse
  | build e => e.failure.atStage .build
  | specialize e => .diagnostic (e.diagnostic.atStage .specialize)
  | order e => .diagnostic (e.diagnostic.atStage .order)
  | emit e => .diagnostic (e.diagnostic.atStage .emit)
  | write m => .misuse m

namespace Pipeline

def enter (s : Stage) : Log := Log.debug ("Stage " ++ s.name)

/-- A computation as a stage: it is announced, and its causes of failure are those of the stage. -/
def inStage {ε α : Type} (s : Stage) (wrap : ε → PipelineError) (x : Logged ε α) :
    Logged PipelineError α :=
  ⟨x.result.mapError wrap, enter s ++ x.log⟩

/-- The declarations that a reader of sources finds. -/
def parse (declarations : Logged LoadError (List Declaration)) :
    Logged PipelineError (List Declaration) := inStage .parse .parse declarations

def build (settings : Settings) (declarations : List Declaration) : Logged PipelineError Library :=
  inStage .build .build (Library.build settings.surface.external declarations)

def prune (settings : Settings) (lib : Library) : Logged PipelineError Library :=
  let pruned := lib.prune settings.cfg.environment settings.surface.opaqueMarks
  ⟨.ok pruned.library, enter .cfg ++ pruned.log⟩

def specialize (settings : Settings) (lib : Library) : Logged PipelineError Library :=
  let ceiling : Ceiling := ⟨settings.specialization.maxDepth, settings.specialization.dropUnderscores⟩
  let (workshop, result) := Workshop.specialize ceiling settings.surface.included
    settings.surface.excluded ⟨lib, 1, []⟩
  inStage .specialize .specialize ⟨result.map fun () => workshop.library, workshop.log⟩

def rename (settings : Settings) (lib : Library) : Logged PipelineError Library :=
  ⟨.ok (lib.assignNames settings), enter .rename ++ lib.namingLog settings⟩

def order (lib : Library) : Logged PipelineError (List Event) := inStage .order .order lib.order

def emit (lib : Library) (events : List Event) : Logged PipelineError Stream :=
  inStage .emit .emit (lib.stream events)

def write (settings : Settings) (s : Stream) : Logged PipelineError String :=
  inStage .emit .write (Logged.ofExcept (Header.write settings s))

/-- All stages up to the stream. -/
def run (settings : Settings) (declarations : List Declaration) : Logged PipelineError Stream := do
  let built ← build settings declarations
  let pruned ← prune settings built
  let specialized ← specialize settings pruned
  let renamed ← rename settings specialized
  let events ← order renamed
  emit renamed events

/-- The stream of the crate at a path. -/
def crateStream (settings : Settings) (t : FileTree) (path : String) : Logged PipelineError Stream := do
  let declarations ← parse (Crate.load t path)
  run settings declarations

/-- The header of the crate at a path. -/
def crateHeader (settings : Settings) (t : FileTree) (path : String) : Logged PipelineError String := do
  let s ← crateStream settings t path
  write settings s

end Pipeline

end CrateHeader
