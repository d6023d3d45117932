import CrateHeader.CommandLine.Options
import CrateHeader.Pipeline
import CrateHeader.Settings.Reader
import CrateHeader.Terminal
import CrateHeader.Text.Alphanumeric

/-!
# The command line

Two commands read the crate at a path: one writes its header, or checks the one that is there, and the other
lists what the header says in order. A run sees a file tree and leaves one behind; what it prints, how it
ends and what it logs make up its outcome. Wrong arguments and a header that is out of date end a run with
code 2, every other failure with code 1. What is said about a crate is markup, and paths and messages in it
are escaped; names in the table are taken for markup as they are.
-/

namespace CrateHeader.CommandLine

inductive Command where
  | generate
  | order
  deriving DecidableEq, Repr

namespace Command

def name : Command → String
  | generate => "generate"
  | order => "order"

def all : List Command := [generate, order]

def ofName? (name : String) : Option Command := all.find? fun c => c.name == name

end Command

/-- The option that every command has. -/
def helpOption : OptionSpec := ⟨.help, none, "--help", false⟩

def configOption : OptionSpec := ⟨.config, some 'c', "--config", true⟩

/-- The options in front of a command. -/
def commonOptions : List OptionSpec :=
  [⟨.version, none, "--version", false⟩, ⟨.verbose, some 'v', "--verbose", false⟩,
    ⟨.quiet, some 'q', "--quiet", false⟩, helpOption]

def Command.options : Command → List OptionSpec
  | generate =>
    [configOption, ⟨.output, some 'o', "--output", true⟩, ⟨.verify, none, "--verify", false⟩, helpOption]
  | order => [configOption, helpOption]

def rootArgument : String := "CRATE_ROOT"

def version : String := "0.1.0"

structure Table where
  title : String
  rows : List (List String)
  deriving DecidableEq, Repr

/-- What a command that came to its end prints. -/
structure Report where
  exitCode : Nat
  stdout : String
  stderr : String
  table : Option Table

/-- Why a command stopped. -/
inductive Stop where
  | usage (error : UsageError)
  | settings (failure : SettingsFailure)
  | pipeline (error : PipelineError)
  | fault (fault : PathFault)
  | markup (error : Terminal.MarkupError)

/-- The cells of a row, one tab apart. -/
def Table.lines (t : Table) : List String := t.title :: t.rows.map ("\t".intercalate ·)

structure Outcome where
  exitCode : Nat
  stdout : String
  stderr : String
  table : Option Table
  log : Log
  /-- A failure that has no words of its own. -/
  failure : Option Failure

/-! ### Words -/

/-- A command as it is called; without one it is the program. -/
def callOf (program : String) (command : Option Command) : String :=
  match command with
  | none => program
  | some c => program ++ " " ++ c.name

def usageLine (program : String) (command : Option Command) : String :=
  "Usage: " ++ callOf program command ++ " [OPTIONS] " ++
    if command.isSome then rootArgument else "COMMAND [ARGS]..."

def usageText (program : String) (command : Option Command) (e : UsageError) : String :=
  let usage := usageLine program command ++ "\nTry '" ++ callOf program command ++ " --help' for help.\n\n"
  (if e.showsUsage then usage else "") ++ Terminal.withoutCodes ("Error: " ++ e.message ++ "\n")

def helpText (program : String) (command : Option Command) : String :=
  let options := (command.map Command.options).getD commonOptions
  usageLine program command ++ "\n\nOptions:\n" ++
    String.join (options.map fun s => "  " ++ s.long ++ "\n") ++
    if command.isSome then ""
    else "\nCommands:\n" ++ String.join (Command.all.map fun c => "  " ++ c.name ++ "\n")

/-- What is said about settings that are refused, line by line. -/
def settingsLines (e : SettingsError) : List String :=
  (Terminal.styled "red" ("error[config] " ++ e.code ++ ":") ++ " " ++ Terminal.escape e.message) ::
    (e.suggestion?.map fun suggestion => "  " ++ Terminal.styled "dim" suggestion).toList

/-- A failure in the words of a last resort. -/
def failureText : Failure → String
  | .diagnostic d => d.describe
  | .misuse _ => "a document has a value of the wrong kind"
  | .fault .missing => "nothing is there"
  | .fault .isDirectory => "a directory stands in the place of a file"
  | .fault .occupied | .fault .notDirectory => "a file stands in the place of a directory"
  | .fault .tooLong => "a path is too long"
  | .fault .inUse => "a directory cannot be replaced"
  | .markup _ => "a name is no proper markup"
  | f => f.message?.getD ""

/-! ### Commands -/

/-- The crate that the arguments name: one argument, and a directory that is there. -/
def crateRoot (t : FileTree) (arguments : List String) : Except Stop String :=
  match arguments with
  | [] => .error (.usage (.argumentMissing rootArgument))
  | path :: extra =>
    match t.find path with
    | .error .nul => .error (.fault .nul)
    | .error _ => .error (.usage (.noDirectory rootArgument path))
    | .ok l =>
      if t.isFile l then .error (.usage (.notDirectory rootArgument path))
      else if extra.isEmpty then .ok path
      else .error (.usage (.extraArguments extra))

/-- A report of one line. -/
def said (exitCode : Nat) (markup : String) : Logged Stop Report :=
  Logged.ofExcept <| ((Terminal.printed markup).mapError .markup).map fun words =>
    ⟨exitCode, "", words, none⟩

/-- Is the file at a path what it has to be? -/
def verify (t : FileTree) (output : Option String) (header : String) : Logged Stop Report := do
  match output with
  | none => Logged.fail (.usage .verifyNeedsOutput)
  | some path =>
    if ← Logged.ofExcept ((t.holds path header).mapError .fault) then
      said 0 ("[green]" ++ Terminal.escape path ++ " is up to date[/]")
    else said 2 ("[red]" ++ Terminal.escape path ++ " is out of date[/]")

/-- Writes a header to a file that does not hold it yet. -/
def writeTo (t : FileTree) (path header : String) : Logged Stop Report × FileTree :=
  match t.holds path header with
  | .error fault => (Logged.fail (.fault fault), t)
  | .ok true => (do
    Logged.note (Log.info (Path.normalized path ++ " is up to date"))
    said 0 ("[dim]Unchanged[/] " ++ Terminal.escape path), t)
  | .ok false =>
    let (written, after) := t.write path header
    (do
      Logged.ofExcept (written.mapError .fault)
      Logged.note (Log.info ("Wrote " ++ Path.normalized path))
      said 0 ("[green]Wrote[/] " ++ Terminal.escape path), after)

/-- The header of the crate that the arguments name. -/
def headerOf (t : FileTree) (a : Arguments) : Logged Stop String := do
  let root ← Logged.ofExcept (crateRoot t a.others)
  let settings ← Logged.ofExcept ((Settings.load t (a.value? .config)).mapError .settings)
  (Pipeline.crateHeader settings t root).mapError .pipeline

def generate (t : FileTree) (a : Arguments) : Logged Stop Report × FileTree :=
  let header := headerOf t a
  match header.result with
  | .error stop => (⟨.error stop, header.log⟩, t)
  | .ok text =>
    let (report, after) :=
      if a.has .verify then (verify t (a.value? .output) text, t)
      else match a.value? .output with
        | none => (pure ⟨0, Terminal.withoutCodes text, "", none⟩, t)
        | some path => writeTo t path text
    (⟨report.result, header.log ++ report.log⟩, after)

/-- Where an entity comes from. -/
def sourceOf (e : Entity) : String :=
  match e.instanceOf with
  | some key => key.text
  | none => if e.synthetic then "(cfg-removed stub)" else e.name

/-- The cells of a row, as they are shown. -/
def eventRow (number : Nat) (e : Event) : Except Terminal.MarkupError (List String) := do
  let exportName ← Terminal.shown e.entity.exportName
  let source ← Terminal.shown (Terminal.escape (sourceOf e.entity))
  .ok [toString number, e.kind.name, exportName, e.entity.kind.name, source]

def eventTable (events : List Event) : Except Terminal.MarkupError Table := do
  let rows ← (events.zipIdx 1).mapM fun (e, number) => eventRow number e
  .ok ⟨"Emission Order (" ++ toString events.length ++ " events)", rows⟩

def order (t : FileTree) (a : Arguments) : Logged Stop Report := do
  let root ← Logged.ofExcept (crateRoot t a.others)
  let settings ← Logged.ofExcept ((Settings.load t (a.value? .config)).mapError .settings)
  let s ← (Pipeline.crateStream settings t root).mapError .pipeline
  let table ← Logged.ofExcept ((eventTable s.events).mapError .markup)
  pure ⟨0, "", "", some table⟩

def execute (command : Command) (t : FileTree) (a : Arguments) : Logged Stop Report × FileTree :=
  match command with
  | .generate => generate t a
  | .order => (order t a, t)

/-! ### Runs -/

def Outcome.stopped (exitCode : Nat) (words : String) (log : Log) : Outcome :=
  ⟨exitCode, "", words, none, log, none⟩

def Outcome.printed (words : String) : Outcome := ⟨0, words, "", none, [], none⟩

def Outcome.failed (log : Log) (f : Failure) : Outcome := ⟨1, "", "", none, log, some f⟩

/-- The end of a run that says why. -/
def Outcome.explained (log : Log) (lines : List String) : Outcome :=
  match lines.mapM Terminal.printed with
  | .ok words => stopped 1 (String.join words) log
  | .error e => failed log (.markup e)

def Outcome.ofFailure (log : Log) : Failure → Outcome
  | .diagnostic d => explained log [Terminal.styled "red" d.describe]
  | f => failed log f

def Outcome.ofStop (program : String) (command : Command) (log : Log) : Stop → Outcome
  | .usage e => stopped 2 (usageText program (some command) e) log
  | .settings (.refused e) => explained log (settingsLines e)
  | .settings (.misuse m) => failed log (.misuse m)
  | .settings (.fault f) => failed log (.fault f)
  | .pipeline e => ofFailure log e.failure
  | .fault f => failed log (.fault f)
  | .markup e => failed log (.markup e)

def Outcome.ofReport (log : Log) (r : Report) : Outcome :=
  ⟨r.exitCode, r.stdout, r.stderr, r.table, log, none⟩

/-- The level that the options in front of a command ask for. -/
def levelOf (a : Arguments) : Level :=
  if a.has .verbose then .debug else if a.has .quiet then .error else .warning

def runCommand (program : String) (level : Level) (command : Command) (t : FileTree)
    (arguments : List String) : Outcome × FileTree :=
  match Arguments.read command.options true arguments with
  | .error e => (.stopped 2 (usageText program (some command) e) [], t)
  | .ok a =>
    if a.has .help then (.printed (helpText program (some command)), t)
    else
      let (x, after) := execute command t a
      let log := x.log.above level
      match x.result with
      | .ok report => (.ofReport log report, after)
      | .error stop => (.ofStop program command log stop, after)

/-- The first option that asks for words instead of a run. -/
def wordsAsked? (program : String) (a : Arguments) : Option String :=
  a.given.findSome? fun (key, _) =>
    if key = .version then some (program ++ ", version " ++ version ++ "\n")
    else if key = .help then some (helpText program none)
    else none

/-- Does a name start like an option? -/
def looksLikeOption (name : String) : Bool := name.toList.head?.any fun c => !Text.isAlphanumeric c

/-- The end of a run with a name that is no command. One that starts like an option is read as one first. -/
def unknownCommand (program name : String) (rest : List String) : Outcome :=
  let again := if looksLikeOption name then Arguments.read commonOptions false (name :: rest)
    else .ok ⟨[], name :: rest⟩
  match again.map (wordsAsked? program) with
  | .error e => .stopped 2 (usageText program none e) []
  | .ok (some words) => .printed words
  | .ok none =>
    let alike := Text.alike (Command.all.map Command.name) name
    .stopped 2 (usageText program none (.noSuchCommand name alike)) []

/-- Runs the program on its arguments. -/
def run (program : String) (t : FileTree) (arguments : List String) : Outcome × FileTree :=
  match Arguments.read commonOptions false arguments with
  | .error e => (.stopped 2 (usageText program none e) [], t)
  | .ok a =>
    match wordsAsked? program a, a.others with
    | some words, _ => (.printed words, t)
    | none, [] =>
      (.stopped 2 (if arguments.isEmpty then helpText program none
        else usageText program none .commandMissing) [], t)
    | none, name :: rest =>
      match Command.ofName? name with
      | none => (unknownCommand program name rest, t)
      | some command => runCommand program (levelOf a) command t rest

end CrateHeader.CommandLine
