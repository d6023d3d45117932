import CrateHeader.CommandLine

/-!
# The program

Runs the command line on the files below the current directory and puts its outcome into effect: what it
prints, the files that it writes and the code that it ends with. Documents are the files named like modules,
and those that the arguments name.
-/

namespace CrateHeader.Program

/-- Is a file read before the run? -/
def isWanted (arguments : List String) (path name : String) : Bool :=
  Crate.isModuleName name || arguments.any fun a => Path.normalized a == path

/-- Adds what is below a directory to a tree. -/
partial def readFiles (arguments : List String) (directory : String) (place : Location) (t : FileTree) :
    IO FileTree := do
  let mut t := t
  for entry in ← (← IO.FS.realPath directory).readDir do
    let path := Path.normalized (directory ++ "/" ++ entry.fileName)
    let found := place.child entry.fileName
    if ← entry.path.isDir then
      t ← readFiles arguments path found { t with directories := t.directories ++ [found] }
    else if isWanted arguments path entry.fileName then
      t := { t with files := t.files ++ [(found, .text (← IO.FS.readFile path))] }
  return t

def writeFiles (before after : FileTree) : IO Unit := do
  for l in after.directories do IO.FS.createDirAll (after.shown l)
  for (l, s) in after.newTexts before do IO.FS.writeFile (after.shown l) s

def report (outcome : CommandLine.Outcome) : IO Unit := do
  for r in outcome.log do IO.eprintln (r.level.name ++ " " ++ r.message)
  IO.print outcome.stdout
  for line in ((outcome.table.map CommandLine.Table.lines).getD []) do IO.println line
  IO.eprint outcome.stderr
  if let some f := outcome.failure then IO.eprintln (CommandLine.failureText f)

end CrateHeader.Program

def main (arguments : List String) : IO UInt32 := do
  let top ← IO.FS.realPath "."
  let before ← CrateHeader.Program.readFiles arguments "." .top ⟨top.toString, [], []⟩
  let (outcome, after) := CrateHeader.CommandLine.run "crate-header" before arguments
  CrateHeader.Program.report outcome
  CrateHeader.Program.writeFiles before after
  return outcome.exitCode.toUInt32
