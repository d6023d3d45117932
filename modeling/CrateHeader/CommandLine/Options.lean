import CrateHeader.Text.Quoted
import CrateHeader.Text.Similarity

/-!
# Options on a command line

An option has a long spelling and perhaps a letter; it stands alone or takes a value. The value of a long
option may follow an equals sign, that of a letter its letter; otherwise it is the next argument, whatever
that is. Letters of options without a value may share one dash. Two dashes end the options.
-/

namespace CrateHeader.CommandLine

inductive OptionKey where
  | verbose
  | quiet
  | version
  | help
  | config
  | output
  | verify
  deriving DecidableEq, Repr

structure OptionSpec where
  key : OptionKey
  letter : Option Char
  long : String
  takesValue : Bool

/-- What is wrong with the arguments of a command. -/
inductive UsageError where
  | noSuchOption (spelling : String) (alike : List String)
  | valueMissing (spelling : String)
  | valueUnwanted (spelling : String)
  | argumentMissing (name : String)
  | noDirectory (argument path : String)
  | notDirectory (argument path : String)
  | extraArguments (arguments : List String)
  | commandMissing
  | noSuchCommand (name : String) (alike : List String)
  | verifyNeedsOutput

namespace UsageError

/-- What may have been meant. -/
def hint (alike : List String) : String :=
  match alike.map Text.quoted with
  | [] => ""
  | [only] => " Did you mean " ++ only ++ "?"
  | several => " (Did you mean one of: " ++ ", ".intercalate several ++ "?)"

def message : UsageError → String
  | noSuchOption spelling alike => "No such option " ++ Text.quoted spelling ++ "." ++ hint alike
  | valueMissing spelling => "Option " ++ Text.quoted spelling ++ " requires an argument."
  | valueUnwanted spelling => "Option " ++ Text.quoted spelling ++ " does not take a value."
  | argumentMissing name => "Missing argument '" ++ name ++ "'."
  | noDirectory argument path =>
    "Invalid value for '" ++ argument ++ "': Directory " ++ Text.quoted path ++ " does not exist."
  | notDirectory argument path =>
    "Invalid value for '" ++ argument ++ "': Directory " ++ Text.quoted path ++ " is a file."
  | extraArguments [only] => "Got unexpected extra argument (" ++ only ++ ")"
  | extraArguments several => "Got unexpected extra arguments (" ++ " ".intercalate several ++ ")"
  | commandMissing => "Missing command."
  | noSuchCommand name alike => "No such command " ++ Text.quoted name ++ "." ++ hint alike
  | verifyNeedsOutput => "--verify needs --output"

/-- An option that is known and has no value, or one it does not take, is no reason to explain the usage. -/
def showsUsage : UsageError → Bool
  | valueMissing _ | valueUnwanted _ => false
  | _ => true

end UsageError

/-- Options as given, in order, and the other arguments. -/
structure Arguments where
  given : List (OptionKey × Option String)
  others : List String

namespace Arguments

def has (a : Arguments) (key : OptionKey) : Bool := a.given.any fun g => g.1 == key

/-- The value of an option; of several the last counts. -/
def value? (a : Arguments) (key : OptionKey) : Option String :=
  a.given.reverse.findSome? fun (k, value) => if k = key then value else none

end Arguments

/-- The options that one argument gives, and perhaps one that waits for its value, by its spelling. -/
structure OptionRead where
  given : List (OptionKey × Option String)
  waiting : Option (OptionKey × String)

/-- Letters behind a single dash. -/
def readLetters (specs : List OptionSpec) : List Char → Except UsageError OptionRead
  | [] => .ok ⟨[], none⟩
  | c :: rest =>
    let spelling := String.ofList ['-', c]
    match specs.find? fun s => s.letter == some c with
    | none => .error (.noSuchOption spelling [])
    | some s =>
      if s.takesValue then
        if rest.isEmpty then .ok ⟨[], some (s.key, spelling)⟩
        else .ok ⟨[(s.key, some (String.ofList rest))], none⟩
      else (readLetters specs rest).map fun r => { r with given := (s.key, none) :: r.given }

/-- One argument that starts with a dash and goes on. -/
def readOption (specs : List OptionSpec) (arg : List Char) : Except UsageError OptionRead :=
  let spelling := String.ofList (arg.takeWhile (· != '='))
  let value := (arg.dropWhile (· != '=')).tail
  match specs.find? fun s => s.long == spelling with
  | some s =>
    match s.takesValue, arg.contains '=' with
    | true, true => .ok ⟨[(s.key, some (String.ofList value))], none⟩
    | true, false => .ok ⟨[], some (s.key, spelling)⟩
    | false, true => .error (.valueUnwanted spelling)
    | false, false => .ok ⟨[(s.key, none)], none⟩
  | none =>
    match arg with
    | '-' :: '-' :: _ => .error (.noSuchOption spelling (Text.alike (specs.map (·.long)) spelling))
    | _ => readLetters specs arg.tail

def isOption (arg : List Char) : Bool := arg.head? == some '-' && arg.length > 1

/-- Reads arguments. Unless options may be mixed with other arguments, the first of these ends the
options. -/
def Arguments.read (specs : List OptionSpec) (mixed : Bool) :
    List String → Except UsageError Arguments
  | [] => .ok ⟨[], []⟩
  | arg :: rest =>
    if arg = "--" then .ok ⟨[], rest⟩
    else if isOption arg.toList then
      match readOption specs arg.toList, rest with
      | .error e, _ => .error e
      | .ok ⟨given, none⟩, rest =>
        (read specs mixed rest).map fun a => { a with given := given ++ a.given }
      | .ok ⟨_, some (_, spelling)⟩, [] => .error (.valueMissing spelling)
      | .ok ⟨given, some (key, _)⟩, value :: rest =>
        (read specs mixed rest).map fun a =>
          { a with given := given ++ (key, some value) :: a.given }
    else if mixed then (read specs mixed rest).map fun a => { a with others := arg :: a.others }
    else .ok ⟨[], arg :: rest⟩

end CrateHeader.CommandLine
