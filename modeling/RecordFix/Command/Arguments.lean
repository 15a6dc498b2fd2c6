import RecordFix.Entries
import RecordFix.Text.Search

/-!
# Arguments of the command

The command line names one of three commands. `run` carries out a fix on records, `check` looks for
names in a fix that stand for nothing, and `functions` lists the built-in functions and predicates.
An option is written in full after two dashes or as one letter after one dash. Its value follows as
the next argument, after an equals sign, or right after the letter. A value in an argument of its
own must not begin with a dash, unless it is the dash alone. Two dashes may end the arguments.
-/

namespace RecordFix

/-- The options of the command `run`. -/
structure RunOptions where
  fix : String
  input : Option String := none
  output : Option String := none
  config : Option String := none
  vars : List (String × String) := []
  deriving DecidableEq, Repr

/-- What the command line asks for. -/
inductive Request where
  | run (options : RunOptions)
  | check (fix : String)
  | functions
  | help
  deriving DecidableEq, Repr

namespace Request

/-- An option: its name in full, and its letter if it has one. -/
structure Flag where
  name : String
  letter : Option Char

/-- The options of `check`. -/
def checkFlags : List Flag := [⟨"fix", some 'f'⟩]

/-- The options of `run`. -/
def runFlags : List Flag :=
  [⟨"fix", some 'f'⟩, ⟨"input", some 'i'⟩, ⟨"output", some 'o'⟩, ⟨"config", some 'c'⟩,
    ⟨"var", none⟩]

/-- What an argument is: an option whose value follows, an option with its value, or something that
does not belong here. -/
inductive Reading where
  | flag (name : String)
  | assigned (name value : String)
  | unknown

/-- What an argument is that begins with one dash or two. -/
def read (flags : List Flag) (argument : String) : Reading :=
  match argument.toList with
  | '-' :: '-' :: rest =>
    let (name, value) : String × Option (List Char) :=
      match Text.splitOnce '=' rest with
      | some (before, after) => (.ofList before, some after)
      | none => (.ofList rest, none)
    if flags.any fun flag => flag.name == name then
      match value with
      | some v => .assigned name (.ofList v)
      | none => .flag name
    else .unknown
  | '-' :: letter :: rest =>
    match flags.find? fun flag => flag.letter == some letter with
    | none => .unknown
    | some flag =>
      match rest with
      | [] => .flag flag.name
      | '=' :: value => .assigned flag.name (.ofList value)
      | value => .assigned flag.name (.ofList value)
  | _ => .unknown

/-- Whether an argument may be the value of the option before it. -/
def isValue (argument : String) : Bool :=
  argument == "-" || argument.toList.head? != some '-'

/-- The options with their values in order; `pending` is an option whose value must follow. -/
def assignments (flags : List Flag) (pending : Option String) :
    List String → Option (List (String × String))
  | [] => if pending.isNone then some [] else none
  | argument :: rest =>
    match pending with
    | some name =>
      if isValue argument then (assignments flags none rest).map ((name, argument) :: ·) else none
    | none =>
      if argument == "--" && rest.isEmpty then some []
      else match read flags argument with
      | .flag name => assignments flags (some name) rest
      | .assigned name value => (assignments flags none rest).map ((name, value) :: ·)
      | .unknown => none

/-- The path that an option gives which may occur once. The outer option is `none` if it is repeated
or empty. -/
def path? (given : List (String × String)) (name : String) : Option (Option String) :=
  match given.filter fun g => g.1 == name with
  | [] => some none
  | [(_, value)] => if value.isEmpty then none else some (some value)
  | _ => none

/-- A variable with its value. -/
def assignment? (text : String) : Option (String × String) :=
  (Text.splitOnce '=' text.toList).map fun (name, value) => (.ofList name, .ofList value)

/-- The options of `run` from their values. -/
def runOptions? (given : List (String × String)) : Option RunOptions := do
  let fix ← path? given "fix"
  let fix ← fix
  let input ← path? given "input"
  let output ← path? given "output"
  let config ← path? given "config"
  let vars ← (given.filter fun g => g.1 == "var").mapM fun g => assignment? g.2
  pure { fix, input, output, config, vars }

/-- What arguments ask for. -/
def ofArguments? : List String → Option Request
  | ["help"] | ["--help"] | ["-h"] => some .help
  | "functions" :: rest => (assignments [] none rest).map fun _ => .functions
  | "check" :: rest => do
    let given ← assignments checkFlags none rest
    let fix ← path? given "fix"
    let fix ← fix
    pure (.check fix)
  | "run" :: rest => do
    let given ← assignments runFlags none rest
    let options ← runOptions? given
    pure (.run options)
  | _ => none

end Request

end RecordFix
