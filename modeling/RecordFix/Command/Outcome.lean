import RecordFix.Batch.Records
import RecordFix.Batch.Run
import RecordFix.Command.Arguments
import RecordFix.Fix.Json

/-!
# What the command does

The command as a function: from the arguments, the text on standard input and the files to what is
printed and written. Where the outcome depends on a file that has not been read yet, it names that
file, and what it prints is of no account.
-/

namespace RecordFix

/-- What the command leaves behind. -/
structure Outcome where
  code : Nat := 0
  stdout : String := ""
  stderr : String := ""
  write : Option (String × String) := none
  unread : List String := []

namespace Outcome

/-- Prints a line on standard output. -/
def say (o : Outcome) (line : String) : Outcome := { o with stdout := o.stdout ++ line ++ "\n" }

/-- Prints a line on the error output. -/
def tell (o : Outcome) (line : String) : Outcome := { o with stderr := o.stderr ++ line ++ "\n" }

/-- Ends with an error. -/
def fail (o : Outcome) (message : String) : Outcome :=
  { o.tell ("Error: " ++ message) with code := 1 }

/-- Notes the file that an error is about, if the file has not been read yet. -/
def awaitFile (o : Outcome) : FileError → Outcome
  | .unread path => { o with unread := o.unread ++ [path] }
  | _ => o

/-- Notes the table that an error is about, if its file has not been read yet. -/
def awaitMap (o : Outcome) : FixError → Outcome
  | .map (.unread path) => { o with unread := o.unread ++ [path] }
  | _ => o

/-- Notes the file that an error of a run is about, if it has not been read yet. -/
def await (o : Outcome) : BatchError → Outcome
  | .fix cause => o.awaitMap cause
  | .recordFailed _ cause => o.awaitMap cause
  | .file cause => o.awaitFile cause
  | _ => o

/-- Ends with an error of a run. -/
def failBatch (o : Outcome) (e : BatchError) : Outcome := (o.await e).fail e.message

/-- Ends with an error about a file. -/
def failFile (o : Outcome) (e : FileError) : Outcome := (o.awaitFile e).fail e.message

end Outcome

namespace Command

/-- What the command is told about the world: the text on standard input, if it is text, the files,
and the random numbers that it is given. -/
structure World where
  stdin : Option String
  files : Files
  chance : Chance := 0

/-- The fix in a file. -/
def loadFix (files : Files) (path : String) : Except BatchError Fix :=
  match files.readText path with
  | .error e => .error (.file e)
  | .ok text =>
    match Fix.parse? text with
    | some fix => .ok fix
    | none => .error .json

/-- The configuration of a run. Without a file for it, tables are found beside the fix. -/
def loadConfig (files : Files) (options : RunOptions) : Except BatchError Config := do
  let config ←
    match options.config with
    | some path => Config.load files path
    | none => .ok { baseDir := some (FilePath.parent options.fix) }
  pure (options.vars.foldl (fun c v => c.putVar v.1 v.2) config)

/-- Writes the records that came out to a file or to standard output. -/
def writeOutput (files : Files) (text : String) (target : Option String) (o : Outcome) : Outcome :=
  match target with
  | none => o.say text
  | some path =>
    match files.writeFault? path with
    | some e => o.failFile e
    | none => { o.tell ("Output written to: " ++ path) with write := some (path, text) }

/-- Tells how a run ended, and the first few failures. -/
def report (summary : Summary) (o : Outcome) : Outcome :=
  (summary.failed.take 5).foldl
    (fun o f => o.tell ("   Record " ++ toString f.1 ++ ": " ++ f.2.message))
    (o.tell summary.text)

/-- Carries out a fix on the records in a text. -/
def runRecords (w : World) (options : RunOptions) (fix : Fix) (config : Config) (text : String)
    (o : Outcome) : Outcome :=
  match Records.parse text with
  | .error e => o.failBatch e
  | .ok records =>
    let o := o.tell ("   Records: " ++ toString records.length)
    let o := o.tell ("   Expressions: " ++ toString fix.length)
    match config.session w.files w.chance with
    | .error e => o.failBatch e
    | .ok session =>
      let done := { fix, config : Batch }.run records session
      match done.error with
      | some e => o.failBatch e
      | none =>
        let o := done.summary.failed.foldl (fun o f => o.awaitMap f.2) o
        writeOutput w.files (Records.toJson done.emitted).indented options.output
          (report done.summary o)

/-- The command `run`. -/
def run (w : World) (options : RunOptions) : Outcome :=
  let o : Outcome := {}
  match loadFix w.files options.fix with
  | .error e => o.failBatch e
  | .ok fix =>
    match loadConfig w.files options with
    | .error e => o.failBatch e
    | .ok config =>
      match options.input with
      | some path =>
        let o := o.tell ("Processing: " ++ path)
        match w.files.readText path with
        | .error e => o.failFile e
        | .ok text => runRecords w options fix config text o
      | none =>
        match w.stdin with
        | none => o.failFile .notText
        | some text => runRecords w options fix config text o

/-- The command `check`. -/
def check (w : World) (path : String) : Outcome :=
  let o := ({} : Outcome).tell ("Checking: " ++ path)
  match loadFix w.files path with
  | .error e => o.failBatch e
  | .ok fix =>
    match fix.unresolved {} with
    | [] => o.tell ("All operations resolve (" ++ toString fix.length ++ " expressions)")
    | names =>
      let o := o.tell "Unknown operations:"
      { names.foldl (fun o name => o.say ("  " ++ name)) o with code := 1 }

/-- The command `functions`. -/
def functions : Outcome :=
  let o := ({} : Outcome).say "Functions:"
  let o := Builtin.all.foldl (fun o f => o.say ("  " ++ f.name)) o
  let o := (o.say "").say "Predicates:"
  Predicate.all.foldl (fun o p => o.say ("  " ++ p.name)) o

/-- How the command is used. -/
def usage : String :=
  "Usage: recordfix run --fix FILE [--input FILE] [--output FILE] [--config FILE] " ++
    "[--var NAME=VALUE]\n" ++
  "       recordfix check --fix FILE\n" ++
  "       recordfix functions"

/-- What the command does on arguments. -/
def outcome (w : World) (arguments : List String) : Outcome :=
  match Request.ofArguments? arguments with
  | none => { ({} : Outcome).tell usage with code := 2 }
  | some .help => ({} : Outcome).say usage
  | some .functions => functions
  | some (.check path) => check w path
  | some (.run options) => run w options

end Command

end RecordFix
