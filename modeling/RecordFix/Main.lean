import RecordFix.Command.Outcome

/-!
# The program

Reads what the command depends on, prints what it says and writes the file that it leaves. All that
is decided is decided by `Command.outcome`; while the outcome names files that have not been read,
they are read and the command is asked again.
-/

namespace RecordFix

/-- What is at a path of the file system. -/
def FileEntry.look (path : String) : IO FileEntry := do
  try
    return .file (← IO.FS.readBinFile path).toList
  catch
    | .inappropriateType _ 21 _ => return .directory
    | .inappropriateType .. => return .belowFile
    | _ => return .missing

/-- The bytes of a stream to its end, after those already read. -/
partial def readToEnd (stream : IO.FS.Stream) (done : ByteArray) : IO ByteArray := do
  let more ← stream.read 65536
  if more.isEmpty then return done else readToEnd stream (done ++ more)

/-- The text on standard input, if it is text and the command wants it. -/
def inputText (arguments : List String) : IO (Option String) := do
  match Request.ofArguments? arguments with
  | some (.run { input := none, .. }) =>
    let bytes ← readToEnd (← IO.getStdin) .empty
    return (Encoding.Utf8.text? bytes.toList).map String.ofList
  | _ => return none

/-- The outcome of the command once all files that it depends on have been read. -/
partial def settledOutcome (world : Command.World) (arguments : List String) : IO Outcome := do
  let outcome := Command.outcome world arguments
  if outcome.unread.isEmpty then return outcome
  let seen ← outcome.unread.mapM fun path => return (path, ← FileEntry.look path)
  let entry (path : String) : FileEntry := (seen.lookup path).getD (world.files path)
  settledOutcome { world with files := { world.files with entry } } arguments

end RecordFix

/-- Carries out the command that the arguments name. -/
def main (arguments : List String) : IO UInt32 := do
  let stdin ← RecordFix.inputText arguments
  let seed ← IO.rand 0 UInt32.size
  let number (n : Nat) : Nat := (mixHash seed.toUInt64 n.toUInt64).toNat
  let world : RecordFix.Command.World :=
    { stdin, files := { entry := fun _ => .unread }, chance := { number } }
  let outcome ← RecordFix.settledOutcome world arguments
  if let some (path, text) := outcome.write then IO.FS.writeFile path text
  IO.print outcome.stdout
  IO.eprint outcome.stderr
  return outcome.code.toUInt32
