import RecordFix.Encoding.Utf8
import RecordFix.Entries
import RecordFix.Text.Search

/-!
# Files

What is at the paths of a file system, as far as it is known, and what a detector of charsets makes
of bytes from there. Paths are text with slashes between the names; `.` means a directory itself and
`..` the one around it.
-/

namespace RecordFix

/-- What is at a path: nothing, something below a file that is no directory, a directory, or a file
with its bytes. What has not been looked at yet is `unread`. -/
inductive FileEntry where
  | missing
  | belowFile
  | directory
  | file (bytes : List UInt8)
  | unread

/-- Why a file cannot be read or written. -/
inductive FileError where
  | notFound
  | notDirectory
  | isDirectory
  | notText
  | unread (path : String)
  deriving DecidableEq, Repr

/-- The message of an error about a file. -/
def FileError.message : FileError → String
  | .notFound => "No such file or directory (os error 2)"
  | .notDirectory => "Not a directory (os error 20)"
  | .isDirectory => "Is a directory (os error 21)"
  | .notText => "stream did not contain valid UTF-8"
  | .unread path => "file not read yet: " ++ path

/-- A file system: what is at each path. The label that `guess` gives for bytes names the encoding
which a detector takes them to be in; the empty one names none. -/
structure Files where
  entry : String → FileEntry
  guess : List UInt8 → String := fun _ => ""

instance : CoeFun Files fun _ => String → FileEntry := ⟨Files.entry⟩

namespace FilePath

/-- Whether the path starts at the root. -/
def isAbsolute (path : String) : Bool := path.toList.head? == some '/'

/-- A path as seen from a directory. -/
def join (directory path : String) : String :=
  if isAbsolute path || directory.isEmpty then path
  else if directory.toList.getLast? == some '/' then directory ++ path
  else directory ++ "/" ++ path

/-- A reversed path without slashes and dots at its end that change nothing. -/
def trimEnd : List Char → List Char
  | ['/'] => ['/']
  | '/' :: rest => trimEnd rest
  | ['.', '/'] => ['/']
  | '.' :: '/' :: rest => trimEnd rest
  | path => path

/-- The directory that a path names something in; the root and the empty path have none. -/
def parent? (path : String) : Option String :=
  let trimmed := trimEnd path.toList.reverse
  if trimmed.isEmpty || trimmed = ['/'] then none
  else some (.ofList (trimEnd (trimmed.dropWhile (· != '/'))).reverse)

/-- The directory that a path names something in, or the path of the working directory. -/
def parent (path : String) : String := (parent? path).getD ""

/-- The names of a path in order. -/
def names (path : String) : List String := (Text.splitAt '/' path.toList).map String.ofList

end FilePath

namespace Files

/-- No files at all: there is a root, and nothing else. -/
def empty : Files where
  entry path := if path = "/" then .directory else .missing

/-- The files of a directory by the names that lead to them. -/
abbrev Tree := List (List String × List UInt8)

/-- What is at a place of a directory. -/
def Tree.entry (tree : Tree) (place : List String) : FileEntry :=
  match tree.lookup place with
  | some bytes => .file bytes
  | none =>
    if place.isEmpty || tree.any (fun file => place.isPrefixOf file.1) then .directory
    else .missing

/-- Follows names from a place in a directory, given in reverse, as far as they lead. -/
def Tree.follow (tree : Tree) (place : List String) : List String → FileEntry
  | [] => tree.entry place.reverse
  | name :: rest =>
    match tree.entry place.reverse with
    | .directory =>
      if name = "" || name = "." then Tree.follow tree place rest
      else if name = ".." then
        match place with
        | [] => .missing
        | _ :: outer => Tree.follow tree outer rest
      else Tree.follow tree (name :: place) rest
    | .file _ => .belowFile
    | other => other

/-- What is at a path if a directory is at the path `root`; the empty path is the working
directory. -/
def Tree.entryAt (tree : Tree) (root path : String) : FileEntry :=
  if root.isEmpty then
    if FilePath.isAbsolute path then empty path
    else if path.isEmpty then .missing
    else tree.follow [] (FilePath.names path)
  else
    match FilePath.names path, FilePath.names root with
    | names, start =>
      if start.isPrefixOf names then tree.follow [] (names.drop start.length) else empty path

/-- The files of a directory that is at the path `root`. -/
def ofTree (root : String) (tree : Tree) : Files where
  entry := tree.entryAt root

/-- The same files except that there is a file at a path. -/
def write (files : Files) (path : String) (bytes : List UInt8) : Files :=
  { files with entry := fun p => if p = path then .file bytes else files p }

/-- The text of a file, which must be UTF-8. -/
def readText (files : Files) (path : String) : Except FileError String :=
  match files path with
  | .file bytes =>
    match Encoding.Utf8.text? bytes with
    | some text => .ok (.ofList text)
    | none => .error .notText
  | .missing => .error .notFound
  | .belowFile => .error .notDirectory
  | .directory => .error .isDirectory
  | .unread => .error (.unread path)

/-- Why there can be no file at a path, if so: what is there or around it decides. -/
def writeFault? (files : Files) (path : String) : Option FileError :=
  match files path with
  | .file _ => none
  | .belowFile => some .notDirectory
  | .directory => some .isDirectory
  | .unread => some (.unread path)
  | .missing =>
    let around := FilePath.parent path
    let around := if around.isEmpty then "." else around
    match files around with
    | .directory => if path.toList.getLast? == some '/' then some .isDirectory else none
    | .unread => some (.unread around)
    | _ => some .notFound

end Files

end RecordFix
