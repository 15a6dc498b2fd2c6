import RecordFix.MapFile

/-!
# Lookup tables by name

Tables are known by name in the course of a run. Besides tables proper there may be sources that
compute the text of a key.
-/

namespace RecordFix

/-- Where the text of a key comes from. -/
inductive MapSource where
  | table (m : Mapping)
  | computed (f : String → Option String)

namespace MapSource

/-- The text of a key. -/
def get (s : MapSource) (key : String) : Option String :=
  match s with
  | .table m => Entries.get? m key
  | .computed f => f key

/-- The text of a key, or else of the default entry. -/
def lookup (s : MapSource) (key : String) : Option String :=
  (s.get key).or (s.get Mapping.defaultKey)

end MapSource

/-- Sources by name. -/
abbrev MapRegistry := Entries MapSource

namespace MapRegistry

/-- The names in ascending order. -/
def sortedNames (r : MapRegistry) : List String := (Entries.names r).mergeSort (· ≤ ·)

/-- Takes in the table of a file. -/
def load (r : MapRegistry) (files : Files) (name path : String) (baseDir : Option String)
    (f : MapFormat) : Except MapError MapRegistry := do
  let m ← MapFile.load files path baseDir f
  pure (Entries.put r name (.table m))

end MapRegistry

end RecordFix
