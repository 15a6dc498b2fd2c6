import RecordFix.Number.Shortest

/-!
# JSON values

A document is a tree of literals, numbers, strings, arrays and objects. An object keeps its members
as written, in order and with repeated keys: what a repeated key means is for the reader of a
document to say.
-/

namespace RecordFix

/-- A number of a document: a whole number that fits sixty-four bits, or the binary number nearest
to what is written. `below n` is the number `-n`. -/
inductive Json.Number where
  | natural (n : Nat)
  | below (n : Nat)
  | binary (x : RecordFix.Number.Binary64)
  deriving DecidableEq, Repr

/-- The decimal text of a number. -/
def Json.Number.text : Json.Number → List Char
  | .natural n => (toString n).toList
  | .below n => '-' :: (toString n).toList
  | .binary x => x.text

/-- A JSON value. -/
inductive Json where
  | null
  | bool (b : Bool)
  | number (n : Json.Number)
  | string (s : String)
  | array (items : List Json)
  | object (members : List (String × Json))

namespace Json

/-- The deepest nesting of arrays and objects that a document may have. -/
def maxDepth : Nat := 127

end Json

end RecordFix
