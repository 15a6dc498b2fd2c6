import RecordFix.Fix.Arguments
import RecordFix.Glob
import RecordFix.Number.Finite
import RecordFix.Record
import RecordFix.Value.Strings

/-!
# Predicates

The conditions that blocks may depend on. Each looks at what a path leads to; some compare the
strings there with a text.
-/

namespace RecordFix

/-- How many of the strings have to pass a comparison: every one and at least one, at least one, or
none at all. -/
inductive Quantifier where
  | all
  | any
  | none
  deriving DecidableEq, Repr

/-- How a string is compared with a text: it contains it, is equal to it, or is matched by it as a
regular expression from start to end. -/
inductive Comparison where
  | contain
  | equal
  | pattern
  deriving DecidableEq, Repr

/-- A condition on what a path leads to. -/
inductive Predicate where
  | isPresent
  | compares (quantifier : Quantifier) (comparison : Comparison)
  | hasKind (kind : Kind)
  | isEmpty
  | isNumber
  | isTrue
  | isFalse
  deriving DecidableEq, Repr

namespace Predicate

/-- All predicates. -/
def all : List Predicate :=
  [.isPresent, .compares .all .contain, .compares .any .contain, .compares .none .contain,
    .compares .all .equal, .compares .any .equal, .compares .none .equal,
    .compares .all .pattern, .compares .any .pattern, .compares .none .pattern,
    .hasKind .array, .hasKind .hash, .hasKind .string, .isEmpty, .isNumber, .isTrue, .isFalse]

/-- The name of a predicate. -/
def name : Predicate → String
  | .isPresent => "exists"
  | .compares .all .contain => "all_contain"
  | .compares .any .contain => "any_contain"
  | .compares .none .contain => "none_contain"
  | .compares .all .equal => "all_equal"
  | .compares .any .equal => "any_equal"
  | .compares .none .equal => "none_equal"
  | .compares .all .pattern => "all_match"
  | .compares .any .pattern => "any_match"
  | .compares .none .pattern => "none_match"
  | .hasKind .array => "is_array"
  | .hasKind .hash => "is_hash"
  | .hasKind .string => "is_string"
  | .isEmpty => "is_empty"
  | .isNumber => "is_number"
  | .isTrue => "is_true"
  | .isFalse => "is_false"

/-- The predicate of this name. -/
def named? (name : String) : Option Predicate := all.find? fun p => p.name == name

/-- What strings are compared for. -/
def comparing (comparison : Comparison) (text : String) : Except FixError (String → Bool) :=
  match comparison with
  | .contain => .ok fun s => Text.occursIn text.toList s.toList
  | .equal => .ok fun s => s == text
  | .pattern => (Arguments.pattern (Glob.anchored text.toList)).map fun p => p.occursIn

/-- Whether as many of the strings pass a test as have to. -/
def holdsFor (quantifier : Quantifier) (test : String → Bool) (strings : List String) : Bool :=
  match quantifier with
  | .all => !strings.isEmpty && strings.all test
  | .any => strings.any test
  | .none => !strings.any test

/-- Compares the strings of a value, if there is one, with a text. -/
def compare (quantifier : Quantifier) (comparison : Comparison) (text : String)
    (found : Option Value) : Except FixError Bool := do
  let test ← comparing comparison text
  pure (holdsFor quantifier test ((found.map Value.strings).getD []))

/-- Whether a string has been found that passes a test. -/
def isString (test : String → Bool) (found : Option Value) : Bool :=
  match found with
  | some (.string s) => test s
  | _ => false

/-- Whether the predicate holds of a record. -/
def test (p : Predicate) (record : Record) (params : List String) : Except FixError Bool := do
  let path ← Arguments.param p.name params 0
  let found := record.find (Path.ofString path)
  match p with
  | .compares quantifier comparison =>
    let text ← Arguments.param p.name params 1
    compare quantifier comparison text found
  | .isPresent => pure found.isSome
  | .hasKind kind => pure (found.any fun v => v.kind == kind)
  | .isEmpty => pure (found.any Value.isEmpty)
  | .isNumber => pure (isString (fun s => Number.isFiniteText (Text.trim s.toList)) found)
  | .isTrue => pure (isString (fun s => s == "true" || s == "1") found)
  | .isFalse => pure (isString (fun s => s == "false" || s == "0") found)

end Predicate

end RecordFix
