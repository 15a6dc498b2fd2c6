import RecordFix.Fix.Extension

/-!
# Checking a fix

The names in a fix that stand for nothing can be told without a record.
-/

namespace RecordFix

/-- The block that is carried out for every item of an array. -/
def listBlock : String := "list"

/-- A name in a fix, by what it must be the name of. -/
inductive Reference where
  | function (name : String)
  | predicate (name : String)
  | block (name : String)
  deriving DecidableEq, Repr

namespace Reference

/-- The name itself. -/
def name : Reference → String
  | .function n => n
  | .predicate n => n
  | .block n => n

/-- Whether there is something of this name. -/
def resolves (e : Extensions) : Reference → Bool
  | .function n => e.hasFunction n
  | .predicate n => e.hasPredicate n
  | .block n => n == listBlock

end Reference

namespace Expression

/-- The names in an expression, without those in the expressions inside it. -/
def references : Expression → List Reference
  | .call i => [.function i.name]
  | .bind i _ => [.block i.name]
  | .ifElse i _ elsif _ =>
    .predicate i.name :: (elsif.map fun branch => Reference.predicate branch.1.name).toList
  | .ifNot i _ => [.predicate i.name]

end Expression

namespace Fix

/-- Names without those that occur earlier; `seen` holds the earlier ones. -/
def distinctNames (seen : List String) : List String → List String
  | [] => []
  | n :: rest =>
    if seen.contains n then distinctNames seen rest else n :: distinctNames (n :: seen) rest

/-- The names in a fix that stand for nothing, each once, in order. -/
def unresolved (fix : Fix) (e : Extensions) : List String :=
  let references := (Expression.nodesOf fix).flatMap Expression.references
  distinctNames [] ((references.filter fun r => !r.resolves e).map Reference.name)

end Fix

end RecordFix
