import RecordFix.Entries

/-!
# Fixes

A fix is a list of expressions that are carried out one after the other on a record: calls of
functions, blocks that are repeated or carried out under a condition. Functions, blocks and
conditions are invoked by name, with parameters and options. A repeated option keeps its first place
and its last value.
-/

namespace RecordFix

/-- What is invoked: its name, its parameters and its options as they are written. -/
structure Invocation where
  name : String
  params : List String := []
  options : List (String × String) := []
  deriving DecidableEq, Repr

/-- Options by name. -/
abbrev Options := Entries String

/-- The options of an invocation by name. -/
def Invocation.optionTable (i : Invocation) : Options := Entries.ofList i.options

/-- An expression. In `ifElse` the second condition and the last block may be absent; a last block
that is empty is not the same as none. -/
inductive Expression where
  | call (function : Invocation)
  | bind (block : Invocation) (body : List Expression)
  | ifElse (test : Invocation) (body : List Expression)
      (elsif : Option (Invocation × List Expression)) (otherwise : Option (List Expression))
  | ifNot (test : Invocation) (body : List Expression)

instance : Inhabited Expression := ⟨.call { name := "" }⟩

/-- The expressions of a fix in order. -/
abbrev Fix := List Expression

namespace Expression

/-- A call of a function. -/
def ofCall (name : String) (params : List String) : Expression := .call { name, params }

/-- A block that is carried out repeatedly. -/
def ofBlock (name : String) (body : List Expression) : Expression := .bind { name } body

/-- A block that is carried out if a condition holds. -/
def ofIf (name : String) (params : List String) (body : List Expression) : Expression :=
  .ifElse { name, params } body none none

/-- A block that is carried out unless a condition holds. -/
def ofUnless (name : String) (params : List String) (body : List Expression) : Expression :=
  .ifNot { name, params } body

/-- The same call or block with one more option; conditions stay as they are. -/
def withOption (key text : String) : Expression → Expression
  | .call i => .call { i with options := i.options ++ [(key, text)] }
  | .bind i body => .bind { i with options := i.options ++ [(key, text)] } body
  | e => e

/-- The same condition with a second condition and its body. -/
def withElsif (name : String) (params : List String) (body : List Expression) :
    Expression → Expression
  | .ifElse i first _ otherwise => .ifElse i first (some ({ name, params }, body)) otherwise
  | e => e

/-- The same condition with a last block. -/
def withElse (body : List Expression) : Expression → Expression
  | .ifElse i first elsif _ => .ifElse i first elsif (some body)
  | e => e

/-- What the expression invokes first. -/
def invocation : Expression → Invocation
  | .call i => i
  | .bind i _ => i
  | .ifElse i _ _ _ => i
  | .ifNot i _ => i

/-- The name of what the expression invokes first. -/
def name (e : Expression) : String := e.invocation.name

mutual

/-- The expression and all expressions inside it, the outer before the inner. -/
def nodes : Expression → List Expression
  | .call i => [.call i]
  | .bind i body => .bind i body :: nodesOf body
  | .ifElse i body elsif otherwise =>
    .ifElse i body elsif otherwise :: (nodesOf body ++ nodesOfBranch elsif ++ nodesOfElse otherwise)
  | .ifNot i body => .ifNot i body :: nodesOf body

/-- The expressions and all expressions inside them. -/
def nodesOf : List Expression → List Expression
  | [] => []
  | e :: rest => nodes e ++ nodesOf rest

/-- The expressions in a block with a condition of its own. -/
def nodesOfBranch : Option (Invocation × List Expression) → List Expression
  | none => []
  | some (_, body) => nodesOf body

/-- The expressions in a last block. -/
def nodesOfElse : Option (List Expression) → List Expression
  | none => []
  | some body => nodesOf body

end

end Expression

end RecordFix
