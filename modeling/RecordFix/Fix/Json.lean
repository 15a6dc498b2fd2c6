import RecordFix.Fix.Expression
import RecordFix.Json.Parser
import RecordFix.Json.Printer
import RecordFix.Json.Typed

/-!
# Fixes as documents

A fix is written as an array of expressions. An expression is an object whose member `type` says
which kind it is, with the name, the parameters, the options and the bodies as further members; or
it is an array with the kind as its first item and the others behind it in this order. All but the
kind and the name may be left out. Options are an object of strings or an array of pairs, which
keeps repeated options.
-/

namespace RecordFix

/-- The kinds of expression. -/
inductive ExpressionKind where
  | call
  | bind
  | ifElse
  | ifNot
  deriving DecidableEq, Repr

namespace ExpressionKind

/-- All kinds in the order in which they are numbered. -/
def all : List ExpressionKind := [.call, .bind, .ifElse, .ifNot]

/-- The word for a kind. -/
def word : ExpressionKind → String
  | .call => "call"
  | .bind => "do"
  | .ifElse => "if"
  | .ifNot => "unless"

/-- The kind that a document tells, by its word or, inside a body, by its number as well. -/
def ofJson? (nested : Bool) : Json → Option ExpressionKind
  | .string s => all.find? fun kind => kind.word == s
  | .number (.natural n) => if nested then all[n]? else none
  | _ => none

/-- The fields of an expression of a kind. -/
def fields : ExpressionKind → List String
  | .call => ["name", "params", "options"]
  | .ifElse => ["name", "params", "options", "elements", "elsif", "else"]
  | _ => ["name", "params", "options", "elements"]

end ExpressionKind

namespace Invocation

/-- Options in either of their forms. -/
def optionsOfJson? : Json → Option (List (String × String))
  | .array pairs => pairs.mapM Json.stringPair?
  | j => j.table?

/-- An invocation from its three fields. -/
def ofFields? (name params options : Option Json) : Option Invocation := do
  let name ← Json.required Json.string? name
  let params ← Json.optional [] Json.strings? params
  let options ← Json.optional [] optionsOfJson? options
  pure { name, params, options }

/-- The members that write an invocation. -/
def toMembers (i : Invocation) : List (String × Json) :=
  [("name", .string i.name), ("params", .ofStrings i.params), ("options", .ofPairs i.options)]

end Invocation

namespace Expression

/-- The kind that an expression is tagged with, and the document of its fields. -/
def untag? (nested : Bool) : Json → Option (ExpressionKind × Json)
  | .object members =>
    match members.filter fun member => member.1 == "type" with
    | [(_, tag)] => do
      let kind ← ExpressionKind.ofJson? nested tag
      pure (kind, .object (members.filter fun member => member.1 != "type"))
    | _ => none
  | .array (tag :: items) => do
    let kind ← ExpressionKind.ofJson? nested tag
    pure (kind, .array items)
  | _ => none

/-- A second condition with its body from its fields, where `body?` reads a body. -/
def branchOfJson? (body? : Json → Option (List Expression)) (j : Json) :
    Option (Invocation × List Expression) := do
  match ← j.fields? (ExpressionKind.fields .ifNot) with
  | [name, params, options, elements] =>
    let i ← Invocation.ofFields? name params options
    let body ← Json.optional [] body? elements
    pure (i, body)
  | _ => none

/-- An expression of a kind from its fields, where `body?` reads a body. -/
def ofFields? (body? : Json → Option (List Expression)) (kind : ExpressionKind) (j : Json) :
    Option Expression := do
  match kind, ← j.fields? kind.fields with
  | .call, [name, params, options] =>
    let i ← Invocation.ofFields? name params options
    pure (.call i)
  | .bind, [name, params, options, elements] =>
    let i ← Invocation.ofFields? name params options
    let body ← Json.optional [] body? elements
    pure (.bind i body)
  | .ifNot, [name, params, options, elements] =>
    let i ← Invocation.ofFields? name params options
    let body ← Json.optional [] body? elements
    pure (.ifNot i body)
  | .ifElse, [name, params, options, elements, elsif, otherwise] =>
    let i ← Invocation.ofFields? name params options
    let body ← Json.optional [] body? elements
    let elsif ← Json.optional none (Json.nullable (branchOfJson? body?)) elsif
    let otherwise ← Json.optional none (Json.nullable body?) otherwise
    pure (.ifElse i body elsif otherwise)
  | _, _ => none

/-- The expressions that an array writes. Each level of bodies takes one unit of fuel. -/
def listOfJson? : Nat → Bool → Json → Option (List Expression)
  | fuel + 1, nested, .array items =>
    items.mapM fun item => do
      let (kind, fields) ← untag? nested item
      ofFields? (listOfJson? fuel true) kind fields
  | _, _, _ => none

mutual

/-- The document of an expression. -/
def toJson : Expression → Json
  | .call i => .object (("type", .string "call") :: i.toMembers)
  | .bind i body =>
    .object (("type", .string "do") :: (i.toMembers ++ [("elements", .array (toJsonList body))]))
  | .ifNot i body =>
    .object
      (("type", .string "unless") :: (i.toMembers ++ [("elements", .array (toJsonList body))]))
  | .ifElse i body elsif otherwise =>
    .object (("type", .string "if") :: (i.toMembers ++ [("elements", .array (toJsonList body))] ++
      toJsonBranch elsif ++ toJsonElse otherwise))

/-- The documents of expressions. -/
def toJsonList : List Expression → List Json
  | [] => []
  | e :: rest => toJson e :: toJsonList rest

/-- The member for a second condition. -/
def toJsonBranch : Option (Invocation × List Expression) → List (String × Json)
  | none => []
  | some (i, body) =>
    [("elsif", .object (i.toMembers ++ [("elements", .array (toJsonList body))]))]

/-- The member for a last block. -/
def toJsonElse : Option (List Expression) → List (String × Json)
  | none => []
  | some body => [("else", .array (toJsonList body))]

end

end Expression

namespace Fix

/-- The fix that a document writes. No document is nested deeper than the fuel allows. -/
def ofJson? (j : Json) : Option Fix := Expression.listOfJson? Json.maxDepth false j

/-- The document of a fix. -/
def toJson (fix : Fix) : Json := .array (Expression.toJsonList fix)

/-- The fix that a text writes. -/
def parse? (text : String) : Option Fix := (Json.parse? text).bind ofJson?

end Fix

end RecordFix
