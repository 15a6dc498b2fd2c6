import RecordFix.Json.Token

/-!
# Documents from tokens

A builder takes the tokens one by one. It holds the arrays and objects that are open, innermost
first, the values that are complete, and what it expects next. A text may hold several documents in
a row; `parse?` accepts a text with exactly one.
-/

namespace RecordFix.Json

/-- An array or object that is open, with its content in reverse. -/
inductive Container where
  | array (items : List Json)
  | object (members : List (String × Json)) (key : String)

/-- What may come next: a value; the first item of an array or its end; the first key of an object
or its end; a key; the colon after a key; or what follows a value inside a container. -/
inductive Expected where
  | value
  | firstItem
  | firstKey (members : List (String × Json))
  | key (members : List (String × Json))
  | colon (members : List (String × Json)) (key : String)
  | follower

/-- The builder of documents. An open object that expects a key is held in what is expected. -/
structure Builder where
  expected : Expected := .value
  containers : List Container := []
  done : List Json := []

namespace Builder

/-- Gives a complete value to the innermost container, or to the finished documents. -/
def give (value : Json) (containers : List Container) (done : List Json) : Builder :=
  match containers with
  | [] => ⟨.value, [], value :: done⟩
  | .array items :: outer => ⟨.follower, .array (value :: items) :: outer, done⟩
  | .object members key :: outer =>
    ⟨.follower, .object ((key, value) :: members) key :: outer, done⟩

/-- How many arrays and objects are open. -/
def depth (b : Builder) : Nat :=
  b.containers.length +
    match b.expected with
    | .firstKey _ | .key _ | .colon _ _ => 1
    | _ => 0

/-- A token where a value may start. -/
def startValue (b : Builder) (t : Token) : Option Builder :=
  match t with
  | .scalar value => some (give value b.containers b.done)
  | .text s => some (give (.string s) b.containers b.done)
  | .openArray =>
    if b.depth < maxDepth then some ⟨.firstItem, .array [] :: b.containers, b.done⟩ else none
  | .openObject =>
    if b.depth < maxDepth then some ⟨.firstKey [], b.containers, b.done⟩ else none
  | _ => none

/-- Takes one more token. -/
def step (b : Builder) (t : Token) : Option Builder :=
  match b.expected with
  | .value => b.startValue t
  | .firstItem =>
    match t, b.containers with
    | .closeArray, .array items :: outer => some (give (.array items.reverse) outer b.done)
    | _, _ => b.startValue t
  | .firstKey members =>
    match t with
    | .closeObject => some (give (.object members.reverse) b.containers b.done)
    | .text key => some ⟨.colon members key, b.containers, b.done⟩
    | _ => none
  | .key members =>
    match t with
    | .text key => some ⟨.colon members key, b.containers, b.done⟩
    | _ => none
  | .colon members key =>
    match t with
    | .colon => some ⟨.value, .object members key :: b.containers, b.done⟩
    | _ => none
  | .follower =>
    match t, b.containers with
    | .comma, .array _ :: _ => some ⟨.value, b.containers, b.done⟩
    | .closeArray, .array items :: outer => some (give (.array items.reverse) outer b.done)
    | .comma, .object members _ :: outer => some ⟨.key members, outer, b.done⟩
    | .closeObject, .object members _ :: outer =>
      some (give (.object members.reverse) outer b.done)
    | _, _ => none

/-- The documents at the end of the text; none may be open. -/
def finish (b : Builder) : Option (List Json) :=
  match b.expected, b.containers with
  | .value, [] => some b.done.reverse
  | _, _ => none

end Builder

/-- The documents of a text, one after the other. -/
def documents? (text : List Char) : Option (List Json) := do
  let tokens ← tokens? text
  let builder ← tokens.foldlM Builder.step {}
  builder.finish

/-- The single document of a text. -/
def parse? (text : String) : Option Json :=
  match documents? text.toList with
  | some [document] => some document
  | _ => none

end RecordFix.Json
