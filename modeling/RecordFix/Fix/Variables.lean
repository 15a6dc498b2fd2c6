import RecordFix.Entries

/-!
# Variables in text

A variable is written as its name in brackets after a dollar sign. It stands for its value, which is
taken as it is: what looks like a variable in there means nothing. Unknown variables stay as
written.
-/

namespace RecordFix.Variables

/-- Where reading a text stands: outside a variable, after a dollar sign, or inside the brackets
with the name so far in reverse. -/
inductive Place where
  | outside
  | dollar
  | name (reversed : List Char)

/-- What is written so far of a variable that turns out to be none. -/
def Place.written : Place → List Char
  | .outside => []
  | .dollar => ['$']
  | .name reversed => '$' :: '[' :: reversed.reverse

/-- What a variable stands for. -/
def value (vars : Entries String) (name : List Char) : List Char :=
  match Entries.get? vars (.ofList name) with
  | some text => text.toList
  | none => '$' :: '[' :: (name ++ [']'])

/-- The rest of a text with variables replaced. -/
def resolveFrom (vars : Entries String) : Place → List Char → List Char
  | p, [] => p.written
  | .outside, c :: rest =>
    if c = '$' then resolveFrom vars .dollar rest else c :: resolveFrom vars .outside rest
  | .dollar, c :: rest =>
    if c = '[' then resolveFrom vars (.name []) rest
    else if c = '$' then '$' :: resolveFrom vars .dollar rest
    else '$' :: c :: resolveFrom vars .outside rest
  | .name reversed, c :: rest =>
    if c = ']' then value vars reversed.reverse ++ resolveFrom vars .outside rest
    else if c = '[' then
      match reversed with
      | '$' :: before => (Place.name before).written ++ resolveFrom vars (.name []) rest
      | _ => (Place.name reversed).written ++ '[' :: resolveFrom vars .outside rest
    else resolveFrom vars (.name (c :: reversed)) rest

/-- A text with variables replaced. -/
def resolve (vars : Entries String) (text : String) : String :=
  .ofList (resolveFrom vars .outside text.toList)

end RecordFix.Variables
