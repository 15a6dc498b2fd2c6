import RecordFix.Value.Basic

/-!
# Sameness of values

Two values are the same if they differ at most in the order of the fields of hashes, at any depth.
The order of the items of an array counts.
-/

namespace RecordFix

namespace Value

mutual

/-- Whether two values are the same up to the order of fields. -/
def same : Value → Value → Bool
  | .string s, w =>
    match w with
    | .string t => s == t
    | _ => false
  | .array items, w =>
    match w with
    | .array others => sameItems items others
    | _ => false
  | .hash fields, w =>
    match w with
    | .hash others => fields.length == others.length && sameFields fields others
    | _ => false

/-- Whether the items are the same one by one. -/
def sameItems : List Value → List Value → Bool
  | [], others => others.isEmpty
  | v :: rest, others =>
    match others with
    | [] => false
    | w :: more => same v w && sameItems rest more

/-- Whether each of the fields is the same among the others. -/
def sameFields : List (String × Value) → List (String × Value) → Bool
  | [], _ => true
  | (name, v) :: rest, others =>
    (match others.lookup name with
      | some w => same v w
      | none => false) && sameFields rest others

end

/-- The values without those that are the same as an earlier one; `kept` holds the earlier ones. -/
def uniqueAfter (kept : List Value) : List Value → List Value
  | [] => []
  | v :: rest =>
    if kept.any (·.same v) then uniqueAfter kept rest else v :: uniqueAfter (kept ++ [v]) rest

/-- The first occurrence of each value. -/
def unique (values : List Value) : List Value := uniqueAfter [] values

end Value

/-- Whether two hashes have the same fields, in any order. -/
def Hash.same (a b : Hash) : Bool := (Value.hash a).same (.hash b)

end RecordFix
