import RecordFix.Fix.Collections
import RecordFix.Fix.Format
import RecordFix.Fix.Strings
import RecordFix.Fix.Tables

/-!
# Built-in functions

The functions that a fix can call without a host's help. Most take the path of the values to work on
as their first parameter. Parameters are read before anything changes, so that a call which lacks
one leaves everything as it is.
-/

namespace RecordFix

/-- A built-in function. -/
inductive Builtin where
  | addField | setField | setArray | setHash | copyField | moveField | removeField | retain | vacuum
  | reject | nothing | rename | random | paste | hash | array
  | append | prepend | upcase | downcase | capitalize | trim | replaceAll | substring | index
  | format | parseText
  | count | filter | joinField | splitField | sortField | sum | uniq | reverse | flatten
  | putMap | putFilemap | putVar | putVars | lookup
  deriving DecidableEq, Repr

namespace Builtin

/-- All functions. -/
def all : List Builtin :=
  [.addField, .setField, .setArray, .setHash, .copyField, .moveField, .removeField, .retain,
    .vacuum, .reject, .nothing, .rename, .random, .paste, .hash, .array, .append, .prepend,
    .upcase, .downcase, .capitalize, .trim, .replaceAll, .substring, .index, .format, .parseText,
    .count, .filter, .joinField, .splitField, .sortField, .sum, .uniq, .reverse, .flatten,
    .putMap, .putFilemap, .putVar, .putVars, .lookup]

/-- The name of a function. -/
def name : Builtin → String
  | .addField => "add_field"
  | .setField => "set_field"
  | .setArray => "set_array"
  | .setHash => "set_hash"
  | .copyField => "copy_field"
  | .moveField => "move_field"
  | .removeField => "remove_field"
  | .retain => "retain"
  | .vacuum => "vacuum"
  | .reject => "reject"
  | .nothing => "nothing"
  | .rename => "rename"
  | .random => "random"
  | .paste => "paste"
  | .hash => "hash"
  | .array => "array"
  | .append => "append"
  | .prepend => "prepend"
  | .upcase => "upcase"
  | .downcase => "downcase"
  | .capitalize => "capitalize"
  | .trim => "trim"
  | .replaceAll => "replace_all"
  | .substring => "substring"
  | .index => "index"
  | .format => "format"
  | .parseText => "parse_text"
  | .count => "count"
  | .filter => "filter"
  | .joinField => "join_field"
  | .splitField => "split_field"
  | .sortField => "sort_field"
  | .sum => "sum"
  | .uniq => "uniq"
  | .reverse => "reverse"
  | .flatten => "flatten"
  | .putMap => "put_map"
  | .putFilemap => "put_filemap"
  | .putVar => "put_var"
  | .putVars => "put_vars"
  | .lookup => "lookup"

/-- The function of this name. -/
def named? (name : String) : Option Builtin := all.find? fun f => f.name == name

theorem name_of_named? {text : String} {f : Builtin} (h : named? text = some f) :
    f.name = text := by
  unfold named? at h
  simpa using List.find?_some h

/-- The path of the whole record. -/
def wholeRecord : String := "."

/-- Adds values at a path one after the other until that fails. -/
def appendEach (path : Path) : List String → Hash → Edited Hash
  | [], fields => ⟨fields, none⟩
  | text :: rest, fields => (fields.appendPath path (.string text)).andThen (appendEach path rest)

/-- Sets an array of values, or adds them one by one at the end of an array. -/
def putArray (path : String) (values : List String) (fields : Hash) : Edited Hash :=
  if Path.appendSegment.toList.isSuffixOf path.toList then
    appendEach (Path.ofString path) values fields
  else fields.setPath (Path.ofString path) (.ofStrings values)

/-- The texts that a source of `paste` stands for: what follows a tilde, or the strings at a
path. -/
def pasted (record : Record) (source : String) : List String :=
  match source.toList with
  | '~' :: text => [.ofList text]
  | _ => ((record.find (Path.ofString source)).map Value.strings).getD []

/-- What a call does, once its parameters have been read. -/
def outcome (f : Builtin) (params : List String) (options : Options) (s : State) :
    Except FixError (Edited State) := do
  let arg (index : Nat) : Except FixError String := Arguments.param f.name params index
  match f with
  | .addField =>
    let path ← arg 0
    let text ← arg 1
    pure (s.editFields (·.appendPath (Path.ofString path) (.string text)))
  | .setField =>
    let path ← arg 0
    let text ← arg 1
    pure (s.editFields (·.setPath (Path.ofString path) (.string text)))
  | .setArray =>
    let path ← arg 0
    pure (s.editFields (putArray path params.tail))
  | .setHash =>
    let path ← arg 0
    let fields : Hash := options.map fun (key, text) => (key, Value.string text)
    pure (s.editFields (·.setPath (Path.ofString path) (.hash fields)))
  | .copyField =>
    let source ← arg 0
    let target ← arg 1
    pure (s.editRecord (·.copy (Path.ofString source) (Path.ofString target)))
  | .moveField =>
    let source ← arg 0
    let target ← arg 1
    let path := Path.ofString source
    pure ((s.editRecord (·.copy path (Path.ofString target))).andThen
      fun s => s.editFields fun fields => ⟨fields.removePath path, none⟩)
  | .removeField =>
    let remove (fields : Hash) (path : String) : Hash := fields.removePath (Path.ofString path)
    pure (s.editFields fun fields => ⟨params.foldl remove fields, none⟩)
  | .retain => pure (s.editRecord fun record => ⟨record.retain params, none⟩)
  | .vacuum => pure (s.editFields fun fields => ⟨fields.removeEmpty, none⟩)
  | .reject => pure (s.editRecord fun record => ⟨{ record with rejected := true }, none⟩)
  | .nothing => pure ⟨s, none⟩
  | .rename =>
    let path ← arg 0
    let search ← arg 1
    let replacement ← arg 2
    let pattern ← Arguments.pattern search
    let rename := pattern.replaceAll (Template.ofReplacement replacement)
    if path = wholeRecord then
      pure (s.editFields fun fields => ⟨Strings.renameHash rename fields, none⟩)
    else pure (s.replace path fun v => .ok (Strings.rename rename v))
  | .random =>
    let path ← arg 0
    let limit ← arg 1
    let bound ← Arguments.integer limit
    if bound ≤ 0 then
      throw (.invalidArgument "random" ("bound must be positive: " ++ toString bound))
    let (n, session) := s.session.draw bound.toNat
    pure ({ s with session }.editFields
      (·.setPath (Path.ofString path) (.string (toString n))))
  | .paste =>
    let path ← arg 0
    let between := (Entries.get? options "join_char").getD " "
    let text := between.intercalate (params.tail.flatMap (pasted s.record))
    pure (s.editFields (·.setPath (Path.ofString path) (.string text)))
  | .hash =>
    let path ← arg 0
    pure (s.replace path Collections.toHash)
  | .array =>
    let path ← arg 0
    pure (s.replace path Collections.toArray)
  | .append =>
    let text ← arg 1
    let path ← arg 0
    pure (s.replaceStrings path (· ++ text))
  | .prepend =>
    let text ← arg 1
    let path ← arg 0
    pure (s.replaceStrings path (text ++ ·))
  | .upcase =>
    let path ← arg 0
    pure (s.replaceStrings path (Strings.onText Text.upcase))
  | .downcase =>
    let path ← arg 0
    pure (s.replaceStrings path (Strings.onText Text.downcase))
  | .capitalize =>
    let path ← arg 0
    pure (s.replaceStrings path (Strings.onText Text.capitalize))
  | .trim =>
    let path ← arg 0
    pure (s.replaceStrings path trimBlanks)
  | .replaceAll =>
    let search ← arg 1
    let pattern ← Arguments.pattern search
    let replacement ← arg 2
    let path ← arg 0
    pure (s.replaceStrings path (pattern.replaceAll (Template.ofReplacement replacement)))
  | .substring =>
    let first ← arg 1
    let start ← Arguments.integer first
    let last ← arg 2
    let stop ← Arguments.integer last
    let path ← arg 0
    pure (s.replaceStrings path (Strings.substring start stop))
  | .index =>
    let needle ← arg 1
    let path ← arg 0
    pure (s.replaceStrings path fun t => toString (Strings.index needle t))
  | .format =>
    let text ← arg 1
    let path ← arg 0
    pure (s.replace path fun v => (Format.format text v.strings).map .string)
  | .parseText =>
    let path ← arg 0
    let search ← arg 1
    let pattern ← Arguments.pattern search
    pure (s.replace path fun v => v.asString.map (Strings.parse pattern))
  | .count =>
    let path ← arg 0
    pure (s.replace path fun v => .ok (.string (toString (Collections.count v))))
  | .filter =>
    let search ← arg 1
    let pattern ← Arguments.pattern search
    let path ← arg 0
    let invert := options.isTrue "invert"
    pure (s.replace path fun v => .ok (Collections.filter pattern.occursIn invert v))
  | .joinField =>
    let between := (params[1]?).getD ""
    let path ← arg 0
    pure (s.replace path fun v => .ok (.string (between.intercalate v.strings)))
  | .splitField =>
    let search ← arg 1
    let pattern ← Arguments.pattern search
    let path ← arg 0
    pure (s.replace path fun v => .ok (Strings.split pattern v))
  | .sortField =>
    let path ← arg 0
    let numeric := options.isTrue "numeric"
    let reverse := options.isTrue "reverse"
    let uniq := options.isTrue "uniq"
    pure (s.replace path (Collections.sort numeric reverse uniq))
  | .sum =>
    let path ← arg 0
    pure (s.replace path fun v =>
      (Collections.sum v).map fun n => .string (toString n))
  | .uniq =>
    let path ← arg 0
    pure (s.replace path fun v => .ok (.array (Value.unique v.toList)))
  | .reverse =>
    let path ← arg 0
    pure (s.replace path Collections.reverse)
  | .flatten =>
    let path ← arg 0
    pure (s.replace path fun v => .ok (.array (Value.flatten v.toList)))
  | .putMap =>
    let mapName ← arg 0
    let session := { s.session with maps := Entries.put s.session.maps mapName (.table options) }
    pure ⟨{ s with session }, none⟩
  | .putFilemap =>
    let path ← arg 0
    let mapFormat ← Tables.format options
    let session ← Tables.load s.session ((params[1]?).getD path) path mapFormat
    pure ⟨{ s with session }, none⟩
  | .putVar =>
    let target ← arg 0
    let text ← arg 1
    pure ⟨{ s with session := s.session.putVar target text }, none⟩
  | .putVars =>
    let put (session : Session) (o : String × String) : Session := session.putVar o.1 o.2
    pure ⟨{ s with session := options.foldl put s.session }, none⟩
  | .lookup =>
    let path ← arg 0
    let (table, session) ← Tables.source s.session (params[1]?) options
    pure ({ s with session }.transform path (Tables.translate table (options.isTrue "delete")))

/-- Carries out a call. -/
def apply (f : Builtin) (params : List String) (options : Options) (s : State) : Edited State :=
  .attempt s (f.outcome params options s)

end Builtin

end RecordFix
