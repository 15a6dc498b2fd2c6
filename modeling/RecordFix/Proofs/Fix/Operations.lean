import RecordFix.Fix.Extension
import RecordFix.Proofs.Path.Errors

/-!
# What built-in functions and predicates keep to

All built-in functions but `reject` leave the mark of rejection as it is (`Builtin.orderly_apply`),
and neither a function nor a predicate fails because a name stands for nothing
(`Builtin.ofData_apply`, `Predicate.gives_test`). Each function reads its parameters and then
carries out one edit of the state, so there is a lemma for reading and one for every sort of edit.
-/

namespace RecordFix

/-! ## Reading parameters and options -/

theorem Arguments.gives_param (operation : String) (params : List String) (index : Nat) :
    Gives (param operation params index) fun _ => True := by
  unfold param
  split <;> exact trivial

theorem Arguments.gives_integer (text : String) : Gives (integer text) fun _ => True := by
  unfold integer
  split <;> exact trivial

theorem Arguments.gives_pattern (text : String) : Gives (pattern text) fun _ => True := by
  unfold pattern
  split <;> exact trivial

/-- After a parameter has been read it may be any text. -/
theorem Arguments.gives_param_bind {β : Type} {operation : String} {params : List String}
    {index : Nat} {next : String → Except FixError β} {P : β → Prop}
    (hnext : ∀ text, Gives (next text) P) : Gives (param operation params index >>= next) P :=
  gives_bind (gives_param _ _ _) fun text _ => hnext text

theorem Arguments.gives_integer_bind {β : Type} {text : String} {next : Int → Except FixError β}
    {P : β → Prop} (hnext : ∀ n, Gives (next n) P) : Gives (integer text >>= next) P :=
  gives_bind (gives_integer _) fun n _ => hnext n

theorem Arguments.gives_pattern_bind {β : Type} {text : String}
    {next : Pattern → Except FixError β} {P : β → Prop} (hnext : ∀ p, Gives (next p) P) :
    Gives (pattern text >>= next) P :=
  gives_bind (gives_pattern _) fun p _ => hnext p

/-! ## Functions on values -/

namespace Collections

theorem gives_addPairs (fields : Hash) (items : List Value) :
    Gives (addPairs fields items) fun _ => True := by
  fun_induction addPairs with
  | case1 fields name v rest ih => exact gives_bind name.gives_asString fun field _ => ih field
  | case2 => exact trivial

theorem gives_toHash (v : Value) : Gives (toHash v) fun _ => True := by
  refine gives_bind v.gives_asArray fun items _ => ?_
  dsimp only
  split
  · exact trivial
  · exact gives_bind (gives_addPairs [] items) fun _ _ => gives_pure trivial

theorem gives_toArray (v : Value) : Gives (toArray v) fun _ => True :=
  gives_bind v.gives_asHash fun _ _ => gives_pure trivial

theorem gives_addTo (sum : Int) (v : Value) : Gives (addTo sum v) fun _ => True := by
  refine gives_bind v.gives_asString fun text _ => Arguments.gives_integer_bind fun n => ?_
  split <;> exact trivial

theorem gives_sum (v : Value) : Gives (sum v) fun _ => True := gives_foldlM gives_addTo _ _

theorem gives_sorted (numeric : Bool) (strings : List String) :
    Gives (sorted numeric strings) fun _ => True := by
  unfold sorted
  split
  · have hkeyed (text : String) : Gives (keyed text) fun _ => True :=
      Arguments.gives_integer_bind fun _ => gives_pure trivial
    exact gives_bind (gives_mapM hkeyed strings) fun _ _ => gives_pure trivial
  · exact trivial

theorem gives_sort (numeric reverse uniq : Bool) (v : Value) :
    Gives (sort numeric reverse uniq v) fun _ => True :=
  gives_bind (gives_mapM Value.gives_asString _) fun strings _ =>
    gives_bind (gives_sorted numeric strings) fun _ _ => gives_pure trivial

theorem gives_reverse (v : Value) : Gives (reverse v) fun _ => True := by
  cases v <;> exact trivial

end Collections

namespace Format

theorem gives_width (digits : List Char) : Gives (width digits) fun _ => True := by
  unfold width
  split
  · split <;> exact trivial
  · exact trivial

theorem gives_fill (left : Bool) (digits : List Char) (values : List String) :
    Gives (fill left digits values) fun _ => True := by
  cases values with
  | nil => exact trivial
  | cons value rest => exact gives_map (gives_width digits)

theorem gives_fillFrom (place : Place) (values : List String) (text : List Char) :
    Gives (fillFrom place values text) fun _ => True := by
  have hdirective {left : Bool} {digits : List Char} {values : List String} {rest : List Char}
      (ih : ∀ values, Gives (fillFrom .outside values rest) fun _ => True) :
      Gives (fill left digits values >>= fun filled =>
        fillFrom .outside filled.2 rest >>= fun after => pure (filled.1 ++ after))
        fun _ => True :=
    gives_bind (gives_fill left digits values) fun filled _ =>
      gives_bind (ih filled.2) fun _ _ => gives_pure trivial
  induction text generalizing place values with
  | nil => cases place <;> exact trivial
  | cons c rest ih =>
    cases place with
    | outside =>
      unfold fillFrom
      split
      · exact ih _ _
      · exact gives_map (ih _ _)
    | percent =>
      unfold fillFrom
      repeat' split
      · exact gives_map (ih _ _)
      · exact ih _ _
      · exact ih _ _
      · exact hdirective (ih .outside)
      · exact trivial
    | directive left digits =>
      unfold fillFrom
      repeat' split
      · exact ih _ _
      · exact hdirective (ih .outside)
      · exact trivial

theorem gives_format (text : String) (values : List String) :
    Gives (format text values) fun _ => True := gives_map (gives_fillFrom _ _ _)

end Format

namespace Tables

theorem gives_orDefault {α : Type} (options : Options) (name : String) (default : α)
    {read : String → Except FixError α} (hread : ∀ text, Gives (read text) fun _ => True) :
    Gives (orDefault options name default read) fun _ => True := by
  unfold orDefault
  split
  · exact hread _
  · exact trivial

theorem gives_separator (text : String) : Gives (separator text) fun _ => True := by
  unfold separator
  split
  · split <;> exact trivial
  · exact trivial

theorem gives_column (text : String) : Gives (column text) fun _ => True := by
  unfold column
  split <;> exact trivial

theorem gives_format (options : Options) : Gives (format options) fun _ => True :=
  gives_bind (gives_orDefault _ _ _ gives_separator) fun _ _ =>
    gives_bind (gives_orDefault _ _ _ gives_column) fun _ _ =>
      gives_bind (gives_orDefault _ _ _ gives_column) fun _ _ => gives_pure trivial

theorem gives_load (s : Session) (name path : String) (f : MapFormat) :
    Gives (load s name path f) fun _ => True := by
  unfold load
  split <;> exact trivial

theorem gives_source (s : Session) (name : Option String) (options : Options) :
    Gives (source s name options) fun _ => True := by
  unfold source
  split
  · exact trivial
  · split <;> exact trivial

theorem gives_translate (table : Option MapSource) (delete : Bool) (v : Value) :
    Gives (translate table delete v) fun _ => True := by
  refine gives_bind v.gives_asString fun key _ => ?_
  split <;> exact trivial

end Tables

/-! ## Edits of the state -/

namespace State

/-- The record is as much rejected as it was, and an error is about data. -/
structure Orderly (s : State) (left : Edited State) : Prop where
  rejected : left.value.record.rejected = s.record.rejected
  ofData : left.OfData

variable {s : State}

theorem orderly_andThen {left : Edited State} {next : State → Edited State}
    (hleft : s.Orderly left) (hnext : ∀ s', Orderly s' (next s')) :
    s.Orderly (left.andThen next) := by
  refine Edited.andThen_elim (fun _ => ?_) fun _ _ => hleft
  exact ⟨(hnext _).rejected.trans hleft.rejected, (hnext _).ofData⟩

/-- The session does not matter. -/
theorem Orderly.of_session {session : Session} {left : Edited State}
    (h : Orderly { s with session } left) : s.Orderly left := ⟨h.rejected, h.ofData⟩

theorem orderly_editRecord {f : Record → Edited Record}
    (hrejected : (f s.record).value.rejected = s.record.rejected)
    (hdata : (f s.record).OfData) : s.Orderly (s.editRecord f) := ⟨hrejected, hdata⟩

theorem orderly_editFields {f : Hash → Edited Hash} (hdata : (f s.record.fields).OfData) :
    s.Orderly (s.editFields f) := orderly_editRecord rfl (hdata.map _)

theorem orderly_copy (source target : Path) :
    s.Orderly (s.editRecord (·.copy source target)) :=
  orderly_editRecord rfl (s.record.ofData_copy source target)

theorem orderly_transform (path : String) {f : Value → Except FixError (Option Value)}
    (hf : ∀ v, Gives (f v) fun _ => True) : s.Orderly (s.transform path f) :=
  orderly_editFields (Hash.ofData_transform _ _ hf)

theorem orderly_replace (path : String) {f : Value → Except FixError Value}
    (hf : ∀ v, Gives (f v) fun _ => True) : s.Orderly (s.replace path f) :=
  orderly_transform path fun v => gives_map (hf v)

theorem orderly_replaceStrings (path : String) (f : String → String) :
    s.Orderly (s.replaceStrings path f) :=
  orderly_replace path fun v => gives_map v.gives_asString

end State

/-! ## Built-in functions and predicates -/

namespace Builtin

open Arguments State

theorem ofData_appendEach (path : Path) (texts : List String) (fields : Hash) :
    (appendEach path texts fields).OfData := by
  induction texts generalizing fields with
  | nil => exact Edited.ofData_of_none _
  | cons text rest ih => exact (fields.ofData_insert .append path _).andThen ih

theorem ofData_putArray (path : String) (values : List String) (fields : Hash) :
    (putArray path values fields).OfData := by
  unfold putArray
  split
  · exact ofData_appendEach _ _ _
  · exact fields.ofData_insert _ _ _

theorem gives_outcome {f : Builtin} (hf : f ≠ .reject) (params : List String) (options : Options)
    (s : State) : Gives (f.outcome params options s) s.Orderly := by
  have hset (path : Path) (v : Value) : s.Orderly (s.editFields (·.setPath path v)) :=
    orderly_editFields (Hash.ofData_insert _ _ _ _)
  cases f with
  | addField =>
    exact gives_param_bind fun _ => gives_param_bind fun _ =>
      gives_pure (orderly_editFields (Hash.ofData_insert _ _ _ _))
  | setField => exact gives_param_bind fun _ => gives_param_bind fun _ => gives_pure (hset _ _)
  | setArray =>
    exact gives_param_bind fun _ => gives_pure (orderly_editFields (ofData_putArray _ _ _))
  | setHash => exact gives_param_bind fun _ => gives_pure (hset _ _)
  | copyField =>
    exact gives_param_bind fun _ => gives_param_bind fun _ => gives_pure (orderly_copy _ _)
  | moveField =>
    exact gives_param_bind fun _ => gives_param_bind fun _ =>
      gives_pure (orderly_andThen (orderly_copy _ _) fun _ =>
        orderly_editFields (Edited.ofData_of_none _))
  | removeField => exact gives_pure (orderly_editFields (Edited.ofData_of_none _))
  | retain => exact gives_pure (orderly_editRecord rfl (Edited.ofData_of_none _))
  | vacuum => exact gives_pure (orderly_editFields (Edited.ofData_of_none _))
  | reject => exact absurd rfl hf
  | nothing => exact gives_pure ⟨rfl, Edited.ofData_of_none _⟩
  | rename =>
    refine gives_param_bind fun path => gives_param_bind fun _ => gives_param_bind fun _ =>
      gives_pattern_bind fun pattern => ?_
    by_cases hpath : path = wholeRecord
    · rw [if_pos hpath]
      exact gives_pure (orderly_editFields (Edited.ofData_of_none _))
    · rw [if_neg hpath]
      exact gives_pure (orderly_replace _ fun _ => trivial)
  | random =>
    refine gives_param_bind fun _ => gives_param_bind fun _ => gives_integer_bind fun bound => ?_
    by_cases hbound : bound ≤ 0
    · rw [if_pos hbound]
      exact trivial
    · rw [if_neg hbound]
      exact gives_pure (.of_session (orderly_editFields (Hash.ofData_insert _ _ _ _)))
  | paste => exact gives_param_bind fun _ => gives_pure (hset _ _)
  | hash => exact gives_param_bind fun _ => gives_pure (orderly_replace _ Collections.gives_toHash)
  | array =>
    exact gives_param_bind fun _ => gives_pure (orderly_replace _ Collections.gives_toArray)
  | append | prepend | index =>
    exact gives_param_bind fun _ => gives_param_bind fun _ =>
      gives_pure (orderly_replaceStrings _ _)
  | upcase | downcase | capitalize | trim =>
    exact gives_param_bind fun _ => gives_pure (orderly_replaceStrings _ _)
  | replaceAll =>
    exact gives_param_bind fun _ => gives_pattern_bind fun _ => gives_param_bind fun _ =>
      gives_param_bind fun _ => gives_pure (orderly_replaceStrings _ _)
  | substring =>
    exact gives_param_bind fun _ => gives_integer_bind fun _ => gives_param_bind fun _ =>
      gives_integer_bind fun _ => gives_param_bind fun _ =>
        gives_pure (orderly_replaceStrings _ _)
  | format =>
    exact gives_param_bind fun text => gives_param_bind fun _ =>
      gives_pure (orderly_replace _ fun v => gives_map (Format.gives_format text v.strings))
  | parseText =>
    exact gives_param_bind fun _ => gives_param_bind fun _ => gives_pattern_bind fun _ =>
      gives_pure (orderly_replace _ fun v => gives_map v.gives_asString)
  | count | joinField | uniq | flatten =>
    exact gives_param_bind fun _ => gives_pure (orderly_replace _ fun _ => trivial)
  | filter | splitField =>
    exact gives_param_bind fun _ => gives_pattern_bind fun _ => gives_param_bind fun _ =>
      gives_pure (orderly_replace _ fun _ => trivial)
  | sortField =>
    exact gives_param_bind fun _ =>
      gives_pure (orderly_replace _ (Collections.gives_sort _ _ _))
  | sum =>
    exact gives_param_bind fun _ =>
      gives_pure (orderly_replace _ fun v => gives_map (Collections.gives_sum v))
  | reverse =>
    exact gives_param_bind fun _ => gives_pure (orderly_replace _ Collections.gives_reverse)
  | putMap => exact gives_param_bind fun _ => gives_pure ⟨rfl, Edited.ofData_of_none _⟩
  | putFilemap =>
    exact gives_param_bind fun _ => gives_bind (Tables.gives_format options) fun _ _ =>
      gives_bind (Tables.gives_load _ _ _ _) fun _ _ =>
        gives_pure ⟨rfl, Edited.ofData_of_none _⟩
  | putVar =>
    exact gives_param_bind fun _ => gives_param_bind fun _ =>
      gives_pure ⟨rfl, Edited.ofData_of_none _⟩
  | putVars => exact gives_pure ⟨rfl, Edited.ofData_of_none _⟩
  | lookup =>
    exact gives_param_bind fun _ => gives_bind (Tables.gives_source _ _ _) fun found _ =>
      gives_pure (.of_session (orderly_transform _ (Tables.gives_translate found.1 _)))

/-- A built-in function other than `reject` leaves the mark of rejection as it is and fails with
errors about data only. -/
theorem orderly_apply {f : Builtin} (hf : f ≠ .reject) (params : List String) (options : Options)
    (s : State) : s.Orderly (f.apply params options s) := by
  have houtcome := gives_outcome hf params options s
  unfold apply
  cases heq : f.outcome params options s with
  | ok left =>
    rw [heq] at houtcome
    exact houtcome
  | error err =>
    rw [heq] at houtcome
    exact ⟨rfl, Edited.ofData_of_some _ houtcome⟩

theorem apply_reject (params : List String) (options : Options) (s : State) :
    Builtin.reject.apply params options s =
      ⟨{ s with record := { s.record with rejected := true } }, none⟩ := rfl

theorem ofData_apply (f : Builtin) (params : List String) (options : Options) (s : State) :
    (f.apply params options s).OfData := by
  by_cases hf : f = .reject
  · subst hf
    exact Edited.ofData_of_none _
  · exact (orderly_apply hf params options s).ofData

end Builtin

namespace Predicate

open Arguments

theorem gives_comparing (comparison : Comparison) (text : String) :
    Gives (comparing comparison text) fun _ => True := by
  cases comparison with
  | contain => exact trivial
  | equal => exact trivial
  | pattern => exact gives_map (gives_pattern _)

/-- A built-in predicate fails with errors about data only. -/
theorem gives_test (p : Predicate) (record : Record) (params : List String) :
    Gives (p.test record params) fun _ => True := by
  refine gives_param_bind fun path => ?_
  cases p with
  | compares quantifier comparison =>
    exact gives_param_bind fun text =>
      gives_bind (gives_comparing comparison text) fun _ _ => gives_pure trivial
  | isPresent | hasKind | isEmpty | isNumber | isTrue | isFalse => exact gives_pure trivial

end Predicate

/-! ## A host with a function and a predicate -/

namespace Extensions

/-- Makes strings loud. -/
def shout : ExtensionFunction :=
  fun params _ s => s.replaceStrings (params.headD "") (· ++ "!")

/-- Whether there is more than one parameter. -/
def several : ExtensionPredicate := fun params _ _ => .ok (params.length > 1)

/-- A host that adds a function and a predicate. -/
def loudSample : Extensions where
  functions := [("text.shout", shout)]
  predicates := [("text.several", several)]

theorem function_loudSample {name : String} {f : ExtensionFunction}
    (h : loudSample.function name = .ok f) : f = shout := lookUp_singleton h

theorem predicate_loudSample {name : String} {p : ExtensionPredicate}
    (h : loudSample.predicate name = .ok p) : p = several := lookUp_singleton h

end Extensions

end RecordFix
