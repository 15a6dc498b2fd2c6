import RecordFix.Batch.Config
import RecordFix.Fix.Interpreter

/-!
# Runs over many records

A fix is carried out on one record after the other, in one session. Each record that comes out is
passed on, unless it is rejected or the fix failed on it and the configuration says otherwise.
-/

namespace RecordFix

/-- How many records have been passed on and rejected, and the failed ones by index. -/
structure Summary where
  emitted : Nat := 0
  rejected : Nat := 0
  failed : List (Nat × FixError) := []

/-- The summary in one line. -/
def Summary.text (s : Summary) : String :=
  "Transformed: " ++ toString s.emitted ++ " records, " ++ toString s.rejected ++ " rejected, " ++
    toString s.failed.length ++ " failed"

/-- A fix with all that a run needs. -/
structure Batch where
  fix : Fix
  config : Config := {}
  extensions : Extensions := {}

/-- Where a run stands: the session, the records passed on, the summary, and the error that has
ended the run. -/
structure Batch.Progress where
  session : Session
  emitted : List Record := []
  summary : Summary := {}
  error : Option BatchError := none

namespace Batch

/-- Gives a record its identifier if it has none: the text of the field for it, or its number from
one. -/
def identify (b : Batch) (index : Nat) (record : Record) : Record :=
  if record.virtualFields.hasMatch Record.idField then record
  else
    let id :=
      match b.config.idField.bind record.get with
      | some (.string s) => s
      | _ => toString (index + 1)
    record.putVirtual Record.idField (.string id)

/-- Carries out the fix on a record. -/
def transform (b : Batch) (record : Record) (session : Session) : Edited State :=
  b.fix.run b.extensions ⟨session, record⟩

/-- Passes a record on unless it is rejected. -/
def emit (b : Batch) (record : Record) (p : Progress) : Progress :=
  if record.rejected && !b.config.emitRejected then
    { p with summary := { p.summary with rejected := p.summary.rejected + 1 } }
  else
    { p with
      emitted := p.emitted ++ [record]
      summary := { p.summary with emitted := p.summary.emitted + 1 } }

/-- Notes that the fix failed on a record. -/
def note (index : Nat) (e : FixError) (p : Progress) : Progress :=
  { p with summary := { p.summary with failed := p.summary.failed ++ [(index, e)] } }

/-- Takes one record. -/
def step (b : Batch) (index : Nat) (record : Record) (p : Progress) : Progress :=
  let done := b.transform (b.identify index record) p.session
  let p := { p with session := done.value.session }
  match done.error with
  | none => b.emit done.value.record p
  | some e =>
    match b.config.onError with
    | .halt => { p with error := some (.recordFailed index e) }
    | .skip => note index e p
    | .emit => b.emit done.value.record (note index e p)

/-- Takes records one after the other until an error ends the run. -/
def runFrom (b : Batch) : Nat → List Record → Progress → Progress
  | _, [], p => p
  | index, record :: rest, p =>
    let next := b.step index record p
    match next.error with
    | some _ => next
    | none => runFrom b (index + 1) rest next

/-- Carries out the fix on all records. -/
def run (b : Batch) (records : List Record) (session : Session) : Progress :=
  b.runFrom 0 records { session }

end Batch

end RecordFix
