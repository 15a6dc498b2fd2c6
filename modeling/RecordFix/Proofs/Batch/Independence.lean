import Mathlib.Data.List.Basic
import RecordFix.Proofs.Batch.Accounting
import RecordFix.Proofs.Fix.Isolation
import RecordFix.Proofs.Path.Direct

/-!
# Records do not leak into each other

If the fix passes nothing on and a failure does not end the run, what comes out of a record that has
its identifier does not depend on the records before it: it is what comes out of the record alone
(`Batch.emitted_run_eq_filterMap`). So the records may be divided up and put into another order, and
what is passed on is divided and ordered in the same way (`Batch.emitted_run_append`).
-/

namespace RecordFix

/-- The record has the virtual field that identifies it. -/
def Record.Identified (record : Record) : Prop :=
  Entries.has record.virtualFields Record.idField = true

namespace Batch

variable {b : Batch}

/-- What is passed on of a record that comes first in a session. -/
def result? (b : Batch) (session : Session) (record : Record) : Option Record :=
  let left := b.transform record session
  if b.passes left then some left.value.record else none

theorem identify_of_identified {record : Record} (h : record.Identified) (index : Nat) :
    b.identify index record = record := by
  have hliteral : (FieldPattern.ofString Record.idField).isLiteral := by decide +kernel
  have hmatch : record.virtualFields.hasMatch Record.idField = true := by
    obtain ⟨field, hfield, hname⟩ := List.any_eq_true.mp h
    have hmem : field ∈ record.virtualFields.matching Record.idField := by
      rw [Hash.matching_of_isLiteral hliteral]
      exact List.mem_filter.mpr ⟨hfield, by rw [beq_iff_eq.mp hname, beq_self_eq_true]⟩
    simpa [Hash.hasMatch] using List.ne_nil_of_mem hmem
  rw [identify, if_pos hmatch]

theorem passes_of_alike {r : Session} {left right : Edited State} (h : left.Alike r right) :
    b.passes left = b.passes right := by
  rw [passes, passes, Edited.succeeded, Edited.succeeded, h.error, h.value.record]

/-- What is passed on of the records is what is passed on of each of them alone. -/
theorem filter_transforms {r session : Session} (hb : Isolated r (b.fix.run b.extensions))
    (hsession : r.Agrees session) (index : Nat) (records : List Record)
    (hid : ∀ record ∈ records, record.Identified) :
    ((b.transforms index records session).filter b.passes).map (·.value.record) =
      records.filterMap (b.result? r) := by
  induction records generalizing index session with
  | nil => rfl
  | cons record rest ih =>
    rw [List.forall_mem_cons] at hid
    have hleft : (b.transform record session).Alike r (b.transform record r) :=
      hb ⟨session, record⟩ ⟨r, record⟩ ⟨hsession, .refl r, rfl⟩
    have hrest := ih hleft.value.left (index + 1) hid.2
    rw [transforms, identify_of_identified hid.1, List.filter_cons, passes_of_alike hleft,
      List.filterMap_cons, result?]
    split
    · rw [List.map_cons, hrest, hleft.value.record]
    · exact hrest

/-- A run over many records that have their identifiers passes on what each of them gives alone. -/
theorem emitted_run_eq_filterMap {session : Session}
    (hb : Isolated session (b.fix.run b.extensions)) (hpolicy : b.config.onError ≠ .halt)
    {records : List Record} (hid : ∀ record ∈ records, record.Identified) :
    (b.run records session).error = none ∧
      (b.run records session).emitted = records.filterMap (b.result? session) := by
  rcases b.ends_run records session with ⟨h, hdone⟩ | ⟨_, _, _, _, hhalt, _⟩
  · exact ⟨hdone, h.emitted.trans (filter_transforms hb (.refl session) 0 records hid)⟩
  · exact absurd hhalt hpolicy

/-- Records do not leak into each other. If the fix passes nothing on, there are no extensions and a
failure does not end the run, then what is passed on of records that have their identifiers is put
together from what is passed on of each of them alone. -/
theorem emitted_run_append (b : Batch) (hfix : b.fix.PassesNothingOn) (he : b.extensions = {})
    (hpolicy : b.config.onError ≠ .halt) (session : Session) (rs ss : List Record)
    (hrs : ∀ record ∈ rs, record.Identified) (hss : ∀ record ∈ ss, record.Identified) :
    let emitted (records : List Record) := (b.run records session).emitted
    (b.run (rs ++ ss) session).error = none ∧
      emitted (rs ++ ss) = emitted rs ++ emitted ss ∧
      emitted rs = rs.flatMap (fun record => emitted [record]) ∧
      (rs.Perm ss → (emitted rs).Perm (emitted ss)) := by
  intro emitted
  have hb : Isolated session (b.fix.run b.extensions) := by
    rw [he]
    exact Fix.isolated_run hfix session
  have hall : ∀ record ∈ rs ++ ss, record.Identified := List.forall_mem_append.mpr ⟨hrs, hss⟩
  have hemitted {records : List Record} (hid : ∀ record ∈ records, record.Identified) :
      emitted records = records.filterMap (b.result? session) :=
    (emitted_run_eq_filterMap hb hpolicy hid).2
  refine ⟨(emitted_run_eq_filterMap hb hpolicy hall).1, ?_, ?_, fun hperm => ?_⟩
  · rw [hemitted hall, hemitted hrs, hemitted hss, List.filterMap_append]
  · rw [hemitted hrs, List.filterMap_eq_flatMap_toList]
    refine List.flatMap_congr fun record hrecord => ?_
    rw [hemitted (List.forall_mem_singleton.mpr (hrs record hrecord)), List.filterMap_cons]
    cases b.result? session record <;> rfl
  · rw [hemitted hrs, hemitted hss]
    exact hperm.filterMap _

/-- Translates a language with a table that is read from a file at the first record. -/
def languageSample : Batch where
  fix := [.ofCall "lookup" ["lang", "lang.tsv"], .ofCall "upcase" ["title"]]
  config := { onError := .emit }

/-- A session in which the table is still to be read. -/
def languageSession : Session where
  baseDir := some "/maps"
  files := { entry := fun path =>
    if path = "/maps/lang.tsv" then .file "ger\tGerman".toUTF8.toList else .missing }

/-- The first record fails after it has read the table, the second one finds it read. -/
theorem emitted_run_append_languageSample :
    let first : Record := (Record.ofFields [("lang", .string "ger"), ("title", .ofStrings [])])
    let second : Record := Record.ofFields [("lang", .string "ger"), ("title", .string "b")]
    let rs := [first.putVirtual "_id" (.string "1")]
    let ss := [second.putVirtual "_id" (.string "2")]
    let emitted (records : List Record) := (languageSample.run records languageSession).emitted
    ((languageSample.run rs languageSession).session.maps.names = ["lang.tsv"] ∧
      (emitted ss).map (·.fields) = [[("lang", .string "German"), ("title", .string "B")]]) ∧
      emitted (rs ++ ss) = emitted rs ++ emitted ss := by
  intro first second rs ss emitted
  have hfix : languageSample.fix.PassesNothingOn := by
    intro i hi
    simp only [languageSample, Expression.ofCall, Expression.nodesOf, Expression.nodes,
      List.mem_append, List.mem_singleton, Expression.call.injEq, List.not_mem_nil, or_false] at hi
    rcases hi with rfl | rfl <;> decide
  refine ⟨⟨by decide +kernel, by decide +kernel⟩, ?_⟩
  exact (emitted_run_append languageSample hfix rfl (by decide) languageSession rs ss
    (List.forall_mem_singleton.mpr rfl) (List.forall_mem_singleton.mpr rfl)).2.1

end Batch

end RecordFix
