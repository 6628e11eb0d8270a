import CrossBench.Proofs.Decimal.Shortest
import CrossBench.Proofs.Json.RoundTrip
import CrossBench.Report.Document
import Mathlib.Data.List.Forall2

/-!
# What a reader finds in a document

The document of a run, read back: `Document.Describes datum reports` says that a
datum holds exactly these suites in this order, and what can be looked up in it
about each of them and each of their results.  `describes_ofSuites` is the
statement that the document of any reports is read as a datum that describes them,
whatever characters stand in their texts, and `distinct_ofSuites` that no object
in it has one key twice.  A double is read as `Datum.Represents` says, which does not
mention the writer: as the shortest decimal that rounds to it, and as `null` if it is
no number.  `Document.Shows text reports` says both of what a reader
gets from a text, and `shows_ofSuites` that it is so for what is written.
-/

namespace CrossBench

namespace Json

/-- The value of a key in an object: that of the first field with this key. -/
def Datum.field? (key : String) : Datum → Option Datum
  | .object fields => fields.lookup key
  | _ => none

/-- No object in a datum has one key twice. -/
inductive Datum.Distinct : Datum → Prop
  | null : Distinct .null
  | bool (b : Bool) : Distinct (.bool b)
  | number (negative : Bool) (value : Decimal.Scientific) : Distinct (.number negative value)
  | string (s : String) : Distinct (.string s)
  | array {items : List Datum} : (∀ item ∈ items, item.Distinct) → Distinct (.array items)
  | object {fields : List (String × Datum)} : (fields.map Prod.fst).Nodup →
      (∀ field ∈ fields, field.2.Distinct) → Distinct (.object fields)

/-- **That a datum stands for a double.**  For a finite double it is a number of the same sign,
and of all decimals that round to the double the shortest one; for all others it is `null`. -/
structure Datum.Represents (datum : Datum) (x : Float) : Prop where
  finite : ∀ s v, Doubles.Reads x s v →
    ∃ value, datum = .number (Doubles.isMinus s) value ∧ Decimal.Shortest v value.magnitude
  other : (∀ s v, ¬ Doubles.Reads x s v) → datum = .null

namespace Value

/-- **A double that is written is represented** by what is read. -/
theorem datum_represents (x : Float) : (Value.number x).datum.Represents x := by
  have read := word?_numeral x
  constructor
  · intro s v reads
    obtain ⟨m, q, found, rfl⟩ := Decimal.ofFloat_of_reads reads
    rw [found] at read
    obtain ⟨value, read, same⟩ := read
    refine ⟨value, by rw [datum, read, Option.getD_some], ?_⟩
    -- the word is that of the shortest decimal, or of zero
    rw [same.magnitude_eq]
    split
    next zero =>
      rw [zero, Nat.cast_zero, zero_mul, Decimal.magnitude_mk, Nat.cast_zero, zero_mul]
      exact Decimal.shortest_zero
    next some =>
      exact Decimal.shortest_shortest (Doubles.canonical_of_ofBits found)
        (Nat.pos_of_ne_zero some)
  · intro none
    split at read
    next found =>
      obtain ⟨s, v, reads⟩ := Decimal.reads_of_ofFloat found
      exact absurd reads (none s v)
    next => rw [datum, read, Option.getD_some]

/-! ## Distinct keys

A reader may take the first of two fields with one key or the last.  There is nothing to
choose if there are no two.
-/

theorem distinct_number (x : Float) : (Value.number x).datum.Distinct := by
  obtain ⟨finite, other⟩ := datum_represents x
  by_cases reads : ∃ s v, Doubles.Reads x s v
  · obtain ⟨s, v, reads⟩ := reads
    obtain ⟨value, found, -⟩ := finite s v reads
    exact found ▸ .number _ _
  · exact other (fun s v h => reads ⟨s, v, h⟩) ▸ .null

theorem itemData_eq_map (items : List Value) : itemData items = items.map datum := by
  induction items with
  | nil => rfl
  | cons item rest ih => rw [itemData, ih, List.map_cons]

/-- The fields of an object are read one by one, under their keys. -/
theorem fieldData_eq_map (fields : List (String × Value)) :
    fieldData fields = fields.map fun (key, value) => (key, value.datum) := by
  induction fields with
  | nil => rfl
  | cons field rest ih => rw [fieldData, ih, List.map_cons]

/-- In an array keys are as distinct as in its items. -/
theorem distinct_array {items : List Value}
    (inner : ∀ item ∈ items, item.datum.Distinct) :
    (Value.array items).datum.Distinct := by
  rw [datum, itemData_eq_map]
  refine .array fun item mem => ?_
  obtain ⟨value, listed, rfl⟩ := List.mem_map.mp mem
  exact inner value listed

/-- In an object keys are distinct if its own are, and those in its fields. -/
theorem distinct_object {fields : List (String × Value)}
    (keys : (fields.map Prod.fst).Nodup)
    (inner : ∀ field ∈ fields, field.2.datum.Distinct) :
    (Value.object fields).datum.Distinct := by
  rw [datum, fieldData_eq_map]
  refine .object ?_ fun field mem => ?_
  · rwa [List.map_map]
  · obtain ⟨value, listed, rfl⟩ := List.mem_map.mp mem
    exact inner value listed

end Value

end Json

namespace Document

open Json (Datum Value)

/-- The keys of the statistics, with what stands behind them. -/
def statistics (s : Summary) : List (String × Float) :=
  [("min", s.min), ("max", s.max), ("mean", s.mean), ("median", s.median),
    ("stdev", s.stdev)]

/-- The keys that an object has if its result has a summary. -/
def summaryKeys : List String := ["min", "max", "mean", "median", "stdev", "samples"]

/-- What can be looked up in the object of a result.  The keys of the summary are
all there or all absent. -/
structure DescribesResult (datum : Datum) (result : FileResult) : Prop where
  file : datum.field? "file" = some (.string result.file)
  tag : datum.field? "tag" = some (.string result.tag.text)
  summary : ∀ key ∈ summaryKeys, (datum.field? key).isSome = result.summary.isSome
  statistics : ∀ s, result.summary = some s → ∀ entry ∈ statistics s,
    ∃ value, datum.field? entry.1 = some value ∧ value.Represents entry.2
  samples : datum.field? "samples" = result.summary.map (.nat ·.samples)
  failedRuns : datum.field? "failed_runs" = result.failedRuns.map .nat

/-- What can be looked up in the object of a suite. -/
structure DescribesSuite (datum : Datum) (report : SuiteReport) : Prop where
  name : datum.field? "name" = some (.string report.name)
  iterations : datum.field? "iterations" = some (.nat report.iterations.toNat)
  warmup : datum.field? "warmup" = some (.nat report.warmup.toNat)
  results : ∃ items, datum.field? "results" = some (.array items) ∧
    List.Forall₂ DescribesResult items report.results

/-- A datum holds these suites, in order. -/
def Describes (datum : Datum) (reports : List SuiteReport) : Prop :=
  ∃ items, datum.field? "suites" = some (.array items) ∧
    List.Forall₂ DescribesSuite items reports

theorem describesResult (result : FileResult) :
    DescribesResult (ofResult result).datum result := by
  obtain ⟨file, tag, summary, failedRuns⟩ := result
  cases summary with
  | none =>
      refine ⟨rfl, rfl, ?_, ?_, by cases failedRuns <;> rfl, by cases failedRuns <;> rfl⟩
      · intro key mem
        simp only [summaryKeys, List.mem_cons, List.not_mem_nil, or_false] at mem
        -- without a summary none of its keys is there
        rcases mem with rfl | rfl | rfl | rfl | rfl | rfl <;> cases failedRuns <;> rfl
      · intro s found
        cases found
  | some s =>
      refine ⟨rfl, rfl, ?_, ?_, rfl, by cases failedRuns <;> rfl⟩
      · intro key mem
        simp only [summaryKeys, List.mem_cons, List.not_mem_nil, or_false] at mem
        rcases mem with rfl | rfl | rfl | rfl | rfl | rfl <;> rfl
      · intro s' found entry mem
        cases found
        simp only [statistics, List.mem_cons, List.not_mem_nil, or_false] at mem
        rcases mem with rfl | rfl | rfl | rfl | rfl <;>
          exact ⟨_, rfl, Value.datum_represents _⟩

/-- What is written of a suite describes it, with its results in order. -/
theorem describesSuite (report : SuiteReport) :
    DescribesSuite (ofSuite report).datum report := by
  refine ⟨rfl, rfl, rfl, _, rfl, ?_⟩
  rw [Value.itemData_eq_map, List.map_map]
  exact List.forall₂_map_left_iff.mpr (List.forall₂_same.mpr fun _ _ => describesResult _)

/-- **The document of any reports describes them.** -/
theorem describes_ofSuites (reports : List SuiteReport) :
    Describes (ofSuites reports).datum reports := by
  refine ⟨_, rfl, ?_⟩
  rw [Value.itemData_eq_map, List.map_map]
  exact List.forall₂_map_left_iff.mpr (List.forall₂_same.mpr fun _ _ => describesSuite _)

/-- No key of a result is there twice, with statistics and without. -/
theorem distinct_ofResult (result : FileResult) : (ofResult result).datum.Distinct := by
  obtain ⟨file, tag, summary, failedRuns⟩ := result
  apply Value.distinct_object
  · -- which keys there are depends on two questions, not on the values
    have keys : ∀ summarized counted : Bool,
        (["file", "tag"] ++ (if summarized then summaryKeys else [])
          ++ if counted then ["failed_runs"] else []).Nodup := by decide
    cases summary with
    | none =>
        cases failedRuns with
        | none => exact keys false false
        | some failed => exact keys false true
    | some s =>
        cases failedRuns with
        | none => exact keys true false
        | some failed => exact keys true true
  · refine List.forall_mem_append.mpr ⟨List.forall_mem_append.mpr ⟨?_, ?_⟩, ?_⟩
    · exact List.forall_mem_cons.mpr ⟨.string _, List.forall_mem_singleton.mpr (.string _)⟩
    · cases summary with
      | none => exact fun _ mem => nomatch mem
      | some s =>
          intro field mem
          simp only [summaryFields, List.mem_cons, List.not_mem_nil, or_false] at mem
          -- five times and a count
          rcases mem with rfl | rfl | rfl | rfl | rfl | rfl
          all_goals first
            | exact Value.distinct_number _
            | exact .number _ _
    · cases failedRuns with
      | none => exact fun _ mem => nomatch mem
      | some failed => exact List.forall_mem_singleton.mpr (.number _ _)

theorem distinct_ofSuite (report : SuiteReport) : (ofSuite report).datum.Distinct := by
  apply Value.distinct_object
  · have keys : ["name", "iterations", "warmup", "results"].Nodup := by decide
    exact keys
  · have results : (Value.array (report.results.map ofResult)).datum.Distinct := by
      refine Value.distinct_array fun item mem => ?_
      obtain ⟨result, -, rfl⟩ := List.mem_map.mp mem
      exact distinct_ofResult result
    exact List.forall_mem_cons.mpr ⟨.string _, List.forall_mem_cons.mpr ⟨.number _ _,
      List.forall_mem_cons.mpr ⟨.number _ _, List.forall_mem_singleton.mpr results⟩⟩⟩

/-- **No object in a document has one key twice.** -/
theorem distinct_ofSuites (reports : List SuiteReport) :
    (ofSuites reports).datum.Distinct := by
  apply Value.distinct_object
  · have keys : ["suites"].Nodup := by decide
    exact keys
  · refine List.forall_mem_singleton.mpr (Value.distinct_array fun item mem => ?_)
    obtain ⟨report, -, rfl⟩ := List.mem_map.mp mem
    exact distinct_ofSuite report

/-- **That a text shows reports**: it is one JSON text, in which no object has one key twice,
and what a reader gets from it describes the reports. -/
def Shows (text : List UInt8) (reports : List SuiteReport) : Prop :=
  ∃ written datum, text = Utf8.encode written ∧ Json.read? written = some datum ∧
    datum.Distinct ∧ Describes datum reports

/-- **The document of any reports shows them**, with the line break behind it. -/
theorem shows_ofSuites (reports : List SuiteReport) :
    Shows (Utf8.encode ((ofSuites reports).pretty ++ "\n")) reports :=
  ⟨_, _, rfl, Json.read?_pretty_line _, distinct_ofSuites reports, describes_ofSuites reports⟩

end Document

end CrossBench
