import CrossBench.Json.Value
import CrossBench.Report.Event

/-!
# The report as one document

The whole run as a JSON object: the suites in order, and in each the results in order. The
statistics of a file are fields of its own object, all of them or none; the count of failed runs is
there only if it was asked for.
-/

namespace CrossBench.Document

open Json (Value)

/-- The fields of a summary. -/
def summaryFields (s : Summary) : List (String × Value) :=
  [("min", .number s.min), ("max", .number s.max), ("mean", .number s.mean),
    ("median", .number s.median), ("stdev", .number s.stdev), ("samples", .nat s.samples)]

/-- The object of a file. -/
def ofResult (result : FileResult) : Value :=
  .object
    ([("file", .string result.file), ("tag", .string result.tag.text)]
      ++ (match result.summary with
        | none => []
        | some s => summaryFields s)
      ++ match result.failedRuns with
        | none => []
        | some failed => [("failed_runs", .nat failed)])

/-- The object of a suite. -/
def ofSuite (suite : SuiteReport) : Value :=
  .object
    [("name", .string suite.name), ("iterations", .nat suite.iterations.toNat),
      ("warmup", .nat suite.warmup.toNat), ("results", .array (suite.results.map ofResult))]

/-- The document of a run. -/
def ofSuites (suites : List SuiteReport) : Value :=
  .object [("suites", .array (suites.map ofSuite))]

end CrossBench.Document
