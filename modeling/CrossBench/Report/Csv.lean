import CrossBench.Decimal.Binary
import CrossBench.Report.Event

/-!
# The report as rows

One row a statistic, of eight fields divided by commas: `bench`, the suite, the tag, the measured
and the warmup runs, the name of the statistic, its value and its unit. Times have six places.
Nothing but rows is written.
-/

namespace CrossBench.Csv

/-- The statistics of a summary in the order of their rows. -/
def statistics (s : Summary) : List (String × Float) :=
  [("min", s.min), ("median", s.median), ("mean", s.mean), ("max", s.max), ("stdev", s.stdev)]

/-- The fields that say what a row is about. -/
def subject (suite : String) (plan : Plan) (tag : Tag) : String :=
  "bench," ++ suite ++ ",ext=" ++ tag.text ++ ",N=" ++ toString plan.iterations
    ++ ",W=" ++ toString plan.warmup

/-- The rows for a file: one for each statistic, and one for the count of failed runs if there is
one. -/
def rows (suite : String) (plan : Plan) (result : FileResult) : List String :=
  let about := subject suite plan result.tag
  (match result.summary with
    | none => []
    | some s =>
      (statistics s).map fun (name, value) =>
        about ++ "," ++ name ++ "," ++ Decimal.fixed 6 value ++ ",ms")
  ++ match result.failedRuns with
    | none => []
    | some failed => [about ++ ",failed," ++ toString failed ++ ",runs"]

/-- The rows for an event. -/
def lines : Event → List String
  | .fileMeasured suite plan result => rows suite plan result
  | _ => []

end CrossBench.Csv
