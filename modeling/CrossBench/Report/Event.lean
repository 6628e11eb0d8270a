import CrossBench.Build.Gate
import CrossBench.Summary

/-!
# What a run has to tell

A run is reported as a sequence of events. What is in them does not depend on the format of the
report: the formats are different renderings of one sequence.
-/

namespace CrossBench

/-- The result for one benchmark file. -/
structure FileResult where
  file : String
  tag : Tag
  summary : Option Summary
  /-- How many measured runs did not end well; absent unless they are flagged. -/
  failedRuns : Option Nat

/-- The results of a suite. -/
structure SuiteReport where
  name : String
  iterations : UInt32
  warmup : UInt32
  results : List FileResult

/-- Something that happened in a run. -/
inductive Event where
  /-- The native program is about to be built. -/
  | buildStarted (gate : Gate) (reason : Staleness)
  /-- The native program has been dealt with. -/
  | buildFinished (gate : Gate) (outcome : BuildOutcome)
  /-- There are no suites, and that ends the run. -/
  | noSuites (benchmarksRoot : Path)
  | suiteStarted (name : String) (plan : Plan)
  | fileMeasured (suite : String) (plan : Plan) (result : FileResult)
  | suiteFinished (suite : SuiteReport)
  /-- Every suite has been run. -/
  | runFinished

end CrossBench
