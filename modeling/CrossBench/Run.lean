import CrossBench.Affinity
import CrossBench.Report.Reporter
import CrossBench.Suites

/-!
# A whole run

A run deals with the native program once and then goes through the suites, and in each suite through
its files, in order. Nothing is tried twice: a file whose runtime is unknown or turned off is passed
over, and what goes wrong while building or measuring becomes part of the report.

`Run` is the monad of a run. Its state is the machine with everything started so far, the reporter
and the sink, and it survives an error: a run that ends early has still started what it started and
written what it wrote. Only three things end a run early: suites that cannot be resolved, a suite
directory that cannot be listed, and a report that cannot be written.
-/

namespace CrossBench

/-- What one run is asked to do. -/
structure RunOptions where
  root : Path
  /-- The only suite to run; all of them if absent. -/
  suite : Option String
  plan : Plan
  skipBuild : Bool
  pinCore : Option UInt64
  deriving DecidableEq

/-- What a run has measured. -/
structure RunSummary where
  suites : Nat
  measuredFiles : Nat
  deriving DecidableEq

/-- The state of a run. -/
structure RunState (σ : Type) where
  machine : Machine σ
  reporter : Reporter
  sink : Sink

/-- A computation in a run. -/
abbrev Run (σ : Type) (α : Type) := ExceptT HarnessError (StateM (RunState σ)) α

namespace Run

variable {σ : Type}

/-- Reports an event. -/
def tell (event : Event) : Run σ Unit := fun s =>
  let (reporter, sink, result) := s.reporter.handle event s.sink
  (result, { s with reporter, sink })

/-- Acts on the machine; this cannot fail. -/
def onMachine {α : Type} (act : Machine σ → Machine σ × α) : Run σ α := fun s =>
  let (machine, a) := act s.machine
  (.ok a, { s with machine })

/-- Asks a question about the tree as it is now. -/
def askTree {α : Type} (host : Host σ) (question : Tree → α) : Run σ α := fun s =>
  (.ok (question (s.machine.tree host)), s)

/-- Asks a question about the tree that may have no answer. -/
def demandTree {α : Type} (host : Host σ) (question : Tree → Except HarnessError α) : Run σ α :=
  fun s => (question (s.machine.tree host), s)

/-- Measures a file with a command and reports the result. -/
def measure (host : Host σ) (plan : Plan) (suite : String) (tag : Tag) (command : Command)
    (file : Path) : Run σ FileResult := do
  let samples ← onMachine (Sampling.collect host plan command file)
  let result : FileResult :=
    { file := file.label
      tag
      summary := summarize tag samples.samples
      failedRuns := samples.failedRuns }
  tell (.fileMeasured suite plan result)
  return result

/-- The tag and the command of a file that can be measured. -/
def runnable? (registry : Registry) (file : Path) : Option (Tag × Command) :=
  match Tag.ofPath? file with
  | none => none
  | some tag =>
    match registry.lookup tag with
    | .available command => some (tag, command)
    | .disabled _ => none
    | .unsupported => none

/-- Measures those of the files that can be measured, in order. -/
def measureAll (host : Host σ) (registry : Registry) (plan : Plan) (suite : String) :
    List Path → Run σ (List FileResult)
  | [] => return []
  | file :: rest =>
    match runnable? registry file with
    | none => measureAll host registry plan suite rest
    | some (tag, command) => do
      let result ← measure host plan suite tag command file
      let results ← measureAll host registry plan suite rest
      return result :: results

/-- Runs a suite. Its files are listed when the suite starts. -/
def runSuite (host : Host σ) (registry : Registry) (plan : Plan) (directory : Path) :
    Run σ SuiteReport := do
  let name := directory.label
  tell (.suiteStarted name plan)
  let files ← demandTree host (Suites.files · directory)
  let results ← measureAll host registry plan name files
  let report : SuiteReport :=
    { name, iterations := plan.iterations, warmup := plan.warmup, results }
  tell (.suiteFinished report)
  return report

/-- Runs suites in order and counts what was measured. -/
def runSuites (host : Host σ) (registry : Registry) (plan : Plan) :
    List Path → Run σ RunSummary
  | [] => return ⟨0, 0⟩
  | directory :: rest => do
    let report ← runSuite host registry plan directory
    let counted ← runSuites host registry plan rest
    return ⟨counted.suites + 1, report.results.length + counted.measuredFiles⟩

/-- Deals with the native program and reports it; the registry that the suites are run with. -/
def prepare (host : Host σ) (settings : Settings) (options : RunOptions) : Run σ Registry := do
  let gate := Gate.ofSettings settings.native options.root
  let staleness ← askTree host gate.check
  if staleness.isStale && !options.skipBuild then
    tell (.buildStarted gate staleness)
  let (registry, outcome) ←
    onMachine (gate.apply host settings.registry staleness options.skipBuild)
  tell (.buildFinished gate outcome)
  return registry

/-- Pins the run to a core, if one was asked for; whether it is pinned. -/
def pin (host : Host σ) (core : Option UInt64) : Run σ Bool :=
  return core.any (canPin host.cores)

/-- A whole run. -/
def benchmarks (host : Host σ) (settings : Settings) (options : RunOptions) :
    Run σ RunSummary := do
  let registry ← prepare host settings options
  let root := settings.benchmarksRoot options.root
  let suites ← demandTree host (Suites.resolve · root options.suite)
  if suites.isEmpty then
    tell (.noSuites root)
    return ⟨0, 0⟩
  let _ ← pin host options.pinCore
  let summary ← runSuites host registry options.plan suites
  tell .runFinished
  return summary

end Run

/-- What a whole run in the given state answers, and the state in which it leaves everything. -/
def runBenchmarks {σ : Type} (host : Host σ) (settings : Settings) (options : RunOptions)
    (s : RunState σ) : Except HarnessError RunSummary × RunState σ :=
  (Run.benchmarks host settings options).run s

end CrossBench
