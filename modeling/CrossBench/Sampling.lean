import CrossBench.Process

/-!
# Sampling a benchmark file

A file is run `warmup` times without a measurement and then `iterations` times with one, each run
waited for before the next. Every measured run gives a sample, whether or not it ended well. Under
the policy `flag` the measured runs that did not end well are counted; the policy changes nothing
else.

An empty command starts nothing and counts as a failure each time.
-/

namespace CrossBench

/-- What becomes of runs that do not end well. -/
inductive FailedRuns where
  /-- Their duration is recorded like any other. -/
  | record
  /-- Their duration is recorded and they are counted for the report. -/
  | flag
  deriving DecidableEq, Inhabited

/-- How often a file is run, and what becomes of runs that do not end well. -/
structure Plan where
  iterations : UInt32
  warmup : UInt32
  failedRuns : FailedRuns
  deriving DecidableEq

/-- The durations of the measured runs in nanoseconds, in order, and how many of these runs did not
end well, if that was asked for. -/
structure SampleSet where
  samples : List UInt64
  failedRuns : Option Nat
  deriving DecidableEq

namespace Sampling

variable {σ : Type}

/-- One run of a file: whether it ended well, and how long it took. -/
def invoke (host : Host σ) (command : Command) (file : Path) (m : Machine σ) :
    Machine σ × Bool × UInt64 :=
  match command with
  | [] => (m, false, 0)
  | _ :: _ =>
    let (m, ending, nanos) := m.start host (.ofCommand command file)
    (m, ending.succeeded, nanos)

/-- `n` runs of a file, one after the other, with the outcome and duration of each in order. -/
def repeated (host : Host σ) (command : Command) (file : Path) :
    Nat → Machine σ → Machine σ × List (Bool × UInt64)
  | 0, m => (m, [])
  | n + 1, m =>
    let (m, first) := invoke host command file m
    let (m, rest) := repeated host command file n m
    (m, first :: rest)

/-- The sample set of the measured runs. -/
def sampleSet (policy : FailedRuns) (runs : List (Bool × UInt64)) : SampleSet where
  samples := runs.map (·.2)
  failedRuns :=
    match policy with
    | .record => none
    | .flag => some (runs.countP (!·.1))

/-- Runs a file as the plan says. -/
def collect (host : Host σ) (plan : Plan) (command : Command) (file : Path) (m : Machine σ) :
    Machine σ × SampleSet :=
  let (m, _) := repeated host command file plan.warmup.toNat m
  let (m, runs) := repeated host command file plan.iterations.toNat m
  (m, sampleSet plan.failedRuns runs)

end Sampling

end CrossBench
