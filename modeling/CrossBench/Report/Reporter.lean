import CrossBench.Report.Csv
import CrossBench.Report.Document
import CrossBench.Report.Human
import CrossBench.Report.Sink

/-!
# Reporting a run

A `Reporter` turns events into chunks of output. In the formats `human` and `csv` every event has its
own lines. In the format `json` nothing is written before the end: the reporter keeps the reports of
the suites that have been finished, writes them as one document when the run is over, and forgets
them once the document and the line break behind it have been written.

`Reporter.handle` is one step: what is written, and what the reporter is afterwards.
-/

namespace CrossBench

/-- The format of a report. -/
inductive Format where
  | human
  | csv
  | json
  deriving DecidableEq, Inhabited

/-- The state of a report under way. -/
structure Reporter where
  format : Format
  colored : Bool
  /-- The suites that wait for the document, in order. -/
  pending : List SuiteReport

namespace Reporter

/-- The reporter of a new run. -/
def new (format : Format) (colored : Bool) : Reporter := ⟨format, colored, []⟩

/-- Whether an event ends the run and completes the document. -/
def ends : Event → Bool
  | .noSuites _ => true
  | .runFinished => true
  | _ => false

/-- The reporter after it has been told of an event, but before the event is written: a finished
suite joins those that wait for the document. -/
def note (r : Reporter) : Event → Reporter
  | .suiteFinished suite =>
    if r.format = .json then { r with pending := r.pending ++ [suite] } else r
  | _ => r

/-- What an event adds to the report. -/
def chunks (r : Reporter) (event : Event) : List Chunk :=
  match r.format with
  | .human => (Human.lines r.colored event).map .line
  | .csv => (Csv.lines event).map .line
  | .json =>
    if ends event then [.document (Document.ofSuites r.pending).pretty, .line ""] else []

/-- The reporter once an event has been written: a completed document empties it. -/
def settle (r : Reporter) (event : Event) : Reporter :=
  if r.format = .json ∧ ends event then { r with pending := [] } else r

/-- Reports an event. After a failure the suites that wait for the document still wait. -/
def handle (r : Reporter) (event : Event) (sink : Sink) :
    Reporter × Sink × Except HarnessError Unit :=
  let r := r.note event
  match sink.deliver (r.chunks event) with
  | (sink, .ok ()) => (r.settle event, sink, .ok ())
  | (sink, .error e) => (r, sink, .error e)

end Reporter

end CrossBench
