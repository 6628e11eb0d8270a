import CrossBench.Proofs.Report.Reading
import CrossBench.Proofs.Run.Limit

/-!
# Calls that share a reporter

In the format `json` a reporter keeps the suites that were finished until a document
of them has been written to its end.  A call that fails after it has finished a suite
leaves it there, and whoever makes the next call with the same reporter finds it in a
document that it does not belong to.

A `Series` is a reporter together with the calls that were made with it, each with its
own programs, settings, options, world and sink.

* `Series.reporter_through` — what the reporter keeps between two calls.
* `Series.unwritten_suites_come_first` — what the next call writes and keeps.
* `not_every_document_is_of_one_call` — a run without suites whose document has one.
-/

namespace CrossBench

/-- The document of suites tells how many there are. -/
theorem Document.length_eq_of_pretty {xs ys : List SuiteReport}
    (same : (Document.ofSuites xs).pretty = (Document.ofSuites ys).pretty) :
    xs.length = ys.length := by
  have read := Json.read?_pretty (Document.ofSuites xs)
  rw [same, Json.read?_pretty, Option.some_inj] at read
  obtain ⟨items, suites, first⟩ := Document.describes_ofSuites xs
  obtain ⟨items', suites', second⟩ := Document.describes_ofSuites ys
  rw [← read, suites', Option.some_inj, Json.Datum.array.injEq] at suites
  rw [← first.length_eq, ← second.length_eq, suites]

namespace Run

/-- What a call brings with it, the reporter apart. -/
structure Call where
  {World : Type}
  host : Host World
  settings : Settings
  options : RunOptions
  world : World
  sink : Sink

namespace Call

/-- The call, made with a reporter. -/
def run (call : Call) (r : Reporter) : Except HarnessError RunSummary × RunState call.World :=
  runBenchmarks call.host call.settings call.options ⟨.boot call.world, r, call.sink⟩

/-- The course of the call, which depends neither on a reporter nor on a sink. -/
def course (call : Call) : Course call.World :=
  Run.course call.host call.settings call.options (.boot call.world)

/-- The suites that the call resolves, if it comes to that. -/
def suites (call : Call) : List Path :=
  let start := prepared call.host call.settings call.options (.boot call.world)
  resolved (Suites.resolve (start.machine.tree call.host)
    (call.settings.benchmarksRoot call.options.root) call.options.suite)

/-- What the sink of the call holds once a document of suites has been written. -/
def writing (call : Call) (suites : List SuiteReport) : List UInt8 :=
  call.sink.written.toList ++ Utf8.encode ((Document.ofSuites suites).pretty ++ "\n")

variable {call : Call} {colored : Bool} {pending : List SuiteReport}

/-- The document of suites is not that of only the last of them. -/
theorem writing_append_eq_iff {first last : List SuiteReport} :
    call.writing (first ++ last) = call.writing last ↔ first = [] := by
  constructor
  · intro same
    have lines := Utf8.encode_injective (List.append_cancel_left same)
    have counts := Document.length_eq_of_pretty ((String.append_left_inj "\n").mp lines)
    rw [List.length_append, Nat.add_eq_right] at counts
    exact List.eq_nil_of_length_eq_zero counts
  · rintro rfl
    rfl

/-- A call that succeeds has written all suites that waited, its own behind the others,
and none waits any more. -/
theorem run_of_ok {summary : RunSummary}
    (answered : (call.run ⟨.json, colored, pending⟩).1 = .ok summary) :
    call.course.answer = .ok summary ∧
      (call.run ⟨.json, colored, pending⟩).2.sink.written.toList
        = call.writing (pending ++ call.course.reports) ∧
      (call.run ⟨.json, colored, pending⟩).2.reporter = ⟨.json, colored, []⟩ := by
  cases ended : call.course.answer with
  | error e =>
      obtain ⟨failed, -⟩ := runBenchmarks_json_of_error ended colored pending call.sink
      -- a course that ends with an error does so on every sink
      cases answered.symm.trans failed
  | ok summary' =>
      obtain ⟨kept, whole, part⟩ :=
        runBenchmarks_json_of_ok ended colored pending call.sink
      cases room : call.sink.fits (Utf8.encode
          ((Document.ofSuites (pending ++ call.course.reports)).pretty ++ "\n")) with
      | true =>
          obtain ⟨same, emptied⟩ := whole room
          refine ⟨congrArg Except.ok ?_, ?_, emptied⟩
          · exact (Except.ok.inj (answered.symm.trans same)).symm
          · exact (congrArg (·.written.toList) kept).trans (Sink.written_of_fits room)
      | false =>
          obtain ⟨failed, -⟩ := part room
          cases answered.symm.trans failed

/-- A call that fails, wherever that is, leaves its suites behind those that waited. -/
theorem run_of_error {e : HarnessError}
    (failed : (call.run ⟨.json, colored, pending⟩).1 = .error e) :
    (call.run ⟨.json, colored, pending⟩).2.reporter
      = ⟨.json, colored, pending ++ call.course.reports⟩ := by
  cases ended : call.course.answer with
  | error e =>
      obtain ⟨-, -, waiting⟩ :=
        runBenchmarks_json_of_error ended colored pending call.sink
      exact waiting
  | ok summary =>
      obtain ⟨-, whole, part⟩ :=
        runBenchmarks_json_of_ok ended colored pending call.sink
      -- the course came to its end, so the call can only have failed to write
      cases room : call.sink.fits (Utf8.encode
          ((Document.ofSuites (pending ++ call.course.reports)).pretty ++ "\n")) with
      | true =>
          obtain ⟨answered, -⟩ := whole room
          cases failed.symm.trans answered
      | false => exact (part room).2

end Call

/-- A reporter, and the calls that were made with it. -/
structure Series where
  reporter : Reporter
  /-- The calls so far and what they answered, the last one first. -/
  log : List (Call × Except HarnessError RunSummary)

namespace Series

/-- The series that begins with a new reporter. -/
def start (colored : Bool) : Series := ⟨.new .json colored, []⟩

/-- The series after one more call. -/
def make (series : Series) (call : Call) : Series :=
  let made := call.run series.reporter
  ⟨made.2.reporter, (call, made.1) :: series.log⟩

/-- The series after more calls, whatever came of them. -/
def through (series : Series) (calls : List Call) : Series := calls.foldl make series

/-- The suites that were finished since a call last succeeded, in order. -/
def unwritten : List (Call × Except HarnessError RunSummary) → List SuiteReport
  | [] => []
  | (_, .ok _) :: _ => []
  | (call, .error _) :: earlier => unwritten earlier ++ call.course.reports

/-- One call keeps in the reporter what is unwritten. -/
theorem reporter_make {series : Series} {colored : Bool}
    (kept : series.reporter = ⟨.json, colored, unwritten series.log⟩) (call : Call) :
    (series.make call).reporter
      = ⟨.json, colored, unwritten (series.make call).log⟩ := by
  rw [make, kept]
  cases answered : (call.run ⟨.json, colored, unwritten series.log⟩).1 with
  | ok summary => exact (Call.run_of_ok answered).2.2
  | error e => exact Call.run_of_error answered

/-- Between two calls the reporter keeps what is unwritten. -/
theorem reporter_through {series : Series} {colored : Bool}
    (kept : series.reporter = ⟨.json, colored, unwritten series.log⟩)
    (calls : List Call) :
    (series.through calls).reporter
      = ⟨.json, colored, unwritten (series.through calls).log⟩ := by
  induction calls generalizing series with
  | nil => exact kept
  | cons call rest ih => exact ih (reporter_make kept call)

/-- **Suites that a call leaves unwritten come first in a later document.**  Let calls
have been made with a new reporter in the format `json`, each with its own programs,
settings, options, world and sink, and let there be one more.

If it succeeds, it has written one document, of the suites that calls have finished since
one last succeeded and behind them its own: one for each suite that it resolves, in order.
The reporter forgets them all.  So the document is that of the call exactly if no call
that failed since then had finished a suite.  If it fails, the suites that it has
finished wait behind the others. -/
theorem unwritten_suites_come_first (colored : Bool) (calls : List Call) (call : Call) :
    let series := (start colored).through calls
    let left := unwritten series.log
    let own := call.course.reports
    let made := call.run series.reporter
    match made.1 with
    | .ok summary =>
        made.2.sink.written.toList = call.writing (left ++ own) ∧
          (made.2.sink.written.toList = call.writing own ↔ left = []) ∧
          own.map (fun report => (report.name, report.iterations, report.warmup))
            = call.suites.map (fun directory =>
                (directory.label, call.options.plan.iterations,
                  call.options.plan.warmup)) ∧
          summary = ⟨own.length, fileCount own⟩ ∧
          made.2.reporter.pending = []
    | .error _ => made.2.reporter.pending = left ++ own := by
  intro series left own made
  -- all that a series leaves behind is what its reporter has not written
  have kept : series.reporter = ⟨.json, colored, left⟩ := reporter_through rfl calls
  have same : made = call.run ⟨.json, colored, left⟩ := congrArg call.run kept
  rw [same]
  cases answered : (call.run ⟨.json, colored, left⟩).1 with
  | ok summary =>
      obtain ⟨ended, written, emptied⟩ := Call.run_of_ok answered
      obtain ⟨names, counts, -⟩ := course_of_ok ended
      refine ⟨written, ?_, names, counts, congrArg Reporter.pending emptied⟩
      rw [written]
      exact Call.writing_append_eq_iff
  | error e => exact congrArg Reporter.pending (Call.run_of_error answered)

end Series

end Run

/-! ## A document of a run without suites

Two calls with one reporter.  The first fails when one suite is finished and the next is
gone, the second has no suites at all.
-/

open Run (Call Series runBenchmarks_json_of_ok)

namespace Sample

/-- A run that fails when it has finished the suite `a` and `b` is gone. -/
def failing : Call :=
  ⟨removing, {}, options, false, .unlimited⟩

/-- A run in a place where there are no suites. -/
def idle : Call :=
  ⟨removing, {}, { options with root := .ofText "/q" }, false, .unlimited⟩

end Sample

set_option maxRecDepth 100000 in
/-- **A call that succeeds need not write the document of its own suites.**  The first
call fails behind its first suite, and that suite is all that stands in the document of
the second call, which finds no suites. -/
theorem not_every_document_is_of_one_call :
    ¬ ∀ (colored : Bool) (calls : List Call) (call : Call) (summary : RunSummary),
      let made := call.run ((Series.start colored).through calls).reporter
      made.1 = .ok summary →
        made.2.sink.written.toList = call.writing call.course.reports := by
  intro always
  have failed : (Sample.failing.run (.new .json false)).1
      = .error (.io (Sample.suite "b") .notFound) := by
    cbv
  have finished : Sample.failing.course.reports.length = 1 := by
    cbv
  have waiting : ((Series.start false).through [Sample.failing]).reporter
      = ⟨.json, false, Sample.failing.course.reports⟩ := Call.run_of_error failed
  have ended : Sample.idle.course.answer = .ok ⟨0, 0⟩ := by
    cbv
  obtain ⟨-, whole, -⟩ :=
    runBenchmarks_json_of_ok ended false Sample.failing.course.reports .unlimited
  have answered := (whole rfl).1
  have own := always false [Sample.failing] Sample.idle ⟨0, 0⟩
  dsimp only at own
  rw [waiting, (Call.run_of_ok answered).2.1] at own
  -- one suite waits, and the run without suites would have to write it as its own
  rw [Call.writing_append_eq_iff.mp (own answered)] at finished
  cases finished

end CrossBench
