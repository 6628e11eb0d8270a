import CrossBench.Proofs.Report.Reading
import CrossBench.Proofs.Run.Endings

/-!
# Three formats of one run

The format of a report and its colours have no say in what a run does: the
course of the run is a function of the machine alone, and a reporter only sees
its events.  Here the text of the events is worked out for each format.  For a
run that got through its suites it is a rendering of one list, the reports of the
suites, and this list is the same for every format:

* as rows, the rows of every result, one behind the other;
* as a document, the document of the list;
* for people, the messages about the build, a block for each suite
  (`Human.suiteLines`), and the end.

A report as a document is written by the last event or not at all
(`text_json_course`).
-/

namespace CrossBench

/-- The lines about the native program: one if it is going to be built, and those
about the outcome. -/
def Human.buildLines (colored : Bool) (gate : Gate) (staleness : Staleness)
    (skipBuild : Bool) (outcome : BuildOutcome) : List String :=
  (if staleness.isStale && !skipBuild then [buildLine colored gate staleness] else [])
    ++ outcomeLines colored gate outcome

/-- The lines about a suite in the report for people: an empty one, the header, a
line for each result, and the notice if there is none. -/
def Human.suiteLines (colored : Bool) (plan : Plan) (report : SuiteReport) :
    List String :=
  "" :: suiteHeader colored report.name plan
    :: (report.results.map (resultLine colored)
      ++ if report.results = [] then
          ["  " ++ Style.red.paint colored "No supported scripts found."]
        else [])

/-- The rows of a suite. -/
def Csv.suiteRows (plan : Plan) (report : SuiteReport) : List String :=
  report.results.flatMap (rows report.name plan)

namespace Run

open Reporter (ends finished?)

variable {σ : Type}

/-! ## The events of suites

For each format, what the events of one finished suite come to.
-/

theorem human_fileMeasured (colored : Bool) (plan : Plan) (suite : String)
    (results : List FileResult) :
    (results.map (Event.fileMeasured suite plan)).flatMap (Human.lines colored)
      = results.map (Human.resultLine colored) := by
  induction results with
  | nil => rfl
  | cons result rest ih =>
      rw [List.map_cons, List.flatMap_cons, ih]
      rfl

theorem human_suiteEvents (colored : Bool) (plan : Plan) (report : SuiteReport) :
    (suiteEvents plan report).flatMap (Human.lines colored)
      = Human.suiteLines colored plan report := by
  simp [suiteEvents, Human.suiteLines, human_fileMeasured, Human.lines,
    Human.suiteNotice]

theorem csv_suiteEvents (plan : Plan) (report : SuiteReport) :
    (suiteEvents plan report).flatMap Csv.lines = Csv.suiteRows plan report := by
  simp [suiteEvents, Csv.suiteRows, List.flatMap_map, Csv.lines]

theorem quiet_suiteEvents (plan : Plan) (report : SuiteReport) :
    ∀ event ∈ suiteEvents plan report, ends event = false := by
  intro event mem
  simp only [suiteEvents, List.mem_cons, List.mem_append, List.mem_map,
    List.not_mem_nil, or_false] at mem
  rcases mem with rfl | ⟨result, -, rfl⟩ | rfl <;> rfl

theorem finished_suiteEvents (plan : Plan) (report : SuiteReport) :
    (suiteEvents plan report).filterMap finished? = [report] := by
  have measured : (report.results.map (Event.fileMeasured report.name plan)).filterMap
      finished? = [] := by
    rw [List.filterMap_map]
    exact List.filterMap_eq_nil_iff.mpr fun _ _ => rfl
  rw [suiteEvents, List.filterMap_cons_none rfl, List.filterMap_append, measured]
  rfl

/-! ## The events of the way through suites

The events of several suites are those of each, one behind the other.
-/

theorem quiet_passage (plan : Plan) (p : Passage σ) :
    ∀ event ∈ p.events plan, ends event = false := by
  intro event mem
  rcases List.mem_append.mp mem with mem | mem
  · obtain ⟨report, -, mem⟩ := List.mem_flatMap.mp mem
    exact quiet_suiteEvents plan report event mem
  · cases stopped : p.stop with
    | none => simp [stopped] at mem
    | some stop =>
        simp only [stopped, Option.map_some, Option.toList_some, List.mem_singleton] at mem
        exact mem ▸ rfl

/-- The events of a way through suites report the suites of the way. -/
theorem finished_passage (plan : Plan) (p : Passage σ) :
    (p.events plan).filterMap finished? = p.reports := by
  have suites : (p.reports.flatMap (suiteEvents plan)).filterMap finished? = p.reports := by
    induction p.reports with
    | nil => rfl
    | cons report rest ih =>
        rw [List.flatMap_cons, List.filterMap_append, finished_suiteEvents, ih]
        rfl
  rw [Passage.events, List.filterMap_append, suites]
  cases p.stop with
  | none => exact List.append_nil _
  | some stop => exact List.append_nil _

/-- On a way that was not stopped the reports are those of the suites, with the
numbers of the plan. -/
theorem passage_reports (host : Host σ) (registry : Registry) (plan : Plan)
    (directories : List Path) (m : Machine σ)
    (through : (passage host registry plan directories m).stop = none) :
    (passage host registry plan directories m).reports.map
        (fun report => (report.name, report.iterations, report.warmup))
      = directories.map fun directory =>
          (directory.label, plan.iterations, plan.warmup) := by
  induction directories generalizing m with
  | nil => rfl
  | cons directory rest ih =>
      unfold passage at through ⊢
      cases listed : Suites.files (m.tree host) directory with
      | error e => simp [listed] at through
      | ok files =>
          simp only [listed, Passage.behind] at through ⊢
          rw [List.map_cons, List.map_cons, ih _ through]

/-! ## The events of a run

In front of the suites stand the events of the build, and behind them the end.
-/

/-- Building tells nothing that ends the run, finishes a suite or has rows. -/
theorem quiet_prepared (host : Host σ) (settings : Settings) (options : RunOptions)
    (m : Machine σ) :
    ∀ event ∈ (prepared host settings options m).events,
      ends event = false ∧ finished? event = none ∧ Csv.lines event = [] := by
  intro event mem
  rcases List.mem_append.mp mem with mem | mem
  · split at mem
    · cases List.mem_singleton.mp mem
      exact ⟨rfl, rfl, rfl⟩
    · cases mem
  · cases List.mem_singleton.mp mem
    exact ⟨rfl, rfl, rfl⟩

/-- For a reader, building is told in the lines of its events. -/
theorem human_prepared (host : Host σ) (settings : Settings) (options : RunOptions)
    (m : Machine σ) (colored : Bool) :
    let gate := Gate.ofSettings settings.native options.root
    let staleness := gate.check (m.tree host)
    let outcome :=
      (gate.apply host settings.registry staleness options.skipBuild m).2.2
    (prepared host settings options m).events.flatMap (Human.lines colored)
      = Human.buildLines colored gate staleness options.skipBuild outcome := by
  intro gate staleness outcome
  rw [prepared, Human.buildLines, List.flatMap_append]
  congr 1
  · split <;> rfl
  · exact List.flatMap_singleton ..

/-- **Quiet, but for the end.**  Up to its last event a run only collects suites;
the last event is there if the run has an answer that is not an error. -/
theorem course_events (host : Host σ) (settings : Settings) (options : RunOptions)
    (m : Machine σ) :
    let whole := course host settings options m
    ∃ front, (∀ event ∈ front, ends event = false) ∧
      front.filterMap finished? = whole.reports ∧
      match whole.answer with
      | .error _ => whole.events = front
      | .ok _ => ∃ last, ends last = true ∧ whole.events = front ++ [last] := by
  have ready := quiet_prepared host settings options m
  have quiet := fun event mem => (ready event mem).1
  have nothing := List.filterMap_eq_nil_iff.mpr fun event mem => (ready event mem).2.1
  dsimp only [course]
  -- of what was done about the native program only these two facts matter
  generalize prepared host settings options m = start at quiet nothing ⊢
  unfold tour
  split
  · exact ⟨start.events, quiet, nothing, List.append_nil _⟩
  · exact ⟨start.events, quiet, nothing, _, rfl, rfl⟩
  · next first rest _ =>
    dsimp only
    generalize passage host start.registry options.plan (first :: rest) start.machine
      = way
    refine ⟨start.events ++ way.events options.plan, ?_, ?_, ?_⟩
    · intro event mem
      rcases List.mem_append.mp mem with mem | mem
      · exact quiet event mem
      · exact quiet_passage options.plan way event mem
    · rw [List.filterMap_append, nothing, finished_passage, List.nil_append]
    · cases way.answer with
      | error e => simp [closing]
      | ok summary => exact ⟨.runFinished, rfl, by simp [closing]⟩

/-- **All or nothing.**  As a document, a run writes nothing if it ends with an
error, and otherwise one document, of the suites that it finished. -/
theorem text_json_course (host : Host σ) (settings : Settings) (options : RunOptions)
    (m : Machine σ) (colored : Bool) :
    let whole := course host settings options m
    (Reporter.new .json colored).text whole.events =
      match whole.answer with
      | .error _ => ""
      | .ok _ => (Document.ofSuites whole.reports).pretty ++ "\n" := by
  intro whole
  obtain ⟨front, quiet, collected, shape⟩ := course_events host settings options m
  obtain ⟨silent, waiting⟩ := Reporter.text_json_of_quiet colored [] quiet
  rw [collected, List.nil_append] at waiting
  cases answered : whole.answer with
  | error e =>
      rw [answered] at shape
      rw [shape]
      exact silent
  | ok summary =>
      rw [answered] at shape
      -- the events before the last have only made the suites wait
      obtain ⟨last, ending, shape⟩ := shape
      rw [shape, Reporter.text_append, Reporter.new, silent, waiting,
        Reporter.text_json_of_ends colored _ ending, String.empty_append]

/-- The tree after building is the one that the run finds its suites in. -/
theorem prepared_tree (host : Host σ) (settings : Settings) (options : RunOptions)
    (world : σ) :
    let gate := Gate.ofSettings settings.native options.root
    (prepared host settings options (.boot world)).machine.tree host
      = host.view (host.after
          (gate.starts (gate.check (host.view world)) options.skipBuild) world) := by
  dsimp only
  rw [prepared_eq_through, Machine.tree, Machine.through_world]
  rfl

/-- **The course of a run that got through its suites.**  It has one report for
each suite, the answer counts them, and if there are any its events are those of
the build, those of the reports, and the end. -/
theorem course_of_ok {host : Host σ} {settings : Settings} {options : RunOptions}
    {m : Machine σ} {summary : RunSummary}
    (answered : (course host settings options m).answer = .ok summary) :
    let start := prepared host settings options m
    let suites := resolved (Suites.resolve (start.machine.tree host)
      (settings.benchmarksRoot options.root) options.suite)
    let whole := course host settings options m
    whole.reports.map (fun report => (report.name, report.iterations, report.warmup))
        = suites.map (fun directory =>
            (directory.label, options.plan.iterations, options.plan.warmup)) ∧
      summary = ⟨whole.reports.length, fileCount whole.reports⟩ ∧
      (suites ≠ [] → whole.events = start.events
        ++ (whole.reports.flatMap (suiteEvents options.plan) ++ [.runFinished])) := by
  dsimp only [course, tour] at answered ⊢
  generalize prepared host settings options m = start at answered ⊢
  cases found : Suites.resolve (start.machine.tree host)
      (settings.benchmarksRoot options.root) options.suite with
  | error e =>
      rw [found] at answered
      cases answered
  | ok suites =>
      rw [found] at answered
      cases suites with
      | nil =>
          cases answered
          exact ⟨rfl, rfl, fun any => absurd rfl any⟩
      | cons first rest =>
          dsimp only [resolved] at answered ⊢
          have names := passage_reports host start.registry options.plan (first :: rest)
            start.machine
          generalize passage host start.registry options.plan (first :: rest)
            start.machine = way at answered names ⊢
          obtain ⟨machine, reports, stop⟩ := way
          cases stop with
          | none =>
              cases answered
              refine ⟨names rfl, rfl, fun _ => ?_⟩
              simp [Passage.events, Passage.answer, closing]
          -- a passage that stopped answers with its error
          | some stopped => cases answered

/-! ## The formats

The course of a run does not mention a format.  So two formats of one run have the same
answer, the same starts and the same reports, and each is a rendering of the latter.
-/

/-- A run in a format, with a new reporter and a sink that accepts everything. -/
def reported (host : Host σ) (settings : Settings) (options : RunOptions) (world : σ)
    (format : Format) (colored : Bool) :
    Except HarnessError RunSummary × RunState σ :=
  runBenchmarks host settings options ⟨.boot world, .new format colored, .unlimited⟩

/-- What the report of a run is in a format. -/
def output (host : Host σ) (settings : Settings) (options : RunOptions) (world : σ)
    (format : Format) (colored : Bool) : List UInt8 :=
  (reported host settings options world format colored).2.sink.written.toList

/-- What a run leaves behind in any format are the events of its course, told in this format. -/
theorem reported_eq (host : Host σ) (settings : Settings) (options : RunOptions)
    (world : σ) (format : Format) (colored : Bool) :
    let whole := course host settings options (.boot world)
    (reported host settings options world format colored).1 = whole.answer ∧
      (reported host settings options world format colored).2.machine = whole.machine ∧
      output host settings options world format colored
        = Utf8.encode ((Reporter.new format colored).text whole.events) := by
  have run := runBenchmarks_boundless host settings options (.boot world)
    (.new format colored) #[]
  unfold output reported
  rw [show Sink.unlimited = .boundless #[] from rfl, run]
  exact ⟨rfl, rfl, by simp [Sink.boundless]⟩

/-- **The formats of a report are views of one result.**  The format and the
colours change neither what a run answers nor what it does to the machine, the
processes that it starts and their order included.

If the run gets through at least one suite there is one list of reports behind
every format, one report for each suite, and the answer counts it.  As rows it is
the rows of its results, as a document the document of the list, in which a reader
finds it again, and for people a block for each suite between the messages of the
build and the end. -/
theorem formats_runBenchmarks (host : Host σ) (settings : Settings)
    (options : RunOptions) (world : σ) :
    let gate := Gate.ofSettings settings.native options.root
    let staleness := gate.check (host.view world)
    let outcome := (gate.apply host settings.registry staleness options.skipBuild
      (.boot world)).2.2
    let built := host.after (gate.starts staleness options.skipBuild) world
    let suites := resolved (Suites.resolve (host.view built)
      (settings.benchmarksRoot options.root) options.suite)
    let run := reported host settings options world
    let written := output host settings options world
    (∀ format colored format' colored',
        (run format colored).1 = (run format' colored').1 ∧
          (run format colored).2.machine = (run format' colored').2.machine) ∧
      ∀ format colored summary, (run format colored).1 = .ok summary → suites ≠ [] →
        ∃ reports : List SuiteReport,
          reports.map (fun report => (report.name, report.iterations, report.warmup))
            = suites.map (fun directory =>
                (directory.label, options.plan.iterations, options.plan.warmup)) ∧
          summary.suites = reports.length ∧
          summary.measuredFiles = fileCount reports ∧
          ∀ colored,
            written .csv colored
              = Utf8.encode (unlines (reports.flatMap (Csv.suiteRows options.plan))) ∧
            written .json colored
              = Utf8.encode ((Document.ofSuites reports).pretty ++ "\n") ∧
            Document.Shows (written .json colored) reports ∧
            written .human colored
              = Utf8.encode (unlines
                  (Human.buildLines colored gate staleness options.skipBuild outcome
                    ++ reports.flatMap (Human.suiteLines colored options.plan)
                    ++ ["", Style.bold.paint colored "Done.", ""])) := by
  intro gate staleness outcome built suites run written
  have same := reported_eq host settings options world
  refine ⟨fun format colored format' colored' => ⟨?_, ?_⟩, ?_⟩
  · exact (same format colored).1.trans (same format' colored').1.symm
  · exact (same format colored).2.1.trans (same format' colored').2.1.symm
  intro format colored summary answered any
  have ended := (same format colored).1.symm.trans answered
  -- the course is the same for all formats, so its reports serve all three
  have whole := course_of_ok ended
  dsimp only at whole
  rw [prepared_tree] at whole
  obtain ⟨names, rfl, events⟩ := whole
  have events := events any
  refine ⟨_, names, rfl, rfl, fun colored => ?_⟩
  have json : written .json colored = Utf8.encode ((Document.ofSuites
      (course host settings options (.boot world)).reports).pretty ++ "\n") := by
    have document := text_json_course host settings options (.boot world) colored
    dsimp only at document
    rw [ended] at document
    exact (same .json colored).2.2.trans (congrArg Utf8.encode document)
  refine ⟨?_, json, json ▸ Document.shows_ofSuites _, ?_⟩
  · -- what is told before the suites has no rows
    have rows := List.flatMap_eq_nil_iff.mpr fun event mem =>
      (quiet_prepared host settings options (.boot world) event mem).2.2
    refine (same .csv colored).2.2.trans ?_
    rw [Reporter.new, Reporter.text_csv, events,
      List.flatMap_append, rows, List.flatMap_append, List.flatMap_assoc]
    simp [csv_suiteEvents, Csv.lines]
  · refine (same .human colored).2.2.trans ?_
    rw [Reporter.new, Reporter.text_human, events,
      List.flatMap_append, human_prepared, List.flatMap_append, List.flatMap_assoc]
    simp [human_suiteEvents, Human.lines]
    rfl

set_option maxRecDepth 100000 in
/-- A run through the one suite that is left in the sample project. -/
theorem formats_of_one_suite :
    ∃ reports : List SuiteReport, reports.map (·.name) = ["a"] ∧
      ∀ colored,
        output Sample.removing {} Sample.options true .csv colored
          = Utf8.encode (unlines
              (reports.flatMap (Csv.suiteRows Sample.options.plan))) ∧
        output Sample.removing {} Sample.options true .json colored
          = Utf8.encode ((Document.ofSuites reports).pretty ++ "\n") := by
  have answered :
      (reported Sample.removing {} Sample.options true .csv false).1 = .ok ⟨1, 1⟩ := by
    cbv
  have suites : resolved (Suites.resolve (Sample.removing.view (Sample.removing.after
        ((Gate.ofSettings {} Sample.options.root).starts
          ((Gate.ofSettings {} Sample.options.root).check
            (Sample.removing.view true)) true) true))
      (({} : Settings).benchmarksRoot Sample.options.root) none) = [Sample.suite "a"] := by
    cbv
  obtain ⟨reports, names, -, -, views⟩ :=
    (formats_runBenchmarks Sample.removing {} Sample.options true).2 .csv false ⟨1, 1⟩
      answered fun empty => List.cons_ne_nil _ _ (suites.symm.trans empty)
  refine ⟨reports, ?_, fun colored => ⟨(views colored).1, (views colored).2.1⟩⟩
  -- the names are the first parts of the triples
  have labels := congrArg (List.map Prod.fst) names
  rw [List.map_map, List.map_map] at labels
  exact labels.trans (congrArg (List.map Path.label) suites)

end Run

end CrossBench
