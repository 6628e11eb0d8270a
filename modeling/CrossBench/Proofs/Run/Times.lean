import CrossBench.Proofs.Run.Endings
import CrossBench.Proofs.Run.Gaps

/-!
# Times change nothing but the times

Two hosts may be `Alike`: whatever is started in whatever world, it leaves one world and
ends in one way, and only the time that it takes is another.  Nothing in a run looks at a
time before the report does, so the courses of a run on two such hosts differ in times
only: this goes from one start through the samples of a file, the files of a suite, and the
suites (`course_alike`).  A report then is one text with gaps, filled with the times of the
one course or of the other.

It matters here that every time is a number: one that is infinite or none would print as a
word, and as `null` in a document.  A run has at most `2 ^ 32 - 1` samples of a file, and no
statistic of so few leaves the format (`unsigned_of_summarize`).
-/

namespace CrossBench

variable {σ : Type} {host host' : Host σ}

/-- Two hosts that differ in durations only: they show one tree in each world, and every
process has one effect and one end. -/
structure Host.Alike (host host' : Host σ) : Prop where
  view : host.view = host'.view
  world : ∀ s w, (host.run s w).world = (host'.run s w).world
  ending : ∀ s w, (host.run s w).ending = (host'.run s w).ending

/-! ## Samples

From one start to the samples of a file: the machines stay equal, the durations differ.
-/

namespace Host.Alike

variable (alike : host.Alike host')

include alike

/-- Hosts that are alike show the same tree. -/
theorem tree (m : Machine σ) : m.tree host = m.tree host' := by
  rw [Machine.tree, Machine.tree, alike.view]

theorem start (s : Start) (m : Machine σ) :
    (m.start host s).1 = (m.start host' s).1 ∧ (m.start host s).2.1 = (m.start host' s).2.1 := by
  simp only [Machine.start, alike.world, alike.ending, and_self]

theorem invoke (command : Command) (file : Path) (m : Machine σ) :
    (Sampling.invoke host command file m).1 = (Sampling.invoke host' command file m).1 ∧
      (Sampling.invoke host command file m).2.1 = (Sampling.invoke host' command file m).2.1 := by
  cases command with
  | nil => exact ⟨rfl, rfl⟩
  | cons program args =>
      obtain ⟨machine, ending⟩ := alike.start (.ofCommand (program :: args) file) m
      exact ⟨machine, congrArg Ending.succeeded ending⟩

/-- Runs of one file leave one machine, and the same of them end well. -/
theorem repeated (command : Command) (file : Path) (n : Nat) (m : Machine σ) :
    (Sampling.repeated host command file n m).1 = (Sampling.repeated host' command file n m).1 ∧
      (Sampling.repeated host command file n m).2.map (·.1)
        = (Sampling.repeated host' command file n m).2.map (·.1) := by
  induction n generalizing m with
  | zero => exact ⟨rfl, rfl⟩
  | succ n ih =>
      obtain ⟨machine, ended⟩ := alike.invoke command file m
      obtain ⟨last, others⟩ := ih (Sampling.invoke host command file m).1
      simp only [Sampling.repeated, List.map_cons]
      rw [ended, others, last, machine]
      exact ⟨rfl, rfl⟩

/-- **A file sampled twice**: one machine is left, as many samples are taken, and as many
runs have failed. -/
theorem collect (plan : Plan) (command : Command) (file : Path) (m : Machine σ) :
    let sampled := Sampling.collect host plan command file m
    let sampled' := Sampling.collect host' plan command file m
    sampled.1 = sampled'.1 ∧ sampled.2.failedRuns = sampled'.2.failedRuns ∧
      sampled.2.samples.length = plan.iterations.toNat ∧
      sampled'.2.samples.length = plan.iterations.toNat := by
  -- the warmup is run for the machine that it leaves
  have warm := (alike.repeated command file plan.warmup.toNat m).1
  simp only [Sampling.collect]
  rw [warm]
  generalize (Sampling.repeated host' command file plan.warmup.toNat m).1 = ready
  obtain ⟨machine, ended⟩ := alike.repeated command file plan.iterations.toNat ready
  have count : ∀ runs : List (Bool × UInt64),
      runs.countP (!·.1) = (runs.map (·.1)).countP (!·) := fun runs => by
    rw [List.countP_map]
    rfl
  refine ⟨machine, ?_, ?_, ?_⟩
  · unfold Sampling.sampleSet
    cases plan.failedRuns with
    | record => rfl
    | flag => simp only [count, ended]
  · exact (List.length_map _).trans (Sampling.length_repeated ..)
  · exact (List.length_map _).trans (Sampling.length_repeated ..)

end Host.Alike

/-- As many samples, few enough, have summaries that differ in times only. -/
theorem alike_summarize (tag : Tag) {samples samples' : List UInt64}
    (count : samples.length = samples'.length) (few : samples.length < 2 ^ 53) :
    Option.Rel Summary.Alike (summarize tag samples) (summarize tag samples') := by
  by_cases any : samples = []
  · subst any
    obtain rfl : samples' = [] := List.eq_nil_of_length_eq_zero count.symm
    have empty : summarize tag [] = none := by simp [summarize, Summary.sortedMillis]
    exact empty ▸ .none
  · have any' : samples' ≠ [] := List.ne_nil_of_length_pos
      (count ▸ List.length_pos_of_ne_nil any)
    obtain ⟨s, found, named, counted⟩ := summarize_of_ne_nil tag any
    obtain ⟨s', found', named', counted'⟩ := summarize_of_ne_nil tag any'
    rw [found, found']
    exact .some ⟨named.trans named'.symm, by rw [counted, counted', count],
      unsigned_of_summarize few found, unsigned_of_summarize (count ▸ few) found'⟩

namespace Run

/-! ## Suites

Along the way through the suites, which stops in both runs at the same suite.
-/

/-- They measure the same file with results that differ in their durations only. -/
theorem result_alike (alike : host.Alike host') (plan : Plan) (job : Job) (m : Machine σ) :
    (job.result (Sampling.collect host plan job.command job.file m).2).Alike
      (job.result (Sampling.collect host' plan job.command job.file m).2) := by
  obtain ⟨-, failed, length, length'⟩ := alike.collect plan job.command job.file m
  have few := plan.iterations.toNat_lt
  exact ⟨rfl, rfl, failed, alike_summarize job.tag (length.trans length'.symm) (by omega)⟩

theorem measured_alike (alike : host.Alike host') (plan : Plan) (js : List Job)
    (m : Machine σ) :
    (measured host plan js m).1 = (measured host' plan js m).1 ∧
      List.Forall₂ FileResult.Alike (measured host plan js m).2
        (measured host' plan js m).2 := by
  induction js generalizing m with
  | nil => exact ⟨rfl, .nil⟩
  | cons job rest ih =>
      have machine := (alike.collect plan job.command job.file m).1
      obtain ⟨last, others⟩ := ih (Sampling.collect host plan job.command job.file m).1
      simp only [measured]
      rw [← machine]
      exact ⟨last, .cons (result_alike alike plan job m) others⟩

/-- Two ways through suites that differ in times only. -/
structure Passage.Alike (p p' : Passage σ) : Prop where
  machine : p.machine = p'.machine
  reports : List.Forall₂ SuiteReport.Alike p.reports p'.reports
  stop : p.stop = p'.stop

theorem passage_alike (alike : host.Alike host') (registry : Registry) (plan : Plan)
    (directories : List Path) (m : Machine σ) :
    (passage host registry plan directories m).Alike
      (passage host' registry plan directories m) := by
  induction directories generalizing m with
  | nil => exact ⟨rfl, .nil, rfl⟩
  | cons directory rest ih =>
      unfold passage
      -- both hosts show the same tree, so the suite is listed or not in both
      rw [← alike.tree m]
      cases Suites.files (m.tree host) directory with
      | error e => exact ⟨rfl, .nil, rfl⟩
      | ok files =>
          obtain ⟨machine, results⟩ := measured_alike alike plan (jobs registry files) m
          have onward := ih (measured host plan (jobs registry files) m).1
          dsimp only
          rw [← machine]
          exact ⟨onward.machine, .cons ⟨rfl, rfl, rfl, results⟩ onward.reports, onward.stop⟩

/-! ## The whole run

Building takes no time that is reported.
-/

theorem apply_alike (alike : host.Alike host') (gate : Gate) (registry : Registry)
    (staleness : Staleness) (skipBuild : Bool) (m : Machine σ) :
    gate.apply host registry staleness skipBuild m
      = gate.apply host' registry staleness skipBuild m := by
  have built : gate.build host m = gate.build host' m := by
    obtain ⟨machine, ending⟩ := alike.start gate.buildStart m
    unfold Gate.build
    split
    · rfl
    · simp only [machine, ending, alike.tree]
  unfold Gate.apply
  rw [built]

theorem prepared_alike (alike : host.Alike host') (settings : Settings)
    (options : RunOptions) (m : Machine σ) :
    prepared host settings options m = prepared host' settings options m := by
  simp only [prepared, alike.tree, apply_alike alike]

/-- How many files there are results for is not a matter of times. -/
theorem fileCount_alike {reports reports' : List SuiteReport}
    (alike : List.Forall₂ SuiteReport.Alike reports reports') :
    fileCount reports = fileCount reports' := by
  induction alike with
  | nil => rfl
  | cons pair _ ih => rw [fileCount, fileCount, pair.results.length_eq, ih]

/-- Two courses that differ in times only: there is one front and one back around the
events of the suites. -/
structure Course.Alike (plan : Plan) (c c' : Course σ) : Prop where
  machine : c.machine = c'.machine
  answer : c.answer = c'.answer
  reports : List.Forall₂ SuiteReport.Alike c.reports c'.reports
  events : ∃ front back, c.events = front ++ c.reports.flatMap (suiteEvents plan) ++ back ∧
    c'.events = front ++ c'.reports.flatMap (suiteEvents plan) ++ back

/-- **A run twice.**  On hosts that differ in durations only the courses of a run differ in
times only. -/
theorem course_alike (alike : host.Alike host') (settings : Settings) (options : RunOptions)
    (m : Machine σ) :
    (course host settings options m).Alike options.plan (course host' settings options m) := by
  dsimp only [course]
  rw [← prepared_alike alike]
  generalize prepared host settings options m = start
  unfold tour
  rw [← alike.tree]
  split
  · exact ⟨rfl, rfl, .nil, start.events, [], by simp, by simp⟩
  · exact ⟨rfl, rfl, .nil, start.events, [.noSuites (settings.benchmarksRoot options.root)],
      by simp, by simp⟩
  · next first rest _ =>
    have way := passage_alike alike start.registry options.plan (first :: rest) start.machine
    generalize passage host start.registry options.plan (first :: rest) start.machine = p
      at way ⊢
    generalize passage host' start.registry options.plan (first :: rest) start.machine = p'
      at way ⊢
    have answer : p.answer = p'.answer := by
      unfold Passage.answer
      rw [way.stop, way.reports.length_eq, fileCount_alike way.reports]
    -- behind the events of the suites stands what a way without reports tells
    refine ⟨way.machine, answer, way.reports, start.events,
      (⟨p.machine, [], p.stop⟩ : Passage σ).events options.plan ++ closing p.answer, ?_, ?_⟩
    · simp [Passage.events]
    · simp [Passage.events, way.stop, answer]

/-! ## The report

A course is turned into a text, and the times are where the gaps are.
-/

/-- The times that a run prints, in order: those of all its results, but a document is
written only by a run that answers. -/
def Course.times (format : Format) (c : Course σ) : List Float :=
  match format, c.answer with
  | .json, .error _ => []
  | format, _ => c.reports.flatMap (SuiteReport.times format)

namespace Course.Alike

variable {plan : Plan} {c c' : Course σ}

/-- The durations that are shown of both runs are finite and have no sign. -/
theorem unsigned (pair : c.Alike plan c') (format : Format) :
    ∀ x ∈ c.times format ++ c'.times format, Unsigned x := by
  have all := unsigned_of_alike format pair.reports
  unfold Course.times
  rw [← pair.answer]
  refine List.forall_mem_append.mpr ?_
  split
  · exact ⟨List.forall_mem_nil _, List.forall_mem_nil _⟩
  · exact all

/-- The lines of a format that writes as it goes. -/
theorem sameBut_unlines (pair : c.Alike plan c') {format : Format} {lines : Event → List String}
    (suites : ∀ report report' : SuiteReport, report.Alike report' →
      SameBut format.timeText (report.times format) (report'.times format)
        (unlines ((suiteEvents plan report).flatMap lines))
        (unlines ((suiteEvents plan report').flatMap lines))) :
    SameBut format.timeText (c.reports.flatMap (SuiteReport.times format))
      (c'.reports.flatMap (SuiteReport.times format)) (unlines (c.events.flatMap lines))
      (unlines (c'.events.flatMap lines)) := by
  obtain ⟨front, back, events, events'⟩ := pair.events
  rw [events, events']
  simp only [List.flatMap_append, List.flatMap_assoc, unlines_append]
  exact ((SameBut.unlines_flatMap (pair.reports.imp suites)).before _).behind _

/-- The failed runs are counted alike. -/
theorem failedRuns (pair : c.Alike plan c') :
    c.reports.map (fun report => report.results.map (·.failedRuns))
      = c'.reports.map fun report => report.results.map (·.failedRuns) := by
  have equal {α β : Type} {f : α → β} {as bs : List α}
      (pairs : List.Forall₂ (fun a b => f a = f b) as bs) : as.map f = bs.map f := by
    rw [← List.forall₂_eq_eq_eq]
    exact List.forall₂_map_left_iff.mpr (List.forall₂_map_right_iff.mpr pairs)
  exact equal (pair.reports.imp fun _ _ pair =>
    equal (pair.results.imp fun _ _ pair => pair.failedRuns))

end Course.Alike

/-- **Two reports of one run are the same but for the times**, in every format. -/
theorem text_alike (alike : host.Alike host') (settings : Settings) (options : RunOptions)
    (m : Machine σ) (format : Format) (colored : Bool) :
    let whole := course host settings options m
    let whole' := course host' settings options m
    SameBut format.timeText (whole.times format) (whole'.times format)
      ((Reporter.new format colored).text whole.events)
      ((Reporter.new format colored).text whole'.events) := by
  -- the two courses differ in their times alone, and each format prints a report by itself
  have pair := course_alike alike settings options m
  dsimp only
  cases format with
  | human =>
      rw [Reporter.new, Reporter.text_human, Reporter.text_human]
      refine pair.sameBut_unlines fun report report' alike => ?_
      rw [human_suiteEvents, human_suiteEvents]
      exact Human.sameBut_suiteLines colored options.plan alike
  | csv =>
      rw [Reporter.new, Reporter.text_csv, Reporter.text_csv]
      refine pair.sameBut_unlines fun report report' alike => ?_
      rw [csv_suiteEvents, csv_suiteEvents]
      exact Csv.sameBut_suiteRows options.plan alike
  | json =>
      have document := text_json_course host settings options m colored
      have document' := text_json_course host' settings options m colored
      dsimp only at document document'
      unfold Course.times
      rw [document, document', ← pair.answer]
      -- only a run that ends well has a document
      cases (course host settings options m).answer with
      | error e => exact .same ""
      | ok summary => exact ((Document.twin_ofSuites pair.reports).sameBut 0).behind "\n"

/-- **The times of a run change nothing but the times in its report.**  On two hosts that
differ in durations only a run starts the same processes and leaves the same world, and it
has the same answer.

Every time that it prints, on either host, is finite and has no sign.  There is one text
with gaps, one for each time, and either report is that text with the times of its own run
in the gaps, printed as the format prints them.  So both have as many lines; the counts of
failed runs are the same; and as documents both are read as data of one structure. -/
theorem output_of_alike (alike : host.Alike host') (settings : Settings)
    (options : RunOptions) (world : σ) (format : Format) (colored : Bool) :
    let run := reported host settings options world format colored
    let run' := reported host' settings options world format colored
    let whole := course host settings options (.boot world)
    let whole' := course host' settings options (.boot world)
    run.1 = run'.1 ∧ run.2.machine = run'.2.machine ∧
      whole.reports.map (fun report => report.results.map (·.failedRuns))
        = whole'.reports.map (fun report => report.results.map (·.failedRuns)) ∧
      (∀ x ∈ whole.times format ++ whole'.times format, Unsigned x) ∧
      ∃ (template : Template) (text text' : String),
        output host settings options world format colored = Utf8.encode text ∧
        output host' settings options world format colored = Utf8.encode text' ∧
        template.gaps = (whole.times format).length ∧
        template.gaps = (whole'.times format).length ∧
        text = template.fill ((whole.times format).map format.timeText) ∧
        text' = template.fill ((whole'.times format).map format.timeText) ∧
        Csv.lineBreaks text = Csv.lineBreaks text' ∧
        (format = .json → ∀ summary, run.1 = .ok summary →
          ∃ datum datum', Json.read? text = some datum ∧ Json.read? text' = some datum' ∧
            datum.shape = datum'.shape) := by
  intro run run' whole whole'
  obtain ⟨answer, machine, bytes⟩ := reported_eq host settings options world format colored
  obtain ⟨answer', machine', bytes'⟩ :=
    reported_eq host' settings options world format colored
  have pair := course_alike alike settings options (.boot world)
  have texts := text_alike alike settings options (.boot world) format colored
  obtain ⟨template, gaps, gaps', filled, filled'⟩ := texts.template
  refine ⟨answer.trans (pair.answer.trans answer'.symm),
    machine.trans (pair.machine.trans machine'.symm), pair.failedRuns, pair.unsigned format,
    template, _, _, bytes, bytes', gaps, gaps', filled, filled',
    texts.lineBreaks (lineBreaks_timeText format), ?_⟩
  -- both documents read back, and the readings differ in their numbers alone
  rintro rfl summary answered
  have ended : whole.answer = .ok summary := answer.symm.trans answered
  have document := text_json_course host settings options (.boot world) colored
  have document' := text_json_course host' settings options (.boot world) colored
  dsimp only at document document'
  rw [← pair.answer] at document'
  rw [show (course host settings options (.boot world)).answer = .ok summary from ended]
    at document document'
  rw [document, document']
  exact ⟨_, _, Json.read?_pretty_line _, Json.read?_pretty_line _,
    (Document.twin_ofSuites pair.reports).shape⟩

end Run

namespace Sample

/-- The programs of the sample project, all of which take so long. -/
def paced (nanos : UInt64) : Host Bool where
  view := removing.view
  run s w := { removing.run s w with nanos }

/-- Every file is measured twice, and failed runs are counted. -/
def twice : RunOptions := { options with plan := ⟨2, 0, .flag⟩ }

end Sample

/-- A run of the sample project at two paces. -/
theorem Run.rows_of_two_paces :
    let quick := Sample.paced 1000000
    let slow := Sample.paced 2500000
    (∀ s w, (quick.run s w).nanos ≠ (slow.run s w).nanos) ∧
      (reported quick {} Sample.twice true .csv false).1
        = (reported slow {} Sample.twice true .csv false).1 ∧
      ∃ (template : Template) (text text' : String),
        output quick {} Sample.twice true .csv false = Utf8.encode text ∧
        output slow {} Sample.twice true .csv false = Utf8.encode text' ∧
        text = template.fill
          (((course quick {} Sample.twice (.boot true)).times .csv).map (Decimal.fixed 6)) ∧
        text' = template.fill
          (((course slow {} Sample.twice (.boot true)).times .csv).map (Decimal.fixed 6)) := by
  have alike : (Sample.paced 1000000).Alike (Sample.paced 2500000) :=
    ⟨rfl, fun _ _ => rfl, fun _ _ => rfl⟩
  obtain ⟨answer, -, -, -, template, text, text', bytes, bytes', -, -, filled, filled', -⟩ :=
    output_of_alike alike {} Sample.twice true .csv false
  have differ : (1000000 : UInt64) ≠ 2500000 := by decide
  exact ⟨fun _ _ => differ, answer, template, text, text', bytes, bytes', filled, filled'⟩

end CrossBench
