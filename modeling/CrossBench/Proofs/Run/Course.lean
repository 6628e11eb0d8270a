import CrossBench.Proofs.Process.Trace
import CrossBench.Proofs.Report.Telling
import CrossBench.Run

/-!
# The course of a run

A run does two things: it starts processes, and it tells events.  These are its
`Deed`s, and their order is the order of the run.  A report that cannot be written
only cuts the deeds short, at the event that could not be written.

On a sink that accepts everything the report never disturbs the rest, so a run has a
*course* of its own: the machine that it leaves, the events that it tells, and its
answer, all of them functions of the settings, the options and the machine alone.
The reporter and the sink only see the events.

* `Run.Does` — a computation in a run is some deeds and an answer, whatever the
  reporter and the sink are.  `Does.bind` chains two of them.
* `doing_of_fits` and `doing_of_not_fits` — how far deeds get on a sink.
* `Run.Tells` — what is left of `Does` on a sink that accepts everything.
* `measured`, `passage`, `prepared` — the courses of the parts: through the files
  of a suite, through the suites, and up to them.
* `course` — the course of a whole run, and `runBenchmarks_boundless` — a run on
  a boundless sink is its course, reported.

`passage` stops at the first suite whose files cannot be listed; this is the one
place where what a process did decides whether a later part of the run is
reached.
-/

namespace CrossBench

namespace Run

variable {σ α β : Type}

/-! ## Deeds

What can be seen from outside, as data.  A computation in a run is compared with a list of
deeds and an answer.
-/

/-- Something that a run does and that can be seen from outside: it starts a process,
or it tells an event. -/
inductive Deed where
  | start (s : Start)
  | tell (event : Event)

/-- The process that a deed starts, if it starts one. -/
def Deed.start? : Deed → Option Start
  | .start s => some s
  | .tell _ => none

/-- The event that a deed tells, if it tells one. -/
def Deed.event? : Deed → Option Event
  | .start _ => none
  | .tell event => some event

/-- The processes that deeds start, in order. -/
def started (deeds : List Deed) : List Start := deeds.filterMap Deed.start?

/-- The events that deeds tell, in order. -/
def told (deeds : List Deed) : List Event := deeds.filterMap Deed.event?

theorem started_append (first second : List Deed) :
    started (first ++ second) = started first ++ started second :=
  List.filterMap_append

theorem told_append (first second : List Deed) :
    told (first ++ second) = told first ++ told second :=
  List.filterMap_append

/-- A deed, as a computation in a run. -/
def Deed.act (host : Host σ) : Deed → Run σ Unit
  | .start s => onMachine fun m => ((m.start host s).1, ())
  | .tell event => Run.tell event

/-- Deeds one after the other, up to the first that fails. -/
def doing (host : Host σ) : List Deed → Run σ Unit
  | [] => pure ()
  | deed :: rest => deed.act host >>= fun _ => doing host rest

/-- An answer that is known already. -/
def answering (answer : Except HarnessError α) : Run σ α := fun s => (answer, s)

/-- One computation after another: an error of the first is the answer of both,
and the state is kept either way. -/
theorem run_bind (act : Run σ α) (f : α → Run σ β) (s : RunState σ) :
    (act >>= f).run s =
      match act.run s with
      | (.ok a, s') => (f a).run s'
      | (.error e, s') => (.error e, s') := by
  change (ExceptT.bindCont f (act.run s).1).run (act.run s).2 = _
  rcases act.run s with ⟨answer, s'⟩
  cases answer <;> rfl

/-- Deeds are done in parts, and an error of the first part ends the second. -/
theorem doing_append (host : Host σ) (first second : List Deed) (s : RunState σ) :
    (doing host (first ++ second)).run s
      = (doing host first >>= fun _ => doing host second).run s := by
  induction first generalizing s with
  | nil => rfl
  | cons deed rest ih =>
      rw [List.cons_append, doing, run_bind, run_bind, doing, run_bind]
      rcases (deed.act host).run s with ⟨answer, s'⟩
      cases answer with
      | error e => rfl
      | ok _ =>
          dsimp only
          rw [ih, run_bind]

theorem doing_start (host : Host σ) (x : Start) (rest : List Deed) (s : RunState σ) :
    (doing host (.start x :: rest)).run s
      = (doing host rest).run { s with machine := s.machine.through host [x] } := by
  rw [← Machine.start_eq_through, doing, run_bind]
  rfl

/-- To do an event is to have it handled, and an error ends what follows. -/
theorem doing_tell (host : Host σ) (event : Event) (rest : List Deed) (s : RunState σ) :
    (doing host (.tell event :: rest)).run s =
      match s.reporter.handle event s.sink with
      | (r, sink, .ok ()) => (doing host rest).run ⟨s.machine, r, sink⟩
      | (r, sink, .error e) => (.error e, ⟨s.machine, r, sink⟩) := by
  have act : (Deed.act host (.tell event)).run s
      = ((s.reporter.handle event s.sink).2.2,
        ⟨s.machine, (s.reporter.handle event s.sink).1,
          (s.reporter.handle event s.sink).2.1⟩) := rfl
  rw [doing, run_bind, act]
  rcases s.reporter.handle event s.sink with ⟨r, sink, answer⟩
  cases answer <;> rfl

/-- Starts alone cannot fail. -/
theorem doing_starts (host : Host σ) (starts : List Start) (s : RunState σ) :
    (doing host (starts.map .start)).run s
      = (.ok (), { s with machine := s.machine.through host starts }) := by
  induction starts generalizing s with
  | nil => rw [Machine.through_nil]; rfl
  | cons x rest ih =>
      rw [List.map_cons, doing_start, ih, ← Machine.through_append]
      rfl

/-- Deeds that have succeeded have made their starts. -/
theorem machine_doing (host : Host σ) {deeds : List Deed} {s s' : RunState σ}
    (done : (doing host deeds).run s = (.ok (), s')) :
    s'.machine = s.machine.through host (started deeds) := by
  induction deeds generalizing s with
  | nil =>
      cases done
      exact (Machine.through_nil host _).symm
  | cons deed rest ih =>
      cases deed with
      | start x =>
          rw [doing_start] at done
          rw [ih done, ← Machine.through_append]
          rfl
      | tell event =>
          rw [doing_tell] at done
          -- an event that has been handled leaves the machine alone
          split at done
          · next r sink handled => exact ih (s := ⟨s.machine, r, sink⟩) done
          · cases done

/-! ### Deeds on a sink

By induction on the deeds.  A start needs no room, an event needs the room of its text for
the reporter that the events before it have left.
-/

/-- Deeds whose events there is room for are done to the last. -/
theorem doing_of_fits (host : Host σ) {deeds : List Deed} {m : Machine σ} {r : Reporter}
    {sink : Sink} (room : sink.fits (Utf8.encode (r.text (told deeds))) = true) :
    (doing host deeds).run ⟨m, r, sink⟩
      = (.ok (), ⟨m.through host (started deeds), r.after (told deeds),
          sink.fill (Utf8.encode (r.text (told deeds)))⟩) := by
  induction deeds generalizing m r sink with
  | nil =>
      change (Except.ok (), _) = _
      simp [told, started]
  | cons deed rest ih =>
      cases deed with
      -- a start writes nothing, so the room is the same
      | start x =>
          rw [doing_start]
          refine (ih room).trans ?_
          rw [← Machine.through_append]
          rfl
      | tell event =>
          have parted : told (.tell event :: rest) = event :: told rest := rfl
          rw [parted, Reporter.text_parted, Utf8.encode_append] at room ⊢
          -- room for the whole text is room for this event and for the rest behind it
          rw [Sink.fits_append, Bool.and_eq_true] at room
          rw [doing_tell, Reporter.handle_of_fits room.1]
          dsimp only
          rw [ih room.2, Sink.fill_append]
          rfl

/-- Deeds whose events there is no room for are done up to one of the events: those
before it are written whole, of it the sink keeps the start, and nothing is done behind
it. -/
theorem doing_of_not_fits (host : Host σ) {deeds : List Deed} {m : Machine σ}
    {r : Reporter} {sink : Sink}
    (tight : sink.fits (Utf8.encode (r.text (told deeds))) = false) :
    ∃ before event rest, deeds = before ++ .tell event :: rest ∧
      sink.fits (Utf8.encode (r.text (told before))) = true ∧
      sink.fits (Utf8.encode (r.text (told before ++ [event]))) = false ∧
      ∃ e, ((sink.fill (Utf8.encode (r.text (told before)))).deliver
          (((r.after (told before)).note event).chunks event)).2 = .error e ∧
        (doing host deeds).run ⟨m, r, sink⟩
          = (.error e, ⟨m.through host (started before),
              (r.after (told before)).note event,
              sink.fill (Utf8.encode (r.text (told deeds)))⟩) := by
  induction deeds generalizing m r sink with
  | nil => simp [told] at tight
  | cons deed rest ih =>
      cases deed with
      | start x =>
          obtain ⟨before, event, left, rfl, fit, short, e, delivered, done⟩ :=
            ih (m := m.through host [x]) tight
          refine ⟨.start x :: before, event, left, rfl, fit, short, e, delivered, ?_⟩
          rw [doing_start]
          refine done.trans ?_
          rw [← Machine.through_append]
          rfl
      | tell event =>
          have parted : told (.tell event :: rest) = event :: told rest := rfl
          rw [parted, Reporter.text_parted, Utf8.encode_append] at tight ⊢
          cases here : sink.fits (Utf8.encode (r.text [event])) with
          | false =>
              -- this is the event that breaks off
              obtain ⟨e, delivered, handled⟩ := Reporter.handle_of_not_fits here
              refine ⟨[], event, rest, rfl, by simp [told], here, e, ?_, ?_⟩
              · simpa [told] using delivered
              · rw [doing_tell, handled, Sink.fill_append, Sink.fill_of_not_fits here]
                simp [told, started]
          | true =>
              -- this event still fits, so a later one breaks off
              rw [Sink.fits_append, here, Bool.true_and] at tight
              obtain ⟨before, stopped, left, rfl, fit, short, e, delivered, done⟩ :=
                ih (m := m) tight
              have behind : told (.tell event :: before) = event :: told before := rfl
              refine ⟨.tell event :: before, stopped, left, rfl, ?_, ?_, e, ?_, ?_⟩
              · rw [behind, Reporter.text_parted, Utf8.encode_append, Sink.fits_append,
                  here, fit]
                rfl
              · rw [behind, List.cons_append, Reporter.text_parted, Utf8.encode_append,
                  Sink.fits_append, here, short]
                rfl
              · rw [behind, Reporter.text_parted, Utf8.encode_append, Sink.fill_append]
                exact delivered
              · rw [doing_tell, Reporter.handle_of_fits here]
                dsimp only
                rw [done, Sink.fill_append]
                rfl

/-! ### Computations and their deeds

`Does` is what each part of a run is proved to satisfy, and `bind` is how the parts are
chained.  Nothing but an event can fail, so an error of a part is known from its answer
alone.
-/

/-- **What a computation does.**  Begun with the machine `m`, it does some deeds and
gives an answer: the deeds tell `events` and lead to the machine `last`, and whatever
the reporter is and however much the sink holds, the computation is these deeds, up
to the first event that cannot be written, and then the answer. -/
def Does (host : Host σ) (act : Run σ α) (m : Machine σ) (events : List Event)
    (last : Machine σ) (answer : Except HarnessError α) : Prop :=
  ∃ deeds, told deeds = events ∧ m.through host (started deeds) = last ∧
    ∀ (r : Reporter) (sink : Sink),
      act.run ⟨m, r, sink⟩
        = (doing host deeds >>= fun _ => answering answer).run ⟨m, r, sink⟩

namespace Does

variable {host : Host σ} {m m' m'' : Machine σ} {act : Run σ α} {f : α → Run σ β}

/-- A computation that leaves everything alone does nothing. -/
theorem of_silent {answer : Except HarnessError α}
    (h : ∀ (r : Reporter) (sink : Sink),
      act.run ⟨m, r, sink⟩ = (answer, ⟨m, r, sink⟩)) :
    Does host act m [] m answer :=
  ⟨[], rfl, Machine.through_nil host m, fun r sink => h r sink⟩

theorem pure (m : Machine σ) (a : α) :
    Does host (Pure.pure a : Run σ α) m [] m (.ok a) :=
  of_silent fun _ _ => rfl

theorem askTree (host : Host σ) (question : Tree → α) (m : Machine σ) :
    Does host (Run.askTree host question) m [] m (.ok (question (m.tree host))) :=
  of_silent fun _ _ => rfl

theorem demandTree (host : Host σ) (question : Tree → Except HarnessError α)
    (m : Machine σ) :
    Does host (Run.demandTree host question) m [] m (question (m.tree host)) :=
  of_silent fun _ _ => rfl

/-- An act on the machine that is a list of starts. -/
theorem onMachine {act : Machine σ → Machine σ × α} {starts : List Start}
    (traced : (act m).1 = m.through host starts) :
    Does host (Run.onMachine act) m [] (act m).1 (.ok (act m).2) := by
  refine ⟨starts.map .start, ?_, ?_, fun r sink => ?_⟩
  · exact List.filterMap_eq_nil_iff.mpr fun deed mem => by
      obtain ⟨x, -, rfl⟩ := List.mem_map.mp mem
      rfl
  · rw [traced, started, List.filterMap_map]
    exact congrArg (m.through host) List.filterMap_some
  · rw [run_bind, doing_starts, ← traced]
    rfl

theorem tell (event : Event) (m : Machine σ) :
    Does host (Run.tell event) m [event] m (.ok ()) := by
  refine ⟨[.tell event], rfl, Machine.through_nil host m, fun r sink => ?_⟩
  rw [run_bind, doing_tell]
  have told : (Run.tell event).run ⟨m, r, sink⟩
      = ((r.handle event sink).2.2,
        ⟨m, (r.handle event sink).1, (r.handle event sink).2.1⟩) := rfl
  rw [told]
  rcases r.handle event sink with ⟨r', sink', answer⟩
  cases answer <;> rfl

/-- **Chaining.**  The second computation does its deeds behind those of the first
one. -/
theorem bind {a : α} {events events' : List Event} {answer : Except HarnessError β}
    (first : Does host act m events m' (.ok a))
    (second : Does host (f a) m' events' m'' answer) :
    Does host (act >>= f) m (events ++ events') m'' answer := by
  obtain ⟨deeds, rfl, rfl, here⟩ := first
  obtain ⟨deeds', rfl, rfl, there⟩ := second
  refine ⟨deeds ++ deeds', told_append .., ?_, fun r sink => ?_⟩
  · rw [started_append, Machine.through_append]
  · rw [run_bind, here, run_bind, run_bind, doing_append, run_bind]
    cases done : (doing host deeds).run ⟨m, r, sink⟩ with
    | mk result s' =>
        cases result with
        | error e => rfl
        | ok _ =>
            -- the second one begins with the machine that the starts of the first have left
            obtain ⟨last, r', sink'⟩ := s'
            have machine := machine_doing host done
            dsimp only at machine
            subst machine
            exact (there r' sink').trans (run_bind ..)

/-- An error ends the chain. -/
theorem bind_error {e : HarnessError} {events : List Event}
    (first : Does host act m events m' (.error e)) :
    Does host (act >>= f) m events m' (.error e) := by
  obtain ⟨deeds, told, machine, here⟩ := first
  refine ⟨deeds, told, machine, fun r sink => ?_⟩
  rw [run_bind, here, run_bind, run_bind]
  rcases (doing host deeds).run ⟨m, r, sink⟩ with ⟨result, s'⟩
  cases result <;> rfl

/-- Behind a computation that tells nothing stand the events of the second one. -/
theorem silent_bind {a : α} {events : List Event} {answer : Except HarnessError β}
    (first : Does host act m [] m' (.ok a))
    (second : Does host (f a) m' events m'' answer) :
    Does host (act >>= f) m events m'' answer :=
  first.bind second

/-- A computation whose answer is only worked over. -/
theorem map {a : α} {events : List Event} (g : α → β)
    (first : Does host act m events m' (.ok a)) :
    Does host (act >>= fun x => Pure.pure (g x)) m events m' (.ok (g a)) := by
  have chained := first.bind (f := fun x => Pure.pure (g x)) (pure m' (g a))
  rwa [List.append_nil] at chained

end Does

/-- **What a computation tells.**  Begun with the machine `m`, it answers
`answer`, leaves the machine `last` and tells `events`: this is what becomes of
every reporter and every sink that accepts everything. -/
def Tells (act : Run σ α) (m : Machine σ) (events : List Event)
    (last : Machine σ) (answer : Except HarnessError α) : Prop :=
  ∀ (r : Reporter) (written : Array UInt8),
    act.run ⟨m, r, .boundless written⟩
      = (answer, ⟨last, r.after events,
          .boundless (written ++ (Utf8.encode (r.text events)).toArray)⟩)

/-- On a boundless sink a computation does all its deeds. -/
theorem Does.tells {host : Host σ} {act : Run σ α} {m last : Machine σ}
    {events : List Event} {answer : Except HarnessError α}
    (does : Does host act m events last answer) : Tells act m events last answer := by
  obtain ⟨deeds, rfl, rfl, done⟩ := does
  intro r written
  have room : (Sink.boundless written).fits (Utf8.encode (r.text (told deeds))) = true :=
    rfl
  rw [done, run_bind, doing_of_fits host room]
  rfl

/-! ## Through the files of a suite

The file is sampled first and told afterwards.
-/

/-- A file that can be measured, with the command that runs it. -/
structure Job where
  file : Path
  tag : Tag
  command : Command

/-- What is reported for a file once it has been sampled. -/
def Job.result (job : Job) (samples : SampleSet) : FileResult where
  file := job.file.label
  tag := job.tag
  summary := summarize job.tag samples.samples
  failedRuns := samples.failedRuns

/-- Those of the files that can be measured, in order. -/
def jobs (registry : Registry) (files : List Path) : List Job :=
  files.filterMap fun file =>
    (runnable? registry file).map fun (tag, command) => ⟨file, tag, command⟩

/-- Jobs done one after the other, and what is reported for them. -/
def measured (host : Host σ) (plan : Plan) :
    List Job → Machine σ → Machine σ × List FileResult
  | [], m => (m, [])
  | job :: rest, m =>
      let sampled := Sampling.collect host plan job.command job.file m
      let onward := measured host plan rest sampled.1
      (onward.1, job.result sampled.2 :: onward.2)

/-- Measuring a file makes the starts of its job and tells its result. -/
theorem measure_does (host : Host σ) (plan : Plan) (suite : String) (job : Job)
    (m : Machine σ) :
    let sampled := Sampling.collect host plan job.command job.file m
    Does host (measure host plan suite job.tag job.command job.file) m
      [.fileMeasured suite plan (job.result sampled.2)] sampled.1
      (.ok (job.result sampled.2)) :=
  have ⟨_, traced⟩ := Sampling.exists_collect_eq_through host plan job.command job.file m
  .silent_bind (.onMachine traced) (.map _ (.tell _ _))

theorem measureAll_does (host : Host σ) (registry : Registry) (plan : Plan)
    (suite : String) (files : List Path) (m : Machine σ) :
    let way := measured host plan (jobs registry files) m
    Does host (measureAll host registry plan suite files) m
      (way.2.map (.fileMeasured suite plan)) way.1 (.ok way.2) := by
  induction files generalizing m with
  | nil => exact .pure m []
  | cons file rest ih =>
      -- a file that cannot be run is passed over in silence
      cases found : runnable? registry file with
      | none =>
          simp only [measureAll, jobs, found, List.filterMap_cons, Option.map_none]
          exact ih m
      | some runner =>
          simp only [measureAll, jobs, found, List.filterMap_cons, Option.map_some]
          have here := measure_does host plan suite ⟨file, runner.1, runner.2⟩ m
          exact here.bind (.map _ (ih _))

/-! ## Through the suites

The recursion lists a suite in the machine that the suites before it have left.
-/

/-- How far a run got through its suites. -/
structure Passage (σ : Type) where
  machine : Machine σ
  /-- The reports of the suites that were finished, in order. -/
  reports : List SuiteReport
  /-- The suite whose files could not be listed, if there was one, and why. -/
  stop : Option (Path × HarnessError)

/-- The way through one more suite in front of the others. -/
def Passage.behind (report : SuiteReport) (onward : Passage σ) : Passage σ :=
  { onward with reports := report :: onward.reports }

/-- The way through suites.  The files of a suite are listed when it is reached,
and the way ends at the first suite whose files cannot be listed. -/
def passage (host : Host σ) (registry : Registry) (plan : Plan) :
    List Path → Machine σ → Passage σ
  | [], m => ⟨m, [], none⟩
  | directory :: rest, m =>
      match Suites.files (m.tree host) directory with
      | .error e => ⟨m, [], some (directory, e)⟩
      | .ok files =>
          let way := measured host plan (jobs registry files) m
          (passage host registry plan rest way.1).behind
            ⟨directory.label, plan.iterations, plan.warmup, way.2⟩

/-- The events of a finished suite. -/
def suiteEvents (plan : Plan) (report : SuiteReport) : List Event :=
  .suiteStarted report.name plan
    :: (report.results.map (.fileMeasured report.name plan)
      ++ [.suiteFinished report])

/-- How many files suites have results for. -/
def fileCount : List SuiteReport → Nat
  | [] => 0
  | report :: rest => report.results.length + fileCount rest

namespace Passage

/-- The events on the way: those of the finished suites, and the start of the one
whose files could not be listed. -/
def events (plan : Plan) (p : Passage σ) : List Event :=
  p.reports.flatMap (suiteEvents plan)
    ++ (p.stop.map fun (directory, _) =>
        Event.suiteStarted directory.label plan).toList

/-- The answer of the run, unless the report fails. -/
def answer (p : Passage σ) : Except HarnessError RunSummary :=
  match p.stop with
  | none => .ok ⟨p.reports.length, fileCount p.reports⟩
  | some (_, e) => .error e

theorem events_behind (plan : Plan) (report : SuiteReport) (p : Passage σ) :
    (p.behind report).events plan = suiteEvents plan report ++ p.events plan := by
  simp only [events, behind, List.flatMap_cons, List.append_assoc]

/-- One more suite counts itself and its files, unless the way was stopped. -/
theorem answer_behind (report : SuiteReport) (p : Passage σ) :
    (p.behind report).answer =
      p.answer.map fun counted =>
        ⟨counted.suites + 1, report.results.length + counted.measuredFiles⟩ := by
  unfold answer behind
  cases p.stop <;> rfl

end Passage

/-- A suite that can be listed is announced, measured and finished. -/
theorem runSuite_does_of_ok {host : Host σ} {directory : Path} {m : Machine σ}
    {files : List Path} (registry : Registry) (plan : Plan)
    (listed : Suites.files (m.tree host) directory = .ok files) :
    let way := measured host plan (jobs registry files) m
    let report : SuiteReport :=
      ⟨directory.label, plan.iterations, plan.warmup, way.2⟩
    Does host (runSuite host registry plan directory) m (suiteEvents plan report) way.1
      (.ok report) := by
  have list := Does.demandTree host (Suites.files · directory) m
  rw [listed] at list
  have files := measureAll_does host registry plan directory.label files m
  exact .bind (.tell _ m) (.silent_bind list (.bind files (.map _ (.tell _ _))))

/-- A suite that cannot be listed is announced, and the run ends with the error. -/
theorem runSuite_does_of_error {host : Host σ} {directory : Path} {m : Machine σ}
    {e : HarnessError} (registry : Registry) (plan : Plan)
    (unlisted : Suites.files (m.tree host) directory = .error e) :
    Does host (runSuite host registry plan directory) m
      [.suiteStarted directory.label plan] m (.error e) := by
  have list := Does.demandTree host (Suites.files · directory) m
  rw [unlisted] at list
  exact .bind (.tell _ m) (.bind_error list)

/-- Suites are gone through one by one, up to the first that cannot be listed. -/
theorem runSuites_does (host : Host σ) (registry : Registry) (plan : Plan)
    (directories : List Path) (m : Machine σ) :
    let way := passage host registry plan directories m
    Does host (runSuites host registry plan directories) m (way.events plan) way.machine
      way.answer := by
  -- for every machine, because a suite begins with what the one before it has left
  induction directories generalizing m with
  | nil => exact .pure m _
  | cons directory rest ih =>
      cases listed : Suites.files (m.tree host) directory with
      | error e =>
          simp only [passage, listed]
          exact .bind_error (runSuite_does_of_error registry plan listed)
      | ok files =>
          simp only [passage, listed]
          have here := runSuite_does_of_ok registry plan listed
          have there := ih (measured host plan (jobs registry files) m).1
          dsimp only at there
          rw [Passage.events_behind, Passage.answer_behind]
          refine here.bind ?_
          cases answered : (passage host registry plan rest
              (measured host plan (jobs registry files) m).1).answer with
          | error e =>
              rw [answered] at there
              exact .bind_error there
          | ok counted =>
              rw [answered] at there
              exact .map _ there

/-! ## Up to the suites, and the whole run

Building, finding the suites, and the way through them, in this order.
-/

/-- A run that has dealt with the native program. -/
structure Prepared (σ : Type) where
  machine : Machine σ
  registry : Registry
  events : List Event

/-- What is done about the native program before the suites are looked for. -/
def prepared (host : Host σ) (settings : Settings) (options : RunOptions)
    (m : Machine σ) : Prepared σ :=
  let gate := Gate.ofSettings settings.native options.root
  let staleness := gate.check (m.tree host)
  let (last, registry, outcome) :=
    gate.apply host settings.registry staleness options.skipBuild m
  ⟨last, registry,
    (if staleness.isStale && !options.skipBuild then
        [.buildStarted gate staleness] else [])
      ++ [.buildFinished gate outcome]⟩

theorem prepare_does (host : Host σ) (settings : Settings) (options : RunOptions)
    (m : Machine σ) :
    let ready := prepared host settings options m
    Does host (prepare host settings options) m ready.events ready.machine
      (.ok ready.registry) := by
  have built := Does.onMachine (Gate.apply_eq_through host
    (Gate.ofSettings settings.native options.root) settings.registry
    ((Gate.ofSettings settings.native options.root).check (m.tree host))
    options.skipBuild m)
  refine .silent_bind (.askTree host _ m) ?_
  dsimp only [prepared]
  split
  · exact .bind (.tell _ m) (.silent_bind built (.map _ (.tell _ _)))
  · exact .silent_bind built (.map _ (.tell _ _))

/-- What a run does, apart from its report. -/
structure Course (σ : Type) where
  machine : Machine σ
  events : List Event
  /-- The reports of the suites that were finished, in order. -/
  reports : List SuiteReport
  answer : Except HarnessError RunSummary

/-- The end of a run that got through its suites, or did not. -/
def closing : Except HarnessError RunSummary → List Event
  | .ok _ => [.runFinished]
  | .error _ => []

/-- The course of a run that has dealt with the native program: the suites are
looked for, and the way goes through them. -/
def tour (host : Host σ) (registry : Registry) (plan : Plan) (root : Path)
    (suite : Option String) (m : Machine σ) : Course σ :=
  match Suites.resolve (m.tree host) root suite with
  | .error e => ⟨m, [], [], .error e⟩
  | .ok [] => ⟨m, [.noSuites root], [], .ok ⟨0, 0⟩⟩
  | .ok (first :: rest) =>
      let way := passage host registry plan (first :: rest) m
      ⟨way.machine, way.events plan ++ closing way.answer, way.reports, way.answer⟩

/-- **The course of a run**: the native program is dealt with, and then the
suites are. -/
def course (host : Host σ) (settings : Settings) (options : RunOptions)
    (m : Machine σ) : Course σ :=
  let ready := prepared host settings options m
  let onward := tour host ready.registry options.plan
    (settings.benchmarksRoot options.root) options.suite ready.machine
  { onward with events := ready.events ++ onward.events }

/-- Behind the suites the end of the run is told, unless one of them ended it. -/
theorem runSuites_does_closing (host : Host σ) (registry : Registry) (plan : Plan)
    (directories : List Path) (m : Machine σ) :
    let way := passage host registry plan directories m
    Does host (do
        let summary ← runSuites host registry plan directories
        tell .runFinished
        return summary)
      m (way.events plan ++ closing way.answer) way.machine way.answer := by
  have suites := runSuites_does host registry plan directories m
  dsimp only at suites ⊢
  cases answered : (passage host registry plan directories m).answer with
  | error e =>
      rw [answered] at suites
      -- an error ends the run without the last event
      rw [closing, List.append_nil]
      exact .bind_error suites
  | ok summary =>
      rw [answered] at suites
      exact .bind suites (.map _ (.tell _ _))

/-- **Pinning makes no difference** to what a run does: it only says whether it was done. -/
theorem pin_bind (host : Host σ) (core : Option UInt64) (act : Run σ α) :
    (pin host core >>= fun _ => act) = act := pure_bind _ _

/-- A whole run is its course: it deals with the native program, finds the suites and goes
through them. -/
theorem benchmarks_does (host : Host σ) (settings : Settings) (options : RunOptions)
    (m : Machine σ) :
    let whole := course host settings options m
    Does host (benchmarks host settings options) m whole.events whole.machine
      whole.answer := by
  dsimp only [course]
  refine .bind (prepare_does host settings options m) ?_
  have look := Does.demandTree host
    (Suites.resolve · (settings.benchmarksRoot options.root) options.suite)
    (prepared host settings options m).machine
  unfold tour
  split
  next e found =>
    rw [found] at look
    exact .bind_error look
  next found =>
    rw [found] at look
    refine .silent_bind look ?_
    rw [if_pos List.isEmpty_nil]
    exact .map _ (.tell _ _)
  next first rest found =>
    rw [found] at look
    refine .silent_bind look ?_
    rw [if_neg (by simp)]
    -- the pin leaves machine, reporter and sink alone
    rw [pin_bind]
    exact runSuites_does_closing host _ options.plan (first :: rest) _

end Run

/-- **A run is its course, reported.**  On a sink that accepts everything the
machine and the answer do not depend on the reporter, and what is written is the
text of the run's events for it. -/
theorem runBenchmarks_boundless {σ : Type} (host : Host σ) (settings : Settings)
    (options : RunOptions) (m : Machine σ) (r : Reporter) (written : Array UInt8) :
    let whole := Run.course host settings options m
    runBenchmarks host settings options ⟨m, r, .boundless written⟩
      = (whole.answer, ⟨whole.machine, r.after whole.events,
          .boundless (written ++ (Utf8.encode (r.text whole.events)).toArray)⟩) :=
  (Run.benchmarks_does host settings options m).tells r written

end CrossBench
