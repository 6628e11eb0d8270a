import CrossBench.Proofs.Run.Starts
import Mathlib

/-!
# How a run ends

With a report that can be written, only two things end a run early: suites that
cannot be resolved, and a suite whose files cannot be listed when its turn comes.
The second depends on what the programs do, because a suite is listed in the
world that the starts before it have left: a script can remove a suite that has
not been reached.

`answer_runBenchmarks` says exactly which of the endings a run has, and
`not_every_resolved_run_answers` that the second one does occur.
-/

namespace CrossBench

namespace Suites

theorem listSorted_error {tree : Tree} {directory : Path} {keep : Path → Bool}
    {e : HarnessError} (unlisted : listSorted tree directory keep = .error e) :
    ∃ reason, tree.list directory = .error reason ∧ e = .io directory reason := by
  unfold listSorted at unlisted
  split at unlisted
  · next reason found =>
    cases unlisted
    exact ⟨reason, found, rfl⟩
  · cases unlisted

end Suites

namespace Run

variable {σ : Type}

/-! ## What the reports are about

Which suites and files there are results for can be told from the visits, without a sample.
-/

/-- The name of a suite, and the files and runtimes that it has results for. -/
def outline (report : SuiteReport) : String × List (String × Tag) :=
  (report.name, report.results.map fun result => (result.file, result.tag))

/-- What a visit is to be reported as. -/
def Visit.outline (registry : Registry) (v : Visit) : String × List (String × Tag) :=
  (v.directory.label, (jobs registry v.files).map fun job => (job.file.label, job.tag))

theorem measured_outline (host : Host σ) (plan : Plan) (js : List Job)
    (m : Machine σ) :
    (measured host plan js m).2.map (fun result => (result.file, result.tag))
      = js.map fun job => (job.file.label, job.tag) := by
  induction js generalizing m with
  | nil => rfl
  | cons job rest ih => simp only [measured, List.map_cons, ih, Job.result]

/-- **One report for each visit**, with one result for each file that can be
measured, in order. -/
theorem passage_outline (host : Host σ) {registry : Registry}
    (invocable : registry.Invocable) (plan : Plan) (directories : List Path)
    (m : Machine σ) :
    (passage host registry plan directories m).reports.map outline
      = (visits host registry plan directories m.world).map (Visit.outline registry) := by
  induction directories generalizing m with
  | nil => rfl
  | cons directory rest ih =>
      unfold passage visits
      cases listed : Suites.files (m.tree host) directory with
      | error e =>
          have unlisted : Suites.files (host.view m.world) directory = .error e := listed
          simp [unlisted]
      | ok files =>
          have listed' : Suites.files (host.view m.world) directory = .ok files := listed
          -- the next suite is listed where the starts of this one have led
          have way := visit_eq_through host invocable plan ⟨directory, files⟩ m
          simp only [listed', Passage.behind, List.map_cons, ih]
          rw [way, Machine.through_world]
          simp only [outline, measured_outline, Visit.outline]

theorem fileCount_eq (reports : List SuiteReport) :
    fileCount reports = ((reports.map outline).flatMap Prod.snd).length := by
  induction reports with
  | nil => rfl
  | cons report rest ih => simp [fileCount, ih, outline]

/-- A way that was not stopped has the suites that were visited and the files
that could be measured there for its answer. -/
theorem answer_of_through (host : Host σ) {registry : Registry}
    (invocable : registry.Invocable) (plan : Plan) (directories : List Path)
    (m : Machine σ)
    (through : (passage host registry plan directories m).stop = none) :
    let seen := visits host registry plan directories m.world
    (passage host registry plan directories m).answer
      = .ok ⟨seen.length, (seen.flatMap fun v => jobs registry v.files).length⟩ := by
  have outlined := passage_outline host invocable plan directories m
  have suites := congrArg List.length outlined
  rw [List.length_map, List.length_map] at suites
  simp only [Passage.answer, through]
  rw [suites, fileCount_eq, outlined]
  simp [List.length_flatMap, Visit.outline, Function.comp_def]

/-- The answer of a tour, from the suites that it was to go through. -/
theorem tour_answer (host : Host σ) {registry : Registry}
    (invocable : registry.Invocable) (plan : Plan) (root : Path)
    (suite : Option String) (m : Machine σ) :
    match Suites.resolve (m.tree host) root suite with
    | .error e => (tour host registry plan root suite m).answer = .error e
    | .ok suites =>
        let seen := visits host registry plan suites m.world
        let last := tour host registry plan root suite m
        (seen.map Visit.directory = suites ∧
            last.answer = .ok ⟨suites.length,
              (seen.flatMap fun v => jobs registry v.files).length⟩) ∨
          (∃ directory rest reason,
            suites = seen.map Visit.directory ++ directory :: rest ∧
              (last.machine.tree host).list directory = .error reason ∧
              last.answer = .error (.io directory reason)) := by
  unfold tour
  cases found : Suites.resolve (m.tree host) root suite with
  | error e => rfl
  | ok suites =>
      cases suites with
      | nil => exact .inl ⟨rfl, rfl⟩
      | cons first rest =>
          have stop := passage_stop host invocable plan (first :: rest) m
          split at stop
          next through =>
            refine .inl ⟨stop, ?_⟩
            -- every suite was visited, so the counts are those of the visits
            have counted := congrArg List.length stop
            rw [List.length_map] at counted
            rw [← counted]
            exact answer_of_through host invocable plan (first :: rest) m through
          next directory e through =>
            obtain ⟨⟨left, split⟩, unlisted⟩ := stop
            obtain ⟨reason, found, rfl⟩ := Suites.listSorted_error unlisted
            refine .inr ⟨directory, left, reason, split, found, ?_⟩
            simp only [Passage.answer, through]

/-! ## The endings of a run

Three of them: no suites to go through, all of them gone through, or one that could not be
listed.
-/

/-- **How a run ends**, whatever the programs do, with a report that can be
written.  If the suites cannot be resolved, that is its answer.  Otherwise there
are two cases, which exclude each other: every suite could be listed when its
turn came, and the run answers with their number and the number of the files
measured in them; or there is a first suite that could not, after the suites that
were visited, and the run answers with this suite and the reason why it cannot be
listed in the tree that the run leaves. -/
theorem answer_runBenchmarks (host : Host σ) (settings : Settings)
    (options : RunOptions) (world : σ) (r : Reporter) (written : Array UInt8) :
    let gate := Gate.ofSettings settings.native options.root
    let staleness := gate.check (host.view world)
    let built := host.after (gate.starts staleness options.skipBuild) world
    let registry :=
      (gate.apply host settings.registry staleness options.skipBuild (.boot world)).2.1
    let whole := runBenchmarks host settings options ⟨.boot world, r, .boundless written⟩
    match Suites.resolve (host.view built) (settings.benchmarksRoot options.root)
      options.suite with
    | .error e => whole.1 = .error e
    | .ok suites =>
        let seen := visits host registry options.plan suites built
        (seen.map Visit.directory = suites ∧
            whole.1 = .ok ⟨suites.length,
              (seen.flatMap fun v => jobs registry v.files).length⟩) ∨
          (∃ directory rest reason,
            suites = seen.map Visit.directory ++ directory :: rest ∧
              (whole.2.machine.tree host).list directory = .error reason ∧
              whole.1 = .error (.io directory reason)) := by
  intro gate staleness built registry whole
  -- the sink is boundless: the run is its course
  have course : whole = _ :=
    runBenchmarks_boundless host settings options (.boot world) r written
  have onward := tour_answer host (prepared_invocable host settings options (.boot world))
    options.plan (settings.benchmarksRoot options.root) options.suite
    (prepared host settings options (.boot world)).machine
  rw [course]
  dsimp only [Run.course]
  rw [prepared_eq_through] at onward ⊢
  exact onward

end Run

/-! ## A suite that is removed before its turn

Two suites, and programs that remove the second of them.
-/

namespace Sample

/-- A project in `/p` with the suites of these names, each with one script. -/
def tree (suites : List String) : Tree where
  disk.top :=
    .directory [(Utf8.encode "p", .directory [(Utf8.encode "benchmarks",
      .directory (suites.map fun name => (Utf8.encode name,
        .directory [(Utf8.encode "x.sh", .file 0)] 0o755 default)) 0o755 default)]
      0o755 default)] 0o755 default
  disk.files := #[⟨.empty, 0o644, default⟩]
  workdir := []
  mask := 0

/-- The programs of a project with two suites, of which `b` is removed by
whatever is started.  The world says whether that has happened. -/
def removing : Host Bool where
  view removed := if removed then tree ["a"] else tree ["b", "a"]
  run _ _ := ⟨true, .exited (.exit 0) [], 1000000⟩

/-- Every file is run once, to warm up, and nothing is built. -/
def options : RunOptions := ⟨.ofText "/p", none, ⟨0, 1, .record⟩, true, none⟩

/-- The directory of a suite. -/
def suite (name : String) : Path := (Path.ofText "/p/benchmarks").child (Utf8.encode name)

end Sample

set_option maxRecDepth 100000 in
/-- **A run whose suites could be resolved need not answer with their number.**
The suite `b` is resolved before the first start, and gone when its turn comes. -/
theorem not_every_resolved_run_answers :
    ¬ ∀ (σ : Type) (host : Host σ) (settings : Settings) (options : RunOptions)
      (world : σ) (r : Reporter) (written : Array UInt8) (suites : List Path),
      let gate := Gate.ofSettings settings.native options.root
      let built := host.after
        (gate.starts (gate.check (host.view world)) options.skipBuild) world
      Suites.resolve (host.view built) (settings.benchmarksRoot options.root)
          options.suite = .ok suites →
        suites ≠ [] →
        ∃ count,
          (runBenchmarks host settings options
            ⟨.boot world, r, .boundless written⟩).1 = .ok ⟨suites.length, count⟩ := by
  intro always
  -- both sides are runs on fixed data: the answer of the run, and the suites resolved
  have ends : (runBenchmarks Sample.removing {} Sample.options
      ⟨.boot false, .new .human false, .boundless #[]⟩).1
        = .error (.io (Sample.suite "b") .notFound) := by
    cbv
  obtain ⟨count, answers⟩ := always Bool Sample.removing {} Sample.options false
    (.new .human false) #[] [Sample.suite "a", Sample.suite "b"] (by cbv)
    (List.cons_ne_nil _ _)
  rw [ends] at answers
  cases answers

end CrossBench
