import CrossBench.Proofs.Process.Trace
import CrossBench.Proofs.Registry.Invocable
import CrossBench.Proofs.Run.Course

/-!
# Which processes a run starts

Two lists describe everything that a run starts: the build command, if the
native program has to be built, and behind it the starts of the benchmark files.
`fileStarts` says what one file contributes, and `visits` which files there are:
it goes through the suites, lists each of them in the world that all the starts
before it have left, and ends with the first suite that cannot be listed.

`starts_runBenchmarks` is the statement about whole runs.  The world of the
machine goes with it: it is the world that exactly these starts leave, one after
the other.
-/

namespace CrossBench

namespace Suites

/-- Files in a directory in ascending order of their names. -/
def Ascending (directory : Path) (files : List Path) : Prop :=
  ∃ names : List FileName, names.Pairwise (· ≤ ·) ∧ files = names.map directory.child

theorem nameLe_trans (a b c : FileName) (ab : nameLe a b = true)
    (bc : nameLe b c = true) : nameLe a c = true := by
  simp only [nameLe, decide_eq_true_eq] at ab bc ⊢
  exact Std.le_trans ab bc

theorem nameLe_total (a b : FileName) : (nameLe a b || nameLe b a) = true := by
  simp only [nameLe, Bool.or_eq_true, decide_eq_true_eq]
  exact Std.le_total

/-- What is listed is in strictly ascending order of names. -/
theorem ascending_listSorted {tree : Tree} {directory : Path} {keep : Path → Bool}
    {files : List Path} (listed : listSorted tree directory keep = .ok files) :
    Ascending directory files := by
  unfold listSorted at listed
  split at listed
  · cases listed
  · next names _ =>
    cases listed
    refine ⟨(names.mergeSort nameLe).filter (keep ∘ directory.child), ?_, ?_⟩
    · have sorted := List.pairwise_mergeSort nameLe_trans nameLe_total names
      refine (sorted.imp fun le => ?_).filter _
      simpa [nameLe] using le
    · rw [List.filter_map]

end Suites

namespace Run

variable {σ : Type}

/-- **What one file contributes.**  A file whose runtime is known and can be used
is started as often as the plan says: each time the words are those of its
runtime's command and then the path of the file, and the directory is the one
that the harness is in.  No other file is started. -/
def fileStarts (registry : Registry) (plan : Plan) (file : Path) : List Start :=
  match Tag.ofPath? file with
  | none => []
  | some tag =>
    match registry.lookup tag with
    | .available command =>
        List.replicate (plan.warmup.toNat + plan.iterations.toNat)
          ⟨command.map Utf8.encode ++ [file.bytes], none⟩
    | .disabled _ => []
    | .unsupported => []

/-- A suite that was reached, and the files that were listed there. -/
structure Visit where
  directory : Path
  files : List Path

/-- The starts of the files of a suite. -/
def Visit.starts (registry : Registry) (plan : Plan) (v : Visit) : List Start :=
  v.files.flatMap (fileStarts registry plan)

/-- The suites that a run reaches and lists, in order.  Each is listed in the
world that the starts of those before it leave. -/
def visits (host : Host σ) (registry : Registry) (plan : Plan) :
    List Path → σ → List Visit
  | [], _ => []
  | directory :: rest, w =>
      match Suites.files (host.view w) directory with
      | .error _ => []
      | .ok files =>
          let here : Visit := ⟨directory, files⟩
          here :: visits host registry plan rest
            (host.after (here.starts registry plan) w)

/-! ## The starts of jobs

A job is a file with its command.  What it starts is the same word list again and again.
-/

/-- The starts of a job, as the sampling makes them. -/
def Job.starts (plan : Plan) (job : Job) : List Start :=
  List.replicate (plan.warmup.toNat + plan.iterations.toNat)
    (.ofCommand job.command job.file)

theorem fileStarts_of_none {registry : Registry} {file : Path} (plan : Plan)
    (found : runnable? registry file = none) : fileStarts registry plan file = [] := by
  unfold fileStarts
  unfold runnable? at found
  split <;> simp_all
  split <;> simp_all

theorem fileStarts_of_some {registry : Registry} {file : Path} (plan : Plan)
    {tag : Tag} {command : Command}
    (found : runnable? registry file = some (tag, command)) :
    fileStarts registry plan file = Job.starts plan ⟨file, tag, command⟩ := by
  unfold fileStarts Job.starts Start.ofCommand
  unfold runnable? at found
  split <;> simp_all
  split <;> simp_all

/-- The starts of a visit are those of its jobs, in the order of the files. -/
theorem starts_eq_jobs (registry : Registry) (plan : Plan) (directory : Path)
    (files : List Path) :
    (⟨directory, files⟩ : Visit).starts registry plan
      = (jobs registry files).flatMap (Job.starts plan) := by
  unfold Visit.starts jobs
  induction files with
  | nil => rfl
  | cons file rest ih =>
      rw [List.flatMap_cons, ih, List.filterMap_cons]
      cases found : runnable? registry file with
      | none => rw [fileStarts_of_none plan found]; rfl
      | some runner => rw [fileStarts_of_some plan found]; rfl

/-- In a registry that can be invoked, no job has an empty command. -/
theorem command_ne_nil {registry : Registry} (invocable : registry.Invocable)
    {files : List Path} {job : Job} (mem : job ∈ jobs registry files) :
    job.command ≠ [] := by
  obtain ⟨file, -, found⟩ := List.mem_filterMap.mp mem
  obtain ⟨⟨tag, command⟩, runs, rfl⟩ := Option.map_eq_some_iff.mp found
  unfold runnable? at runs
  split at runs
  · cases runs
  · split at runs
    next looked =>
      cases runs
      exact invocable _ _ looked
    all_goals cases runs

theorem measured_eq_through (host : Host σ) (plan : Plan) (js : List Job)
    (runs : ∀ job ∈ js, job.command ≠ []) (m : Machine σ) :
    (measured host plan js m).1 = m.through host (js.flatMap (Job.starts plan)) := by
  induction js generalizing m with
  | nil => simp [measured]
  | cons job rest ih =>
      have here := runs job List.mem_cons_self
      have there := fun j mem => runs j (List.mem_cons_of_mem job mem)
      rw [measured, ih there, Sampling.collect_eq_through host plan job.file here,
        ← Machine.through_append]
      rfl

/-- The jobs of a suite start what a visit to it starts. -/
theorem visit_eq_through (host : Host σ) {registry : Registry}
    (invocable : registry.Invocable) (plan : Plan) (v : Visit) (m : Machine σ) :
    (measured host plan (jobs registry v.files) m).1
      = m.through host (v.starts registry plan) := by
  rw [starts_eq_jobs registry plan v.directory v.files]
  exact measured_eq_through host plan (jobs registry v.files)
    (fun _ mem => command_ne_nil invocable mem) m

/-! ## The starts of a run

The build first, and then visit by visit.  The induction is on the suites that are still to
be visited, with the machine as a parameter.
-/

/-- The machine on the way through suites has started the files of the suites
that were visited. -/
theorem passage_eq_through (host : Host σ) {registry : Registry}
    (invocable : registry.Invocable) (plan : Plan) (directories : List Path)
    (m : Machine σ) :
    (passage host registry plan directories m).machine
      = m.through host ((visits host registry plan directories m.world).flatMap
          (Visit.starts registry plan)) := by
  induction directories generalizing m with
  | nil => simp [passage, visits]
  | cons directory rest ih =>
      unfold passage visits
      cases listed : Suites.files (m.tree host) directory with
      | error e =>
          have unlisted : Suites.files (host.view m.world) directory = .error e := listed
          simp [unlisted]
      | ok files =>
          -- a listing sees the world only, and the world is that of the starts so far
          have listed' : Suites.files (host.view m.world) directory = .ok files := listed
          have way := visit_eq_through host invocable plan ⟨directory, files⟩ m
          simp only [listed', Passage.behind, List.flatMap_cons]
          rw [ih, way, Machine.through_world, Machine.through_append]

/-- The suites are visited in order, and none is passed over. -/
theorem visits_prefix (host : Host σ) (registry : Registry) (plan : Plan)
    (directories : List Path) (w : σ) :
    (visits host registry plan directories w).map Visit.directory <+: directories := by
  induction directories generalizing w with
  | nil => exact List.prefix_rfl
  | cons directory rest ih =>
      unfold visits
      split
      · exact List.nil_prefix
      · exact List.cons_prefix_cons.mpr ⟨rfl, ih _⟩

/-- Each visit goes through the files of its directory in strictly ascending order. -/
theorem visits_ascending (host : Host σ) (registry : Registry) (plan : Plan)
    (directories : List Path) (w : σ) :
    ∀ v ∈ visits host registry plan directories w,
      Suites.Ascending v.directory v.files := by
  induction directories generalizing w with
  | nil => intro v mem; cases mem
  | cons directory rest ih =>
      intro v mem
      unfold visits at mem
      split at mem
      · cases mem
      · next files listed =>
        rcases List.mem_cons.mp mem with rfl | mem
        · exact Suites.ascending_listSorted listed
        · exact ih _ v mem

/-- The way through suites is stopped exactly when a suite is left unvisited, and
then by that suite. -/
theorem passage_stop (host : Host σ) {registry : Registry}
    (invocable : registry.Invocable) (plan : Plan) (directories : List Path)
    (m : Machine σ) :
    match (passage host registry plan directories m).stop with
    | none =>
        (visits host registry plan directories m.world).map Visit.directory = directories
    | some (directory, e) =>
        (∃ rest, directories
            = (visits host registry plan directories m.world).map Visit.directory
              ++ directory :: rest) ∧
          Suites.files ((passage host registry plan directories m).machine.tree host)
            directory = .error e := by
  induction directories generalizing m with
  | nil => rfl
  | cons directory rest ih =>
      unfold passage visits
      cases listed : Suites.files (m.tree host) directory with
      | error e =>
          have unlisted : Suites.files (host.view m.world) directory = .error e := listed
          simp only [unlisted]
          exact ⟨⟨rest, rfl⟩, listed⟩
      | ok files =>
          have listed' : Suites.files (host.view m.world) directory = .ok files := listed
          -- a suite that can be listed only moves the machine on
          have way := visit_eq_through host invocable plan ⟨directory, files⟩ m
          have onward := ih (measured host plan (jobs registry files) m).1
          rw [way, Machine.through_world] at onward
          simp only [listed', Passage.behind, List.map_cons, way]
          split
          -- the rest of the way decides where it stops
          next through =>
            rw [through] at onward
            exact congrArg (directory :: ·) onward
          next stopped e through =>
            rw [through] at onward
            obtain ⟨⟨left, split⟩, unlisted⟩ := onward
            exact ⟨⟨left, congrArg (directory :: ·) split⟩, unlisted⟩

/-- Building makes the starts of the gate and no others. -/
theorem prepared_eq_through (host : Host σ) (settings : Settings)
    (options : RunOptions) (m : Machine σ) :
    let gate := Gate.ofSettings settings.native options.root
    (prepared host settings options m).machine
      = m.through host (gate.starts (gate.check (m.tree host)) options.skipBuild) :=
  Gate.apply_eq_through ..

theorem prepared_invocable (host : Host σ) (settings : Settings)
    (options : RunOptions) (m : Machine σ) :
    (prepared host settings options m).registry.Invocable :=
  (Registry.Invocable.ofCommands _).apply host _ _ _ m

/-- The suites that a resolution answers with; none if it fails. -/
def resolved : Except HarnessError (List Path) → List Path
  | .ok suites => suites
  | .error _ => []

/-- **The tour of a run.**  It starts the files of the suites that are visited,
and leaves a suite out only if the run ends with an error there. -/
theorem tour_eq_through (host : Host σ) {registry : Registry}
    (invocable : registry.Invocable) (plan : Plan) (root : Path)
    (suite : Option String) (m : Machine σ) :
    let suites := resolved (Suites.resolve (m.tree host) root suite)
    let seen := visits host registry plan suites m.world
    (tour host registry plan root suite m).machine
        = m.through host (seen.flatMap (Visit.starts registry plan)) ∧
      (seen.map Visit.directory = suites ∨
        ∃ e, (tour host registry plan root suite m).answer = .error e) := by
  unfold tour
  cases found : Suites.resolve (m.tree host) root suite with
  | error e => simp [resolved, visits]
  | ok suites =>
      -- no suites and no answer both start nothing
      cases suites with
      | nil => simp [resolved, visits]
      | cons first rest =>
          have stop := passage_stop host invocable plan (first :: rest) m
          refine ⟨passage_eq_through host invocable plan (first :: rest) m, ?_⟩
          split at stop
          next through => exact .inl stop
          next directory e through =>
            exact .inr ⟨e, by simp only [Passage.answer, through]⟩

/-- **The course of a run, as starts.**  The build command comes first, and then
the files of the suites that are visited. -/
theorem course_eq_through (host : Host σ) (settings : Settings) (options : RunOptions)
    (m : Machine σ) :
    let gate := Gate.ofSettings settings.native options.root
    let build := gate.starts (gate.check (m.tree host)) options.skipBuild
    let registry := (prepared host settings options m).registry
    let suites := resolved (Suites.resolve (host.view (host.after build m.world))
      (settings.benchmarksRoot options.root) options.suite)
    let seen := visits host registry options.plan suites (host.after build m.world)
    (course host settings options m).machine
        = m.through host (build ++ seen.flatMap (Visit.starts registry options.plan)) ∧
      (seen.map Visit.directory = suites ∨
        ∃ e, (course host settings options m).answer = .error e) := by
  have onward := tour_eq_through host (prepared_invocable host settings options m)
    options.plan (settings.benchmarksRoot options.root) options.suite
    (prepared host settings options m).machine
  dsimp only [course]
  -- the build is the first part of the list, and the tour begins in the world that it has left
  rw [prepared_eq_through] at onward ⊢
  refine ⟨?_, onward.2⟩
  rw [onward.1, Machine.through_append]
  rfl

/-- **The processes of a run.**  Whatever the programs do, and in every format of
a report that can be written, a run starts the words of the build command in the
project root, once, exactly if the native program is stale, may be built and has
such a command; and then, suite by suite and file by file, what `fileStarts` says
for the registry that dealing with the native program leaves.  Each of these is
waited for before the next: the world of the run is the one that they leave one
after the other.

The suites come in the order in which they were resolved, the files of each in
ascending order, and a suite is left out only if the run has ended with an
error. -/
theorem starts_runBenchmarks (host : Host σ) (settings : Settings)
    (options : RunOptions) (world : σ) (r : Reporter) (written : Array UInt8) :
    let gate := Gate.ofSettings settings.native options.root
    let staleness := gate.check (host.view world)
    let build : List Start :=
      if staleness.isStale = true ∧ options.skipBuild = false
          ∧ settings.native.buildCommand ≠ [] then
        [⟨settings.native.buildCommand.map Utf8.encode, some options.root⟩]
      else []
    let registry :=
      (gate.apply host settings.registry staleness options.skipBuild (.boot world)).2.1
    let suites := resolved (Suites.resolve (host.view (host.after build world))
      (settings.benchmarksRoot options.root) options.suite)
    let seen := visits host registry options.plan suites (host.after build world)
    let bench := seen.flatMap (Visit.starts registry options.plan)
    let whole := runBenchmarks host settings options ⟨.boot world, r, .boundless written⟩
    whole.2.machine.starts.toList = build ++ bench ∧
      whole.2.machine.world = host.after (build ++ bench) world ∧
      seen.map Visit.directory <+: suites ∧
      (seen.map Visit.directory = suites ∨ ∃ e, whole.1 = .error e) ∧
      (∀ v ∈ seen, Suites.Ascending v.directory v.files) := by
  intro gate staleness build registry suites seen bench whole
  have course : whole = _ :=
    runBenchmarks_boundless host settings options (.boot world) r written
  obtain ⟨machine, complete⟩ := course_eq_through host settings options (.boot world)
  -- machine and world follow from the trace of the starts
  have traced : whole.2.machine = (Machine.boot world).through host (build ++ bench) := by
    rw [course]
    exact machine
  refine ⟨?_, ?_, visits_prefix .., ?_, fun v => visits_ascending host _ _ _ _ v⟩
  · rw [traced, Machine.through_boot_starts]
  · rw [traced, Machine.through_world]
    rfl
  · rw [course]
    exact complete

end Run

end CrossBench
