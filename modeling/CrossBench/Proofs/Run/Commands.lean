import CrossBench.Proofs.Build.Decision
import CrossBench.Proofs.Registry.Bindings
import CrossBench.Proofs.Run.Starts

/-!
# What a run measures with

A run samples a file in one place only, with the command that its registry answers with
for the tag of the file.  Here that place is left open: `benchmarksBy` is a run that
samples with whatever it is given, and `benchmarksBy_sampler` says that with the sampling
of the host it is the run itself.

A call that is never made is one that makes no difference.  So `commands_of_run` says for
which commands and files a sampler is called at all: a run with a sampler that does
anything else there, such as ending the run at once, is still the same run.  No command
is empty, and a runtime that the settings turn off is measured only if it is the native
one, with the program that the build gate has bound to its tag.
-/

namespace CrossBench

/-! ## The registry of a run

It is the registry of the settings with one more binding, that of the native tag.  So an
empty command could come from two places, and neither has one.
-/

namespace Gate

variable {σ : Type}

/-- Acting on the state of the native program binds its tag, to the program or to a
reason, and no other tag. -/
theorem exists_apply_eq_bind (host : Host σ) (gate : Gate) (registry : Registry)
    (staleness : Staleness) (skipBuild : Bool) (m : Machine σ) :
    ∃ runner, (gate.apply host registry staleness skipBuild m).2.1
        = registry.bind gate.tag runner ∧
      (runner = gate.runner ∨ ∃ reason, runner = .unavailable reason) := by
  rcases gate.apply_cases host registry staleness skipBuild m with
    ⟨-, applied⟩ | ⟨-, -, applied⟩ | ⟨-, -, -, applied⟩ | ⟨-, -, -, e, applied⟩ <;>
    rw [applied]
  · exact ⟨_, rfl, .inl rfl⟩
  · refine ⟨_, rfl, ?_⟩
    split
    · exact .inr ⟨_, rfl⟩
    · exact .inl rfl
  · exact ⟨_, rfl, .inl rfl⟩
  · exact ⟨_, rfl, .inr ⟨_, rfl⟩⟩

/-- If the tag of the native program is available, it is with the path of the program. -/
theorem eq_path_of_runner {gate : Gate} {command : Command}
    (usable : gate.runner = .available command) :
    ∃ path, gate.binary.text? = some path ∧ command = [path] := by
  unfold runner at usable
  split at usable
  · next path text =>
    cases usable
    exact ⟨path, text, rfl⟩
  · cases usable

end Gate

/-- A runtime that the settings turn off has no command in their registry. -/
theorem Settings.lookup_ne_available {settings : Settings} {tag : Tag} {command : Command}
    (off : settings.interpreterCommands.get? tag.text = some []) :
    settings.registry.lookup tag ≠ .available command := by
  have bound := Registry.get?_ofCommands
    (fun k => Settings.trimmed_of_mem_interpreterCommands (s := settings) (k := k)) tag
  rw [off] at bound
  rw [Ne, Registry.lookup_eq_available_iff, Settings.registry, bound]
  simp [Registry.runnerOf]

namespace Run

variable {σ : Type}

/-- The commands that a run in the project at `root` may measure a file with.  They are
not empty; and if the settings turn the runtime of the file off, it is the native one and
the command is the path of the native program. -/
def MayMeasure (settings : Settings) (root : Path) (command : Command) (file : Path) :
    Prop :=
  let gate := Gate.ofSettings settings.native root
  command ≠ [] ∧
    ∃ tag, Tag.ofPath? file = some tag ∧
      (settings.interpreterCommands.get? tag.text = some [] →
        tag = gate.tag ∧ ∃ path, gate.binary.text? = some path ∧ command = [path])

/-- A registry with which every file that can be measured is measured with such a
command. -/
def Fit (settings : Settings) (root : Path) (registry : Registry) : Prop :=
  ∀ file tag command, runnable? registry file = some (tag, command) →
    MayMeasure settings root command file

/-- A file is run if its path has a tag and this has a command. -/
theorem runnable?_eq_some_iff {registry : Registry} {file : Path} {tag : Tag}
    {command : Command} :
    runnable? registry file = some (tag, command) ↔
      Tag.ofPath? file = some tag ∧ registry.lookup tag = .available command := by
  unfold runnable?
  cases Tag.ofPath? file with
  | none => simp
  | some other =>
      dsimp only
      constructor
      · intro runs
        split at runs
        · next looked =>
          cases runs
          exact ⟨rfl, looked⟩
        · cases runs
        · cases runs
      · rintro ⟨same, looked⟩
        cases same
        rw [looked]

/-- What the registry of a run answers with, for a tag that is available: the path of the
native program if it is the native tag, and the command of the settings otherwise. -/
theorem lookup_prepared {host : Host σ} {settings : Settings} {options : RunOptions}
    {m : Machine σ} {tag : Tag} {command : Command}
    (available : (prepared host settings options m).registry.lookup tag
      = .available command) :
    let gate := Gate.ofSettings settings.native options.root
    (tag = gate.tag ∧ ∃ path, gate.binary.text? = some path ∧ command = [path]) ∨
      settings.registry.lookup tag = .available command := by
  intro gate
  obtain ⟨runner, applied, origin⟩ := gate.exists_apply_eq_bind host settings.registry
    (gate.check (m.tree host)) options.skipBuild m
  -- the build gate binds one tag and leaves the others alone
  have bound : (prepared host settings options m).registry
      = settings.registry.bind gate.tag runner := applied
  rw [bound, Registry.lookup_eq_available_iff, Registry.get?_bind] at available
  split at available
  next native =>
    refine .inl ⟨native.symm, ?_⟩
    rcases origin with rfl | ⟨reason, rfl⟩
    · exact Gate.eq_path_of_runner (Option.some.inj available)
    · cases available
  next => exact .inr (Registry.lookup_eq_available_iff.mpr available)

/-- **The registry that a run is made with** has such commands only. -/
theorem fit_prepared (host : Host σ) (settings : Settings) (options : RunOptions)
    (m : Machine σ) :
    Fit settings options.root (prepared host settings options m).registry := by
  intro file tag command runs
  obtain ⟨tagged, available⟩ := runnable?_eq_some_iff.mp runs
  refine ⟨prepared_invocable host settings options m tag command available, tag, tagged,
    fun off => ?_⟩
  rcases lookup_prepared available with native | configured
  · exact native
  · exact absurd configured (Settings.lookup_ne_available off)

/-! ## Runs that sample otherwise

A run in which the sampling is a parameter.  It is the same program text, and where two
samplers agree on what they are asked, the two runs are equal.
-/

/-- How a file is sampled with a command. -/
abbrev Sampler (σ : Type) := Command → Path → Run σ SampleSet

/-- One run of a file with a command: whether it ended well, and how long it took. -/
abbrev Invoker (σ : Type) := Command → Path → Run σ (Bool × UInt64)

/-- The sampling of a host. -/
def sampler (host : Host σ) (plan : Plan) : Sampler σ := fun command file =>
  onMachine (Sampling.collect host plan command file)

/-- `n` runs of a file, one after the other. -/
def repeatedBy (invoke : Invoker σ) (command : Command) (file : Path) :
    Nat → Run σ (List (Bool × UInt64))
  | 0 => return []
  | n + 1 => do
    let first ← invoke command file
    let rest ← repeatedBy invoke command file n
    return first :: rest

/-- Sampling as the plan says, each run of a file made by `invoke`. -/
def Invoker.sampler (invoke : Invoker σ) (plan : Plan) : Sampler σ := fun command file => do
  let _ ← repeatedBy invoke command file plan.warmup.toNat
  let runs ← repeatedBy invoke command file plan.iterations.toNat
  return Sampling.sampleSet plan.failedRuns runs

/-- Measures a file with a command and reports the result. -/
def measureBy (sample : Sampler σ) (plan : Plan) (suite : String) (tag : Tag)
    (command : Command) (file : Path) : Run σ FileResult := do
  let samples ← sample command file
  let result : FileResult :=
    { file := file.label
      tag
      summary := summarize tag samples.samples
      failedRuns := samples.failedRuns }
  tell (.fileMeasured suite plan result)
  return result

/-- Measures those of the files that can be measured, in order. -/
def measureAllBy (sample : Sampler σ) (registry : Registry) (plan : Plan) (suite : String) :
    List Path → Run σ (List FileResult)
  | [] => return []
  | file :: rest =>
    match runnable? registry file with
    | none => measureAllBy sample registry plan suite rest
    | some (tag, command) => do
      let result ← measureBy sample plan suite tag command file
      let results ← measureAllBy sample registry plan suite rest
      return result :: results

/-- Runs a suite. -/
def runSuiteBy (sample : Sampler σ) (host : Host σ) (registry : Registry) (plan : Plan)
    (directory : Path) : Run σ SuiteReport := do
  let name := directory.label
  tell (.suiteStarted name plan)
  let files ← demandTree host (Suites.files · directory)
  let results ← measureAllBy sample registry plan name files
  let report : SuiteReport :=
    { name, iterations := plan.iterations, warmup := plan.warmup, results }
  tell (.suiteFinished report)
  return report

/-- Runs suites in order and counts what was measured. -/
def runSuitesBy (sample : Sampler σ) (host : Host σ) (registry : Registry) (plan : Plan) :
    List Path → Run σ RunSummary
  | [] => return ⟨0, 0⟩
  | directory :: rest => do
    let report ← runSuiteBy sample host registry plan directory
    let counted ← runSuitesBy sample host registry plan rest
    return ⟨counted.suites + 1, report.results.length + counted.measuredFiles⟩

/-- A whole run that samples its files with `sample`. -/
def benchmarksBy (sample : Sampler σ) (host : Host σ) (settings : Settings)
    (options : RunOptions) : Run σ RunSummary := do
  let registry ← prepare host settings options
  let root := settings.benchmarksRoot options.root
  let suites ← demandTree host (Suites.resolve · root options.suite)
  if suites.isEmpty then
    tell (.noSuites root)
    return ⟨0, 0⟩
  let _ ← pin host options.pinCore
  let summary ← runSuitesBy sample host registry options.plan suites
  tell .runFinished
  return summary

/-! ### Samplers that agree

By induction on files and suites, with the registry fixed: it is made before the first file
and never changed.
-/

variable {sample : Sampler σ} {host : Host σ} {settings : Settings} {root : Path}

/-- Two ways to sample that agree about every command and file that a run may measure. -/
def Agree (settings : Settings) (root : Path) (sample sample' : Sampler σ) : Prop :=
  ∀ command file, MayMeasure settings root command file →
    sample command file = sample' command file

theorem measureAllBy_eq {registry : Registry} {plan : Plan}
    (agree : Agree settings root sample (sampler host plan))
    (fit : Fit settings root registry) (suite : String) (files : List Path) :
    measureAllBy sample registry plan suite files
      = measureAll host registry plan suite files := by
  induction files with
  | nil => rfl
  | cons file rest ih =>
      rw [measureAllBy, measureAll, ih]
      cases runs : runnable? registry file with
      | none => rfl
      | some runner =>
          obtain ⟨tag, command⟩ := runner
          -- the samplers agree here, since the registry fits
          have same : measureBy sample plan suite tag command file
              = measure host plan suite tag command file := by
            rw [measureBy, agree command file (fit file tag command runs)]
            rfl
          simp only [same]

theorem runSuitesBy_eq {registry : Registry} {plan : Plan}
    (agree : Agree settings root sample (sampler host plan))
    (fit : Fit settings root registry) (directories : List Path) :
    runSuitesBy sample host registry plan directories
      = runSuites host registry plan directories := by
  induction directories with
  | nil => rfl
  | cons directory rest ih =>
      have same : runSuiteBy sample host registry plan directory
          = runSuite host registry plan directory := by
        simp only [runSuiteBy, runSuite, measureAllBy_eq agree fit]
      rw [runSuitesBy, runSuites, same, ih]

/-- A computation that has come to an answer has come to its own. -/
theorem Does.eq_of_ok {α : Type} {act : Run σ α} {m last : Machine σ} {events : List Event}
    {a b : α} (does : Does host act m events last (.ok a)) {r : Reporter} {sink : Sink}
    {s : RunState σ} (answered : act.run ⟨m, r, sink⟩ = (.ok b, s)) : b = a := by
  obtain ⟨deeds, -, -, done⟩ := does
  rw [done, run_bind] at answered
  split at answered
  · cases answered
    rfl
  · cases answered

/-- The registry that the suites of a run are measured with. -/
theorem registry_of_prepare {options : RunOptions} {s s' : RunState σ} {registry : Registry}
    (dealt : (prepare host settings options).run s = (.ok registry, s')) :
    registry = (prepared host settings options s.machine).registry :=
  (prepare_does host settings options s.machine).eq_of_ok dealt

/-- **A sampler is asked about nothing else.**  What it does with commands and files that
a run may not measure makes no difference to the run, in whatever state it is begun. -/
theorem benchmarksBy_eq {options : RunOptions}
    (agree : Agree settings options.root sample (sampler host options.plan))
    (s : RunState σ) :
    (benchmarksBy sample host settings options).run s
      = runBenchmarks host settings options s := by
  rw [runBenchmarks, benchmarksBy, benchmarks, run_bind, run_bind]
  split
  next registry s' dealt =>
    have fit : Fit settings options.root registry :=
      registry_of_prepare dealt ▸ fit_prepared host settings options s.machine
    simp only [runSuitesBy_eq agree fit]
  next => rfl

theorem benchmarksBy_sampler (host : Host σ) (settings : Settings) (options : RunOptions)
    (s : RunState σ) :
    (benchmarksBy (sampler host options.plan) host settings options).run s
      = runBenchmarks host settings options s :=
  benchmarksBy_eq (fun _ _ _ => rfl) s

/-! ### One run of a file

The same for the runs that a sample is made of.
-/

theorem repeatedBy_eq {invoke : Invoker σ} {command : Command} {file : Path}
    (same : invoke command file = onMachine (Sampling.invoke host command file)) (n : Nat) :
    repeatedBy invoke command file n
      = onMachine (Sampling.repeated host command file n) := by
  induction n with
  | zero => rfl
  | succ n ih =>
      rw [repeatedBy, ih, same]
      rfl

theorem invoker_sampler_eq {invoke : Invoker σ} {command : Command} {file : Path}
    (same : invoke command file = onMachine (Sampling.invoke host command file))
    (plan : Plan) :
    invoke.sampler plan command file = sampler host plan command file := by
  unfold Invoker.sampler
  rw [repeatedBy_eq same, repeatedBy_eq same]
  rfl

/-- **Every run measures with a command**, whatever the settings, the project and the
build do.

* The registry that a run is made with has no empty command.
* A sampler is called only with commands and files that a run may measure: two samplers
  that agree about these make the same run.  In particular a file of a runtime that the
  settings turn off is measured only if the runtime is the native one, with the program
  that the build gate has bound.
* A run of a file is never begun with an empty command: what would be done with one makes
  no difference. -/
theorem commands_of_run (host : Host σ) (settings : Settings) (options : RunOptions) :
    (∀ (s s' : RunState σ) (registry : Registry),
      (prepare host settings options).run s = (.ok registry, s') →
      ∀ tag command, registry.lookup tag = .available command → command ≠ []) ∧
    (∀ sample : Sampler σ,
      (∀ command file, MayMeasure settings options.root command file →
        sample command file = sampler host options.plan command file) →
      ∀ s, (benchmarksBy sample host settings options).run s
        = runBenchmarks host settings options s) ∧
    (∀ invoke : Invoker σ,
      (∀ command file, command ≠ [] →
        invoke command file = onMachine (Sampling.invoke host command file)) →
      ∀ s, (benchmarksBy (invoke.sampler options.plan) host settings options).run s
        = runBenchmarks host settings options s) := by
  refine ⟨fun s s' registry dealt => ?_, fun sample => benchmarksBy_eq, fun invoke agree => ?_⟩
  · rw [registry_of_prepare dealt]
    exact prepared_invocable host settings options s.machine
  · -- a command that may measure is not empty, and so the two ways of one run agree
    refine benchmarksBy_eq fun command file may => ?_
    exact invoker_sampler_eq (agree command file may.1) options.plan

end Run

end CrossBench
