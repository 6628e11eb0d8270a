import CrossBench.Proofs.CommandLine.Reading
import CrossBench.Proofs.Program.ExitCode
import CrossBench.Proofs.Run.Samples

/-!
# What a run may rely on

A run is started with a command line that was accepted and settings that could be loaded.
The two checks are made in different places, and the plan is put together from both: what
the command line says about it stands in front of what the settings say.

* `Settings.fault?_of_load` — settings that could be loaded have no fault.
* `CommandLine.one_le_iterations_of_options` — a plan has an iteration, wherever its number
  of iterations comes from.
* `Program.complete_of_loaded` — what follows from this for a run and its report.
-/

namespace CrossBench

/-! ## Settings without fault

What loading has checked, as a statement about the settings and no longer about the file.
-/

namespace Settings

/-- **Settings that could be loaded have no fault**, and neither have the defaults. -/
theorem fault?_of_load {tree : Tree} {root : Path} {explicit : Option Path}
    {settings : Settings} (loaded : load tree root explicit = .ok settings) :
    settings.fault? = none := by
  unfold load at loaded
  split at loaded
  · cases loaded
  · cases loaded
    cbv
  · unfold read at loaded
    split at loaded
    · cases loaded
    · split at loaded
      · cases loaded
      · split at loaded
        · cases loaded
        · split at loaded
          · -- the last check of reading a file is for faults
            next fine =>
            cases loaded
            exact fine
          · cases loaded

/-- What it means to have no fault. -/
theorem fault?_eq_none_iff (settings : Settings) :
    settings.fault? = none ↔
      settings.sampling.iterations ≠ 0 ∧ trimLeadingDots settings.native.tag ≠ "" ∧
        settings.native.buildCommand ≠ [] := by
  unfold fault?
  split_ifs <;> simp_all

end Settings

/-- **A plan has an iteration.**  If the command line gives the number of iterations it was
checked when the line was read, and if the settings give it when they were loaded. -/
theorem CommandLine.one_le_iterations_of_options {words : List Word} {c : CommandLine}
    (accepted : parse words = .ok c) {settings : Settings} (fine : settings.fault? = none)
    (root : Path) : 1 ≤ (c.options root settings).plan.iterations.toNat := by
  obtain ⟨fromSettings, -, -⟩ := settings.fault?_eq_none_iff.mp fine
  simp only [options]
  cases given : c.iterations with
  | none =>
      refine Nat.one_le_iff_ne_zero.mpr fun zero => fromSettings ?_
      exact UInt32.toNat_inj.mp zero
  | some n => exact one_le_iterations accepted given

namespace Gate

variable {σ : Type}

/-- A build command that was started is not reported as missing. -/
theorem verdict_ne_emptyCommand (gate : Gate) (tree : Tree) (ending : Ending) :
    gate.verdict tree ending ≠ .error .emptyCommand := by
  cases ending with
  | notStarted reason => simp [verdict]
  | exited status stderr =>
      rw [verdict]
      cases status.success <;> cases tree.isFile gate.binary <;> simp

theorem apply_ne_emptyCommand (host : Host σ) {gate : Gate} (command : gate.command ≠ [])
    (registry : Registry) (staleness : Staleness) (skipBuild : Bool) (m : Machine σ)
    (reason : Staleness) :
    (gate.apply host registry staleness skipBuild m).2.2 ≠ .failed reason .emptyCommand := by
  -- a build fails in this way only if there is no command
  have built : (gate.build host m).2 ≠ .error .emptyCommand := by
    unfold build
    split
    · next none => exact absurd none command
    · exact gate.verdict_ne_emptyCommand _ _
  unfold apply
  split
  · simp
  · split
    · simp
    · split
      · simp
      · next failed =>
        rw [failed] at built
        simpa using fun _ => built

end Gate

/-- **What a run leaves on a sink** is as much of the text of its events as there is room
for. -/
theorem sink_runBenchmarks {σ : Type} (host : Host σ) (settings : Settings)
    (options : RunOptions) (m : Machine σ) (r : Reporter) (sink : Sink) :
    (runBenchmarks host settings options ⟨m, r, sink⟩).2.sink
      = sink.fill (Utf8.encode (r.text (Run.course host settings options m).events)) := by
  obtain ⟨deeds, events, -, does⟩ := Run.benchmarks_does host settings options m
  have ran : runBenchmarks host settings options ⟨m, r, sink⟩ = _ :=
    (does r sink).trans (Run.run_bind ..)
  rw [← events]
  cases room : sink.fits (Utf8.encode (r.text (Run.told deeds))) with
  | true =>
      rw [Run.doing_of_fits host room] at ran
      rw [ran]
      rfl
  | false =>
      obtain ⟨_, _, _, -, -, -, e, -, done⟩ := Run.doing_of_not_fits host room
      rw [done] at ran
      rw [ran]

namespace Program

variable {σ : Type}

open Run

/-- **What a run may rely on**, with a command line that was accepted and settings that
could be loaded, whatever the programs do and on any output.

The plan has an iteration, the native runtime has a tag, which is that of the settings
without the dots in front, and there is a command to build it with.  So no build fails for
want of a command.  What is printed is the text of the events of the run, as far as there is
room for it.  Every result among them, and every result in the reports of which a document
is made (`text_json_course`), has a summary of as many samples as iterations and, if failed
runs are flagged, their number, which is at most that.  So no line for a result ends in
`no data`, and no object of a result lacks a statistic. -/
theorem complete_of_loaded (host : Host σ) (surroundings : Surroundings)
    {words : List CommandLine.Word} {c : CommandLine} (accepted : CommandLine.parse words = .ok c)
    (world : σ) {settings : Settings}
    (loaded : Settings.load (host.view world) (rootOf (host.view world) c) c.config
      = .ok settings)
    (stdout : Sink) :
    let root := rootOf (host.view world) c
    let options := c.options root settings
    let gate := Gate.ofSettings settings.native root
    let whole := course host settings options (.boot world)
    (1 ≤ options.plan.iterations.toNat ∧
        gate.tag.text = trimLeadingDots settings.native.tag ∧ gate.tag.text ≠ "" ∧
        gate.tag.text.toList.head? ≠ some '.' ∧ settings.native.buildCommand ≠ []) ∧
      (run host surroundings words (.boot world) stdout).stdout
        = stdout.fill (Utf8.encode ((Reporter.new c.format
            (!c.noColor && surroundings.terminal)).text whole.events)) ∧
      (∀ gate outcome reason, .buildFinished gate outcome ∈ whole.events →
        outcome ≠ .failed reason .emptyCommand) ∧
      (∀ suite plan result, .fileMeasured suite plan result ∈ whole.events →
        result.Complete options.plan ∧
          ∀ colored, ¬ (Style.dim.paint colored "no data").toList
            <:+ (Human.resultLine colored result).toList) ∧
      ∀ report ∈ whole.reports, ∀ result ∈ report.results,
        result.Complete options.plan ∧
          ∀ key ∈ Document.summaryKeys,
            ((Document.ofResult result).datum.field? key).isSome = true := by
  intro root options gate whole
  have fine := Settings.fault?_of_load loaded
  obtain ⟨-, tag, command⟩ := settings.fault?_eq_none_iff.mp fine
  -- accepted words and accepted settings both forbid zero iterations
  have any := CommandLine.one_le_iterations_of_options accepted fine root
  have complete := complete_of_mem_course host settings any (.boot world)
  refine ⟨⟨any, rfl, tag, gate.tag.undotted, command⟩, ?_, ?_, ?_, ?_⟩
  · have performed : run host surroundings words (.boot world) stdout
        = perform host surroundings c (.boot world) stdout := by
      simp only [run, accepted]
    rw [performed, (perform_of_loaded host surroundings c world stdout loaded).2.2,
      sink_runBenchmarks]
  · intro gate outcome reason told
    obtain ⟨rfl, rfl⟩ := eq_outcome_of_told told
    exact Gate.apply_ne_emptyCommand host command _ _ _ _ reason
  · intro suite plan result told
    -- what is told of a file is what its suite's report holds
    obtain ⟨report, listed, among⟩ := mem_reports_of_told told
    have whole := complete report listed result among
    exact ⟨whole, fun colored => (whole.endsOtherwise colored).not_noData⟩
  · intro report listed result among
    have whole := complete report listed result among
    exact ⟨whole, whole.has_keys.1⟩

/-- Scripts that cannot be started have as many samples as iterations, too. -/
theorem complete_of_unable :
    let c : CommandLine := { root := some (.ofText "/p"), iterations := some 3 }
    ∀ report ∈ (course Sample.unable {} (c.options (.ofText "/p") {}) (.boot ())).reports,
      ∀ result ∈ report.results, ∃ s, result.summary = some s ∧ s.samples = 3 := by
  intro c report listed result among
  have accepted : CommandLine.parse (["--root", "/p", "-n", "3"].map Utf8.encode) = .ok c := by
    rfl
  obtain ⟨-, -, -, -, complete⟩ := complete_of_loaded Sample.unable ⟨none, false⟩ accepted ()
    Sample.load_unable .unlimited
  exact (complete report listed result among).1.summary

end Program

end CrossBench
