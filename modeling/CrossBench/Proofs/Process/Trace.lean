import CrossBench.Build.Gate

/-!
# The trace of processes

The only thing that changes a world is a process that was started in it and
waited for.  So what the harness does to a machine is told by a list of starts:
`Machine.through` starts them one after the other, each in the world that the one
before it left, and records them in that order.

The statements here say for every operation that runs processes which list it is
(`repeated_eq_through`, `collect_eq_through`, `build_eq_through`,
`apply_eq_through`).  Nothing is assumed of the programs, which may do to the
world what they like.

The runs of one file are starts of one process, and `Host.nthRun` counts them from
zero.  It does not know of warmups, samples or failures; what sampling a file gives
is read off it (`Sampling.collect_of_runs`): the first runs are the warmup, and the
samples and the failures are those of the runs that follow.
-/

namespace CrossBench

variable {σ : Type}

/-- A process ended well if and only if it was there and exited with code zero. -/
theorem Ending.succeeded_iff (ending : Ending) :
    ending.succeeded = true ↔ ∃ stderr, ending = .exited (.exit 0) stderr := by
  cases ending with
  | notStarted reason => simp [succeeded]
  | exited status stderr =>
      obtain ⟨word⟩ := status
      have exit : WaitStatus.exit 0 = ⟨0⟩ := rfl
      rw [succeeded, WaitStatus.success, WaitStatus.value, decide_eq_true_iff]
      simp [exit, ← UInt32.toNat_inj]

/-- The world that processes leave, started one after the other. -/
def Host.after (host : Host σ) (starts : List Start) (w : σ) : σ :=
  starts.foldl (fun w s => (host.run s w).world) w

namespace Host

@[simp] theorem after_nil (host : Host σ) (w : σ) : host.after [] w = w := rfl

theorem after_append (host : Host σ) (first second : List Start) (w : σ) :
    host.after (first ++ second) w = host.after second (host.after first w) :=
  List.foldl_append

/-- The run of a process that comes after `i` earlier runs of it: each run starts in the
world that the one before it has left. -/
def nthRun (host : Host σ) (s : Start) (w : σ) : Nat → Finished σ
  | 0 => host.run s w
  | i + 1 => host.run s (host.nthRun s w i).world

theorem nthRun_eq_run_after (host : Host σ) (s : Start) (w : σ) (i : Nat) :
    host.nthRun s w i = host.run s (host.after (List.replicate i s) w) := by
  induction i with
  | zero => rfl
  | succ i ih =>
      rw [nthRun, ih, List.replicate_succ', after_append]
      rfl

theorem nthRun_add (host : Host σ) (s : Start) (w : σ) (k i : Nat) :
    host.nthRun s w (k + i) = host.nthRun s (host.after (List.replicate k s) w) i := by
  rw [nthRun_eq_run_after, nthRun_eq_run_after, ← after_append, List.replicate_append_replicate]

end Host

namespace Machine

/-- The machine after processes that were started in it one after the other. -/
def through (host : Host σ) (starts : List Start) (m : Machine σ) : Machine σ :=
  ⟨host.after starts m.world, m.starts ++ starts.toArray⟩

@[simp] theorem through_nil (host : Host σ) (m : Machine σ) :
    m.through host [] = m := by
  simp [through]

theorem through_append (host : Host σ) (first second : List Start) (m : Machine σ) :
    m.through host (first ++ second) = (m.through host first).through host second := by
  simp only [through, Host.after_append, Array.append_assoc, List.append_toArray]

@[simp] theorem through_world (host : Host σ) (starts : List Start) (m : Machine σ) :
    (m.through host starts).world = host.after starts m.world := rfl

@[simp] theorem through_boot_starts (host : Host σ) (starts : List Start) (w : σ) :
    ((boot w).through host starts).starts.toList = starts := by
  simp [through, boot]

theorem start_eq_through (host : Host σ) (s : Start) (m : Machine σ) :
    (m.start host s).1 = m.through host [s] := by
  simp [start, through, Host.after]

end Machine

namespace Sampling

/-- Runs of one file are starts of one command. -/
theorem repeated_eq_through (host : Host σ) {command : Command} (file : Path)
    (runs : command ≠ []) (n : Nat) (m : Machine σ) :
    (repeated host command file n m).1
      = m.through host (List.replicate n (.ofCommand command file)) := by
  induction n generalizing m with
  | zero => simp [repeated]
  | succ n ih =>
      have invoked : (invoke host command file m).1
          = m.through host [.ofCommand command file] := by
        cases command with
        | nil => exact absurd rfl runs
        | cons program args => exact Machine.start_eq_through host _ m
      rw [repeated, ih, invoked, ← Machine.through_append]
      rfl

/-- **A file is started as often as the plan says**, the warmup runs first. -/
theorem collect_eq_through (host : Host σ) (plan : Plan) {command : Command}
    (file : Path) (runs : command ≠ []) (m : Machine σ) :
    (collect host plan command file m).1
      = m.through host (List.replicate (plan.warmup.toNat + plan.iterations.toNat)
          (.ofCommand command file)) := by
  rw [collect, repeated_eq_through host file runs, repeated_eq_through host file runs,
    ← Machine.through_append, List.replicate_append_replicate]

/-- A command without words starts nothing. -/
theorem repeated_of_nil (host : Host σ) (file : Path) (n : Nat) (m : Machine σ) :
    (repeated host [] file n m).1 = m := by
  induction n generalizing m with
  | zero => rfl
  | succ n ih => exact ih m

/-- Sampling a file is a list of starts, whatever the command. -/
theorem exists_collect_eq_through (host : Host σ) (plan : Plan) (command : Command)
    (file : Path) (m : Machine σ) :
    ∃ starts, (collect host plan command file m).1 = m.through host starts := by
  by_cases runs : command = []
  · subst runs
    refine ⟨[], ?_⟩
    rw [collect, repeated_of_nil, repeated_of_nil, Machine.through_nil]
  · exact ⟨_, collect_eq_through host plan file runs m⟩

/-! ## Outcomes and durations

A run is known by the number of runs of the same process before it.  Warmup and samples are
one sequence of runs, cut in two.
-/

theorem length_repeated (host : Host σ) (command : Command) (file : Path) (n : Nat)
    (m : Machine σ) : (repeated host command file n m).2.length = n := by
  induction n generalizing m with
  | zero => rfl
  | succ n ih =>
      simp only [repeated, List.length_cons]
      rw [ih]

/-- A command with words is started, and the outcome and the time are those of its run. -/
theorem invoke_eq_run (host : Host σ) {command : Command} (file : Path) (runs : command ≠ [])
    (m : Machine σ) :
    invoke host command file m
      = (m.through host [.ofCommand command file],
          (host.nthRun (.ofCommand command file) m.world 0).ending.succeeded,
          (host.nthRun (.ofCommand command file) m.world 0).nanos) := by
  cases command with
  | nil => exact absurd rfl runs
  | cons program args =>
      rw [← Machine.start_eq_through]
      rfl

/-- **Outcomes and durations, run by run.** -/
theorem repeated_eq_map_nthRun (host : Host σ) {command : Command} (file : Path)
    (runs : command ≠ []) (n : Nat) (m : Machine σ) :
    (repeated host command file n m).2
      = (List.range n).map fun i =>
          ((host.nthRun (.ofCommand command file) m.world i).ending.succeeded,
            (host.nthRun (.ofCommand command file) m.world i).nanos) := by
  induction n generalizing m with
  | zero => rfl
  | succ n ih =>
      simp only [repeated, invoke_eq_run host file runs]
      rw [ih, List.range_succ_eq_map, List.map_cons, List.map_map]
      refine congrArg _ (List.map_congr_left fun i _ => ?_)
      rw [Function.comp_apply, Nat.succ_eq_one_add, Host.nthRun_add]
      rfl

/-- A command without words fails each time. -/
theorem fst_of_mem_repeated_nil (host : Host σ) (file : Path) (n : Nat) (m : Machine σ) :
    ∀ run ∈ (repeated host [] file n m).2, run.1 = false := by
  induction n generalizing m with
  | zero => exact fun _ mem => nomatch mem
  | succ n ih => exact List.forall_mem_cons.mpr ⟨rfl, ih m⟩

/-- The measured runs of a file: those that follow the warmup. -/
theorem collect_eq_sampleSet (host : Host σ) (plan : Plan) (command : Command) (file : Path)
    (m : Machine σ) :
    (collect host plan command file m).2
      = sampleSet plan.failedRuns (repeated host command file plan.iterations.toNat
          (repeated host command file plan.warmup.toNat m).1).2 := rfl

@[simp] theorem samples_sampleSet (policy : FailedRuns) (runs : List (Bool × UInt64)) :
    (sampleSet policy runs).samples = runs.map (·.2) := rfl

@[simp] theorem failedRuns_record (runs : List (Bool × UInt64)) :
    (sampleSet .record runs).failedRuns = none := rfl

@[simp] theorem failedRuns_flag (runs : List (Bool × UInt64)) :
    (sampleSet .flag runs).failedRuns = some (runs.countP (!·.1)) := rfl

/-- There are no more failures than samples. -/
theorem failedRuns_le_length (policy : FailedRuns) (runs : List (Bool × UInt64)) {failed : Nat}
    (counted : (sampleSet policy runs).failedRuns = some failed) :
    failed ≤ (sampleSet policy runs).samples.length := by
  cases policy with
  | record => cases counted
  | flag =>
      cases counted
      rw [samples_sampleSet, List.length_map]
      exact List.countP_le_length

/-- **What sampling a file gives**, whatever its processes do.  They are started one after the
other, as often as warmup and iterations say, each in the world that the one before it has
left.  Each of the runs after the warmup gives its duration as a sample, however it ended, and
if failures are flagged, those of these runs are counted that did not exit with code zero.  A
command without words starts nothing and fails each time.  What becomes of failures changes
neither the processes nor the samples. -/
theorem collect_of_runs (host : Host σ) (plan : Plan) (command : Command) (file : Path)
    (m : Machine σ) :
    let s : Start := .ofCommand command file
    let measured (i : Nat) : Finished σ := host.nthRun s m.world (plan.warmup.toNat + i)
    let sampled := collect host plan command file m
    s = ⟨command.map Utf8.encode ++ [file.bytes], none⟩ ∧
      sampled.2.samples.length = plan.iterations.toNat ∧
      (plan.failedRuns = .record → sampled.2.failedRuns = none) ∧
      (∀ failed, sampled.2.failedRuns = some failed → failed ≤ sampled.2.samples.length) ∧
      (command = [] → sampled.1 = m ∧
        (plan.failedRuns = .flag → sampled.2.failedRuns = some plan.iterations.toNat)) ∧
      (command ≠ [] →
        sampled.1 = ⟨host.after (List.replicate (plan.warmup.toNat + plan.iterations.toNat) s)
            m.world,
          m.starts ++ Array.replicate (plan.warmup.toNat + plan.iterations.toNat) s⟩ ∧
        sampled.2.samples = (List.range plan.iterations.toNat).map (fun i => (measured i).nanos) ∧
        (∀ i, (measured i).ending.succeeded = true ↔
          ∃ stderr, (measured i).ending = .exited (.exit 0) stderr) ∧
        (plan.failedRuns = .flag → sampled.2.failedRuns
          = some ((List.range plan.iterations.toNat).countP
              fun i => !(measured i).ending.succeeded))) ∧
      ∀ policy, let other := collect host { plan with failedRuns := policy } command file m
        other.1 = sampled.1 ∧ other.2.samples = sampled.2.samples := by
  intro s measured sampled
  have set : sampled.2 = _ := collect_eq_sampleSet host plan command file m
  have count := length_repeated host command file plan.iterations.toNat
    (repeated host command file plan.warmup.toNat m).1
  refine ⟨rfl, ?_, fun policy => ?_, fun failed => ?_, fun empty => ?_, fun runs => ?_,
    fun policy => ⟨rfl, rfl⟩⟩
  · rw [set, samples_sampleSet, List.length_map, count]
  · rw [set, policy, failedRuns_record]
  · rw [set]
    exact failedRuns_le_length _ _
  · subst empty
    refine ⟨by simp only [sampled, collect, repeated_of_nil], fun policy => ?_⟩
    -- with no command every run fails at once, and nothing is started
    have failing := fst_of_mem_repeated_nil host file plan.iterations.toNat
      (repeated host [] file plan.warmup.toNat m).1
    rw [set, policy, failedRuns_flag, List.countP_eq_length.mpr, count]
    intro run mem
    rw [failing run mem]
    rfl
  · -- the warm-up moves the machine on, so the measured runs count from behind it
    have warm := repeated_eq_through host file runs plan.warmup.toNat m
    rw [warm, repeated_eq_map_nthRun host file runs] at set
    simp only [Machine.through_world, ← Host.nthRun_add] at set
    refine ⟨?_, ?_, fun i => Ending.succeeded_iff _, fun policy => ?_⟩
    · have machine := collect_eq_through host plan file runs m
      rw [Machine.through, List.toArray_replicate] at machine
      exact machine
    · rw [set, samples_sampleSet, List.map_map]
      rfl
    · rw [set, policy, failedRuns_flag, List.countP_map]
      rfl

end Sampling

namespace Gate

/-- A build starts the words of the build command in the project root, if there are any. -/
theorem build_eq_through (host : Host σ) (gate : Gate) (m : Machine σ) :
    (gate.build host m).1 = m.through host
      (if gate.command = [] then [] else [⟨gate.command.map Utf8.encode, some gate.workdir⟩]) := by
  unfold build buildStart
  cases gate.command with
  | nil => simp
  | cons program args => simpa using Machine.start_eq_through host _ m

/-- The processes that acting on the state of the native program starts: the words of the
build command in the project root, if the program is stale, may be built and can be. -/
def starts (gate : Gate) (staleness : Staleness) (skipBuild : Bool) : List Start :=
  if staleness.isStale = true ∧ skipBuild = false ∧ gate.command ≠ [] then
    [⟨gate.command.map Utf8.encode, some gate.workdir⟩]
  else []

/-- **The native program is built at most once.** -/
theorem apply_eq_through (host : Host σ) (gate : Gate) (registry : Registry)
    (staleness : Staleness) (skipBuild : Bool) (m : Machine σ) :
    (gate.apply host registry staleness skipBuild m).1
      = m.through host (gate.starts staleness skipBuild) := by
  unfold apply
  by_cases stale : staleness.isStale = true
  · cases skipBuild with
    | true => simp [starts, stale]
    | false =>
        have built := build_eq_through host gate m
        -- stale and to be built: what is started depends on the command alone
        have picked : gate.starts staleness false = if gate.command = [] then []
            else [⟨gate.command.map Utf8.encode, some gate.workdir⟩] := by
          by_cases command : gate.command = [] <;> simp [starts, stale, command]
        rw [← picked] at built
        rw [← built]
        simp only [stale, Bool.not_true, Bool.false_eq_true, if_false]
        split
        next last outcome => rw [outcome]
        next last e outcome => rw [outcome]
  · simp [starts, stale]

end Gate

end CrossBench
