import CrossBench.Program
import CrossBench.Proofs.Run.Formats
import CrossBench.Proofs.Suites.Obstruction

/-!
# Exit codes

Whatever goes wrong in a build or in a script becomes part of the report.  What is left
to decide the exit code are the settings, which can be loaded or not, and the benchmarks
tree, which may have something in it that cannot be listed.

* `Run.visits_complete_iff` — a run gets through its suites if their directories can be
  listed, as long as no process changes that.
* `Program.exit_code` — the exit code of the program.
-/

namespace CrossBench

namespace Run

variable {σ : Type}

/-- **Through all suites.**  As long as no start changes what can be listed of the suites
behind the first, all of them are visited exactly if all of them can be listed. -/
theorem visits_complete_iff (host : Host σ) (registry : Registry) (plan : Plan)
    (directories : List Path) (w : σ)
    (same : ∀ starts, starts <+: (visits host registry plan directories w).flatMap
        (Visit.starts registry plan) →
      ∀ directory ∈ directories.tail,
        (host.view (host.after starts w)).list directory = (host.view w).list directory) :
    (visits host registry plan directories w).map Visit.directory = directories ↔
      ∀ directory ∈ directories, ∃ names, (host.view w).list directory = .ok names := by
  induction directories generalizing w with
  | nil => simp [visits]
  | cons directory rest ih =>
      cases listed : Suites.files (host.view w) directory with
      | error e =>
          obtain ⟨reason, unlisted, -⟩ := Suites.listSorted_error listed
          simp [visits, listed, unlisted]
      | ok files =>
          have found := (Suites.listSorted_isOk_iff directory _).mp ⟨files, listed⟩
          set here : Visit := ⟨directory, files⟩
          have onward : visits host registry plan (directory :: rest) w
              = here :: visits host registry plan rest
                  (host.after (here.starts registry plan) w) := by
            simp only [visits, listed, here]
          rw [onward, List.flatMap_cons] at same
          -- the suites behind this one are listed in the world that its starts leave
          have between := same (here.starts registry plan) (List.prefix_append _ _)
          have later := ih (host.after (here.starts registry plan) w)
            fun starts front d mem => by
              rw [← Host.after_append,
                same _ ((List.prefix_append_right_inj _).mpr front) d (List.mem_of_mem_tail mem),
                between d (List.mem_of_mem_tail mem)]
          rw [onward, List.map_cons, List.cons_inj_right, later, List.forall_mem_cons,
            and_iff_right found]
          exact forall₂_congr fun d mem => by rw [between d mem]

/-- A tour whose starts change nothing that it still has to list has an answer that is
no error exactly if it begins in a tree without obstruction. -/
theorem tour_isOk_iff (host : Host σ) {registry : Registry} (invocable : registry.Invocable)
    (plan : Plan) (root : Path) (suite : Option String) (m : Machine σ)
    (same : ∀ suites, Suites.resolve (m.tree host) root suite = .ok suites →
      ∀ starts, starts <+: (visits host registry plan suites m.world).flatMap
          (Visit.starts registry plan) →
        ∀ directory ∈ suites.tail,
          (host.view (host.after starts m.world)).list directory
            = (host.view m.world).list directory) :
    (∃ summary, (tour host registry plan root suite m).answer = .ok summary) ↔
      ¬ Suites.Obstructed (m.tree host) root suite := by
  have ends := tour_answer host invocable plan root suite m
  rw [Suites.not_obstructed_iff]
  cases found : Suites.resolve (m.tree host) root suite with
  | error e =>
      rw [found] at ends
      simp [ends]
  | ok suites =>
      rw [found] at ends
      -- the suites found are walked to the end exactly when each can be listed when its turn comes
      have complete := visits_complete_iff host registry plan suites m.world (same suites found)
      simp only [Except.ok.injEq, exists_eq_left']
      refine Iff.trans ?_ complete
      rcases ends with ⟨all, answer⟩ | ⟨directory, rest, reason, split, -, answer⟩
      · exact iff_of_true ⟨_, answer⟩ all
      · refine iff_of_false (by simp [answer]) fun all => ?_
        -- a run that stopped has visited fewer suites than it found
        rw [all] at split
        exact absurd (congrArg List.length split) (by simp)

/-- The starts of a run are those of the build and, behind them, those of its suites. -/
theorem starts_course (host : Host σ) (settings : Settings) (options : RunOptions)
    (world : σ) :
    let gate := Gate.ofSettings settings.native options.root
    let build := gate.starts (gate.check (host.view world)) options.skipBuild
    let built := host.after build world
    (course host settings options (.boot world)).machine.starts.toList
      = build ++ (visits host (prepared host settings options (.boot world)).registry
          options.plan (resolved (Suites.resolve (host.view built)
            (settings.benchmarksRoot options.root) options.suite)) built).flatMap
        (Visit.starts (prepared host settings options (.boot world)).registry
          options.plan) := by
  intro gate build built
  rw [(course_eq_through host settings options (.boot world)).1, Machine.through_boot_starts]
  rfl

/-- **A run whose processes leave the benchmarks tree as it is** comes to its end exactly
if there is no obstruction in the tree in which its suites are looked for. -/
theorem course_isOk_iff (host : Host σ) (settings : Settings) (options : RunOptions)
    (world : σ)
    (kept : ∀ starts,
      starts <+: (course host settings options (.boot world)).machine.starts.toList →
      Suites.Kept (host.view world) (host.view (host.after starts world))
        (settings.benchmarksRoot options.root)) :
    let gate := Gate.ofSettings settings.native options.root
    let build := gate.starts (gate.check (host.view world)) options.skipBuild
    (∃ summary, (course host settings options (.boot world)).answer = .ok summary) ↔
      ¬ Suites.Obstructed (host.view (host.after build world))
        (settings.benchmarksRoot options.root) options.suite := by
  intro gate build
  rw [starts_course] at kept
  have ends := tour_isOk_iff host (prepared_invocable host settings options (.boot world))
    options.plan (settings.benchmarksRoot options.root) options.suite
    (prepared host settings options (.boot world)).machine
  dsimp only [course]
  rw [prepared_eq_through] at ends ⊢
  refine ends fun suites found starts front directory mem => ?_
  cases asked : options.suite with
  | some name =>
      -- the only suite is listed at once
      rw [asked] at found
      rw [Suites.eq_singleton_of_named found] at mem
      cases mem
  | none =>
      have here := kept build (List.prefix_append _ _)
      have later := kept (build ++ starts) <| by
        rw [List.prefix_append_right_inj]
        exact found ▸ front
      have none : Suites.AskedInside (host.view world)
        (settings.benchmarksRoot options.root) options.suite := by simp [Suites.AskedInside, asked]
      have inside := Suites.inside_of_mem ((here.resolve_eq none).symm.trans found) none
        (List.mem_of_mem_tail mem)
      rw [Host.after_append] at later
      exact (later _ inside).2.trans (here _ inside).2.symm

/-- What is written for people before the suites are looked for; in the other formats it
is nothing. -/
def openingText (host : Host σ) (settings : Settings) (options : RunOptions) (world : σ)
    (colored : Bool) : Format → String
  | .human =>
      let gate := Gate.ofSettings settings.native options.root
      let staleness := gate.check (host.view world)
      let outcome := (gate.apply host settings.registry staleness options.skipBuild
        (.boot world)).2.2
      unlines (Human.buildLines colored gate staleness options.skipBuild outcome)
  | .csv => ""
  | .json => ""

theorem text_prepared (host : Host σ) (settings : Settings) (options : RunOptions)
    (world : σ) (colored : Bool) (format : Format) :
    (Reporter.new format colored).text (prepared host settings options (.boot world)).events
      = openingText host settings options world colored format := by
  have quiet := quiet_prepared host settings options (.boot world)
  cases format with
  | human =>
      rw [Reporter.new, Reporter.text_human, human_prepared]
      rfl
  | csv =>
      rw [Reporter.new, Reporter.text_csv,
        List.flatMap_eq_nil_iff.mpr fun event mem => (quiet event mem).2.2]
      rfl
  | json => exact (Reporter.text_json_of_quiet colored [] fun event mem => (quiet event mem).1).1

/-- **A run whose suites are not found** has started the build command at most, and has told
no more than what there is to say about the build. -/
theorem course_of_unresolved (host : Host σ) (settings : Settings) (options : RunOptions)
    (world : σ) {e : HarnessError} :
    let gate := Gate.ofSettings settings.native options.root
    let build := gate.starts (gate.check (host.view world)) options.skipBuild
    let whole := course host settings options (.boot world)
    Suites.resolve (host.view (host.after build world)) (settings.benchmarksRoot options.root)
        options.suite = .error e →
      whole.machine.starts.toList = build ∧
        ∀ colored format, (Reporter.new format colored).text whole.events
          = openingText host settings options world colored format := by
  intro gate build whole unresolved
  rw [← prepared_tree] at unresolved
  -- nothing follows the build
  have ended : whole = ⟨(prepared host settings options (.boot world)).machine,
      (prepared host settings options (.boot world)).events, [], .error e⟩ := by
    simp [whole, course, tour, unresolved]
  rw [ended]
  refine ⟨?_, fun colored format => text_prepared host settings options world colored format⟩
  rw [prepared_eq_through, Machine.through_boot_starts]
  rfl

end Run

namespace Sample

/-- The programs of a project with the suite `a`, none of which can be started. -/
def unable : Host Unit where
  view _ := tree ["a"]
  run _ _ := ⟨(), .notStarted .notFound, 0⟩

/-- It has no configuration file. -/
theorem load_unable : Settings.load (unable.view ()) (.ofText "/p") none = .ok {} := by
  have noFile : (unable.view ()).isFile ((Path.ofText "/p").join Settings.fileName) = false := by
    cbv
  simp [Settings.load, Settings.source, noFile]

end Sample

namespace Program

variable {σ : Type}

open Suites Run

/-- A run that was asked for and whose settings are there. -/
theorem perform_of_loaded (host : Host σ) (surroundings : Surroundings) (c : CommandLine)
    (world : σ) (stdout : Sink) {settings : Settings}
    (loaded : Settings.load (host.view world) (rootOf (host.view world) c) c.config
      = .ok settings) :
    let ending := perform host surroundings c (.boot world) stdout
    let ran := runBenchmarks host settings (c.options (rootOf (host.view world) c) settings)
      ⟨.boot world, .new c.format (!c.noColor && surroundings.terminal), stdout⟩
    ending.code = (match ran.1 with | .ok _ => 0 | .error _ => 1) ∧
      ending.machine = ran.2.machine ∧ ending.stdout = ran.2.sink := by
  have tree : (Machine.boot world).tree host = host.view world := rfl
  simp only [perform, tree, loaded]
  generalize runBenchmarks host settings _ _ = ran
  obtain ⟨answer, s⟩ := ran
  cases answer <;> exact ⟨rfl, rfl, rfl⟩

/-- On an output that accepts everything it is its course, reported. -/
theorem perform_unlimited (host : Host σ) (surroundings : Surroundings) (c : CommandLine)
    (world : σ) {settings : Settings}
    (loaded : Settings.load (host.view world) (rootOf (host.view world) c) c.config
      = .ok settings) :
    let ending := perform host surroundings c (.boot world) .unlimited
    let whole := course host settings (c.options (rootOf (host.view world) c) settings)
      (.boot world)
    ending.code = (match whole.answer with | .ok _ => 0 | .error _ => 1) ∧
      ending.machine = whole.machine ∧
      ending.stdout.written.toList = Utf8.encode
        ((Reporter.new c.format (!c.noColor && surroundings.terminal)).text whole.events) := by
  have ran := perform_of_loaded host surroundings c world (.boundless #[]) loaded
  dsimp only at ran
  rw [runBenchmarks_boundless] at ran
  obtain ⟨code, machine, stdout⟩ := ran
  refine ⟨code, machine, ?_⟩
  rw [show Sink.unlimited = .boundless #[] from rfl, stdout]
  simp [Sink.boundless]

/-- **The exit code of the program**, for a command line that asks for a run, whatever the
build command and the scripts do as long as they leave the benchmarks tree as it is, and
on an output that accepts everything.

If the settings cannot be loaded the code is 1, and nothing is started or written.
Otherwise the code is 1 if there is an obstruction in the tree that the build leaves, and 0
if there is none.  For a run that does not leave the benchmarks root, it makes no difference
whether one looks before or after the build.  So neither the outcome of the build nor that
of any script has a say in it, nor what the scripts can be run with, nor the plan, nor the
format.

If the suite that is asked for is missing, nothing is started but the build command, and
nothing is written but what there is to say about the build. -/
theorem exit_code (host : Host σ) (surroundings : Surroundings)
    {words : List CommandLine.Word} {c : CommandLine}
    (accepted : CommandLine.parse words = .ok c) (world : σ)
    (kept : ∀ settings,
      Settings.load (host.view world) (rootOf (host.view world) c) c.config = .ok settings →
      ∀ starts,
        starts <+: (run host surroundings words (.boot world) .unlimited).machine.starts.toList →
        Kept (host.view world) (host.view (host.after starts world))
          (settings.benchmarksRoot (rootOf (host.view world) c))) :
    let tree := host.view world
    let root := rootOf tree c
    let ending := run host surroundings words (.boot world) .unlimited
    (∀ e, Settings.load tree root c.config = .error e →
      ending.code = 1 ∧ ending.machine = .boot world ∧ ending.stdout = .unlimited) ∧
    ∀ settings, Settings.load tree root c.config = .ok settings →
      let benchmarks := settings.benchmarksRoot root
      let gate := Gate.ofSettings settings.native root
      let build := gate.starts (gate.check tree) c.noBuild
      let built := host.view (host.after build world)
      (ending.code = 1 ∧ Obstructed built benchmarks c.benchmark ∨
        ending.code = 0 ∧ ¬ Obstructed built benchmarks c.benchmark) ∧
      (AskedInside tree benchmarks c.benchmark →
        (Obstructed built benchmarks c.benchmark ↔
          Obstructed tree benchmarks c.benchmark)) ∧
      ∀ name, c.benchmark = some name →
        built.isDirectory (benchmarks.join (.ofText name)) = false →
          ending.machine.starts.toList = build ∧
            ending.stdout.written.toList = Utf8.encode (openingText host settings
              (c.options root settings) world (!c.noColor && surroundings.terminal)
              c.format) := by
  intro tree root ending
  have performed : ending = perform host surroundings c (.boot world) .unlimited := by
    simp only [ending, run, accepted]
  refine ⟨fun e failed => ?_, fun settings loaded => ?_⟩
  · -- nothing is started before the settings are read
    have seen : (Machine.boot world).tree host = tree := rfl
    have refused : ending = ⟨1, e.message ++ "\n", .boot world, .unlimited⟩ := by
      rw [performed, perform]
      simp only [seen, failed, root]
    rw [refused]
    exact ⟨rfl, rfl, rfl⟩
  intro benchmarks gate build built
  obtain ⟨code, machine, written⟩ := perform_unlimited host surroundings c world loaded
  rw [← performed] at code machine written
  have kept := kept settings loaded
  change ∀ starts, starts <+: ending.machine.starts.toList → _ at kept
  rw [machine] at kept
  -- the run answers with a summary exactly when nothing stands in its way
  have ok := course_isOk_iff host settings (c.options root settings) world kept
  refine ⟨?_, fun inside => ?_, fun name named missing => ?_⟩
  · cases answered : (course host settings (c.options root settings) (.boot world)).answer with
    | ok summary =>
        rw [answered] at code
        exact .inr ⟨code, ok.mp ⟨summary, answered⟩⟩
    | error e =>
        rw [answered] at code
        refine .inl ⟨code, not_not.mp fun through => ?_⟩
        obtain ⟨summary, other⟩ := ok.mpr through
        cases answered.symm.trans other
  · -- the build is a first part of the run, so `kept` speaks of it
    refine (kept build ?_).obstructed_iff inside
    rw [starts_course]
    exact List.prefix_append _ _
  · -- a name that is no directory after the build: nothing is measured
    have unresolved : resolve built benchmarks c.benchmark
        = .error (.suiteNotFound name benchmarks) := by
      simp [resolve, named, missing]
    obtain ⟨starts, text⟩ :=
      course_of_unresolved host settings (c.options root settings) world unresolved
    exact ⟨machine ▸ starts, written.trans (congrArg Utf8.encode (text _ _))⟩

/-- A run of which nothing can be started, neither the build command nor the script, is a
success. -/
theorem exit_code_of_unable :
    let words := ["--root", "/p"].map Utf8.encode
    (run Sample.unable ⟨none, false⟩ words (.boot ()) .unlimited).code = 0 := by
  intro words
  have accepted : CommandLine.parse words = .ok { root := some (.ofText "/p") } := by
    rfl
  have root : rootOf (Sample.unable.view ()) { root := some (.ofText "/p") } = .ofText "/p" :=
    rfl
  have benchmarks : Settings.benchmarksRoot {} (.ofText "/p") = .ofText "/p/benchmarks" := by
    cbv
  -- whatever the world, the tree is the same and nothing in it is in the way
  have through : ∀ w, ¬ Obstructed (Sample.unable.view w) (.ofText "/p/benchmarks") none :=
    fun _ => not_obstructed_iff.mpr ⟨[Sample.suite "a"], by cbv,
      List.forall_mem_singleton.mpr ⟨[Utf8.encode "x.sh"], by cbv⟩⟩
  have code := (exit_code Sample.unable ⟨none, false⟩ accepted ()
    (fun _ _ _ _ _ _ => ⟨rfl, rfl⟩)).2 {}
  rw [root] at code
  rw [benchmarks] at code
  exact ((code Sample.load_unable).1.resolve_left fun failed => through _ failed.2).1

end Program

end CrossBench
