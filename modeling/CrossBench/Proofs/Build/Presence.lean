import CrossBench.Build.Gate
import Mathlib

/-!
# What stands where the native program belongs

There are three ways to accept the native program: it is up to date, it is out of date
and must not be built, or it has just been built.  The last way asks for a regular file
in its place.  The first two ask for a time, and everything has one: a directory, a pipe
or a device is accepted as the program.

* `Gate.apply_of_not_building`, `Gate.apply_of_building` — which runner is bound.
* `Gate.lookup_apply` — what stands in the place of the program if it can be used, and
  why it cannot be used otherwise.
* `not_every_usable_program_is_a_file` — a directory that can be used.
-/

namespace CrossBench

theorem Registry.lookup_bind (registry : Registry) (tag : Tag) (runner : Runner) :
    (registry.bind tag runner).lookup tag =
      match runner with
      | .available command => .available command
      | .unavailable reason => .disabled reason := by
  rw [lookup, get?_bind, if_pos rfl]
  cases runner <;> rfl

namespace Gate

variable {σ : Type}

/-- What stands in the place of the program, links followed. -/
def standing? (gate : Gate) (tree : Tree) : Option Node :=
  (tree.find gate.binary true).toOption

theorem modified?_eq (gate : Gate) (tree : Tree) :
    tree.modified? gate.binary = (gate.standing? tree).map tree.disk.modified := by
  unfold Tree.modified? standing?
  cases tree.find gate.binary true <;> rfl

theorem isFile_eq (gate : Gate) (tree : Tree) :
    tree.isFile gate.binary = (gate.standing? tree).any Node.isFile := by
  unfold Tree.isFile standing?
  cases tree.find gate.binary true <;> rfl

/-- A program is missing only if nothing at all stands in its place. -/
theorem check_eq_missing_iff (gate : Gate) (tree : Tree) :
    gate.check tree = .missing ↔ gate.standing? tree = none := by
  rw [check, modified?_eq]
  cases gate.standing? tree with
  | none => exact ⟨fun _ => rfl, fun _ => rfl⟩
  | some node =>
      dsimp only [Option.map_some]
      split <;> simp

/-- A build command has done its work if it ended well and left a regular file. -/
theorem verdict_eq_ok_iff (gate : Gate) (tree : Tree) (ending : Ending) :
    gate.verdict tree ending = .ok () ↔
      ending.succeeded = true ∧ tree.isFile gate.binary = true := by
  cases ending with
  | notStarted reason => simp [verdict, Ending.succeeded]
  | exited status stderr =>
      rw [verdict, Ending.succeeded]
      cases status.success <;> cases tree.isFile gate.binary <;> simp

/-- A build that succeeds leaves a regular file in the place of the program. -/
theorem isFile_of_build {host : Host σ} {gate : Gate} {m last : Machine σ}
    (built : gate.build host m = (last, .ok ())) :
    ∃ node, gate.standing? (last.tree host) = some node ∧ node.isFile = true := by
  have file : (last.tree host).isFile gate.binary = true := by
    unfold build at built
    split at built
    · cases built
    · obtain ⟨rfl, judged⟩ := Prod.mk.inj built
      exact ((gate.verdict_eq_ok_iff _ _).mp judged).2
  rw [isFile_eq] at file
  simpa [Option.any_eq_true] using file

/-- The runner that is bound if the program is accepted. -/
theorem lookup_bind_runner (gate : Gate) (registry : Registry) :
    (registry.bind gate.tag gate.runner).lookup gate.tag =
      match gate.binary.text? with
      | some path => .available [path]
      | none => .disabled "binary path is not valid UTF-8" := by
  rw [Registry.lookup_bind, runner]
  cases gate.binary.text? <;> rfl

/-- If nothing is built, the program is accepted as soon as anything stands in its
place. -/
theorem apply_of_not_building (host : Host σ) {gate : Gate} (registry : Registry)
    {skipBuild : Bool} {m : Machine σ}
    (keeping : ((gate.check (m.tree host)).isStale && !skipBuild) = false) :
    let applied := gate.apply host registry (gate.check (m.tree host)) skipBuild m
    applied.1 = m ∧ applied.2.1 = registry.bind gate.tag
      (match gate.standing? (m.tree host) with
        | some _ => gate.runner
        | none => .unavailable "build skipped") := by
  have missing := gate.check_eq_missing_iff (m.tree host)
  cases standing : gate.standing? (m.tree host) with
  | none =>
      -- nothing stands at the path: skipping is the only way not to build
      rw [missing.mpr standing] at keeping ⊢
      cases skipBuild with
      | false => cases keeping
      | true => exact ⟨rfl, rfl⟩
  | some node =>
      rw [standing] at missing
      unfold apply
      cases checked : gate.check (m.tree host) with
      | fresh => exact ⟨rfl, rfl⟩
      -- something does stand there
      | missing => cases missing.mp checked
      | sourcesChanged =>
          rw [checked] at keeping
          cases skipBuild with
          | false => cases keeping
          | true => exact ⟨rfl, rfl⟩

/-- If the program is built, it is accepted if that succeeds. -/
theorem apply_of_building (host : Host σ) (gate : Gate) (registry : Registry)
    {staleness : Staleness} {skipBuild : Bool} (m : Machine σ)
    (building : (staleness.isStale && !skipBuild) = true) :
    let applied := gate.apply host registry staleness skipBuild m
    applied.1 = (gate.build host m).1 ∧ applied.2.1 = registry.bind gate.tag
      (match (gate.build host m).2 with
        | .ok () => gate.runner
        | .error e => .unavailable e.message) := by
  obtain ⟨stale, allowed⟩ := Bool.and_eq_true_iff.mp building
  rw [Bool.not_eq_true'] at allowed
  unfold apply
  rw [stale, allowed]
  obtain ⟨last, outcome⟩ := gate.build host m
  cases outcome <;> exact ⟨rfl, rfl⟩

/-- **A program that can be used stands in its place.**  Whatever was in the registry,
acting on the state of the native program gives its tag an answer.

If the tag is available, it is with the path of the program as its command, and something
stands there now: a regular file if the program has been built, and otherwise whatever
stood there before, of which only one thing is known, that it is there.

If the tag is disabled, either the path is no text, or the build has failed, or nothing
was built although nothing stands in the place of the program.  So a directory in its
place is refused by a build and accepted without one. -/
theorem lookup_apply (host : Host σ) (gate : Gate) (registry : Registry)
    (skipBuild : Bool) (m : Machine σ) :
    let staleness := gate.check (m.tree host)
    let building := staleness.isStale && !skipBuild
    let (last, bound, _) := gate.apply host registry staleness skipBuild m
    match bound.lookup gate.tag with
    | .available command =>
        (∃ path, gate.binary.text? = some path ∧ command = [path]) ∧
          ∃ node, gate.standing? (last.tree host) = some node ∧
            if building then node.isFile = true else last = m
    | .disabled reason =>
        (gate.binary.text? = none ∧ reason = "binary path is not valid UTF-8") ∨
          if building then
            ∃ e, (gate.build host m).2 = .error e ∧ reason = e.message
          else
            gate.standing? (m.tree host) = none ∧ reason = "build skipped"
    | .unsupported => False := by
  intro staleness building
  -- without a build the machine is as before, so what stands at the path is what was checked
  cases stale : building with
  | false =>
      obtain ⟨same, bound⟩ := apply_of_not_building host registry stale
      dsimp only [staleness]
      rw [same, bound]
      cases standing : gate.standing? (m.tree host) with
      | none =>
          rw [Registry.lookup_bind]
          exact .inr ⟨rfl, rfl⟩
      | some node =>
          rw [lookup_bind_runner]
          cases gate.binary.text? with
          | none => exact .inl ⟨rfl, rfl⟩
          | some path => exact ⟨⟨path, rfl, rfl⟩, node, rfl, rfl⟩
  | true =>
      obtain ⟨same, bound⟩ := apply_of_building host gate registry m stale
      dsimp only [staleness]
      rw [same, bound]
      cases outcome : (gate.build host m).2 with
      | error e =>
          rw [Registry.lookup_bind]
          exact .inr ⟨e, rfl, rfl⟩
      | ok _ =>
          rw [lookup_bind_runner]
          cases gate.binary.text? with
          | none => exact .inl ⟨rfl, rfl⟩
          | some path =>
              -- the build itself asked for a regular file before it reported success
              exact ⟨⟨path, rfl, rfl⟩, isFile_of_build (Prod.ext rfl outcome)⟩

end Gate

/-! ## A directory in the place of the program

A directory has a time as a file has one.  Without sources nothing can be newer, so the
check calls it fresh.
-/

namespace Sample

/-- The programs of a project in `/p` with a directory in the place of its native
program, none of which does anything. -/
def occupied : Host Unit where
  view _ := {
    disk.top :=
      .directory [(Utf8.encode "p", .directory [(Utf8.encode "rxt",
        .directory [] 0o755 default)] 0o755 default)] 0o755 default
    disk.files := #[]
    workdir := []
    mask := 0 }
  run _ _ := ⟨(), .exited (.exit 0) [], 0⟩

/-- A program without sources. -/
def sourceless : NativeSettings := { binary := .ofText "rxt", sourceRoots := [] }

end Sample

/-- **A program that can be used need not be a regular file.**  Nothing is newer than the
directory in its place, so that it is taken for a program that is up to date. -/
theorem not_every_usable_program_is_a_file :
    ¬ ∀ (σ : Type) (host : Host σ) (native : NativeSettings) (root : Path)
      (registry : Registry) (skipBuild : Bool) (world : σ) (command : Command),
      let gate := Gate.ofSettings native root
      let (last, bound, _) :=
        gate.apply host registry (gate.check (host.view world)) skipBuild (.boot world)
      bound.lookup gate.tag = .available command →
        (last.tree host).isFile gate.binary = true := by
  intro always
  let gate := Gate.ofSettings Sample.sourceless (.ofText "/p")
  -- the directory is found and has a time, and no source has a later one
  have fresh : gate.check (Sample.occupied.view ()) = .fresh := by
    cbv
  have usable : (gate.apply Sample.occupied .empty .fresh true (.boot ())).2.1.lookup gate.tag
      = .available ["/p/rxt"] := by
    cbv
  have refused : (Sample.occupied.view ()).isFile gate.binary = false := by
    cbv
  have file := always Unit Sample.occupied Sample.sourceless (.ofText "/p") .empty true ()
    ["/p/rxt"]
  dsimp only at file
  rw [fresh] at file
  exact Bool.false_ne_true (refused.symm.trans (file usable))

end CrossBench
