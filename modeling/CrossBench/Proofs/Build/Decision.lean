import CrossBench.Proofs.Build.Presence
import CrossBench.Proofs.Files.Descent
import CrossBench.Proofs.Run.Samples

/-!
# When the native program is built, and what comes of it

Two functions decide about the native program.  `Gate.check` compares its time with the
times of its sources, which a walk below the source roots finds.  `Gate.apply` acts on
the answer, and what it does shows in three places: the registry, the outcome that is
handed on, and the message for the people who wait.

* `Gate.check_of_times` — the answer of the check, from the time of the program and the
  set of the times of its sources.
* `not_every_newer_source_counts` — a source whose path is too long has no time.
* `Gate.apply_cases` — the four ways to act on an answer.
* `Gate.apply_decides` — the registry, the outcome and the message agree.
-/

namespace CrossBench

/-! ## The answer of the check

The walk below the source roots stops at the first file that is newer, and nothing is said
about the order in which it finds them.  So the answer is told by a set, the times of the
sources, and that a walk in another order gives the same answer is a case of this
(`checkBy_congr`).  What counts as being below a root is a parameter of the set, since a
walk does not get everywhere.
-/

/-- No time is later than itself, so that a source of the same age is not newer. -/
theorem Instant.not_later_self (t : Instant) : t.later t = false := by simp [later]

/-- The time of a source of the native program: a regular file, and no link, at or below
one of the source roots, with the extension of a source.  What is at or below a root is
left to `reached`. -/
def NativeSettings.SourceTime (native : NativeSettings) (root : Path) (tree : Tree)
    (reached : Path → Path → Node → Prop) (t : Instant) : Prop :=
  ∃ r ∈ native.sourceRoots, ∃ path number, reached (root.join r) path (.file number) ∧
    path.extension?.bind Utf8.decode? = some (trimLeadingDots native.sourceExtension) ∧
    (tree.disk.record number).modified = t

namespace Gate

/-- The check with the time of the program and the files below each root given. -/
def checkBy (gate : Gate) (built? : Option Instant)
    (walk : Path → List (Path × Instant)) : Staleness :=
  match built? with
  | none => .missing
  | some built =>
    if gate.sourceRoots.any fun root =>
        (walk root).any fun file => gate.isSource file.1 && file.2.later built then
      .sourcesChanged
    else .fresh

/-- The check looks at two things only: the time of the binary and the files below each root. -/
theorem check_eq_checkBy (gate : Gate) (tree : Tree) :
    gate.check tree = gate.checkBy (tree.modified? gate.binary) tree.regularFiles := rfl

/-- A list of files with newer sources, by what is in it. -/
theorem any_newer_iff (gate : Gate) (built : Instant) (walk : Path → List (Path × Instant)) :
    (gate.sourceRoots.any fun root =>
        (walk root).any fun file => gate.isSource file.1 && file.2.later built) = true ↔
      ∃ file, (∃ root ∈ gate.sourceRoots, file ∈ walk root) ∧
        gate.isSource file.1 = true ∧ file.2.later built = true := by
  simp only [List.any_eq_true, Bool.and_eq_true]
  constructor
  · rintro ⟨root, listed, file, found, newer⟩
    exact ⟨file, ⟨root, listed, found⟩, newer⟩
  · rintro ⟨file, ⟨root, listed, found⟩, newer⟩
    exact ⟨root, listed, file, found, newer⟩

theorem changedSince_iff (native : NativeSettings) (root : Path) (tree : Tree)
    (built : Instant) :
    (Gate.ofSettings native root).changedSince tree built = true ↔
      ∃ t, native.SourceTime root tree tree.Dated t ∧ t.later built = true := by
  rw [changedSince, any_newer_iff]
  constructor
  · rintro ⟨⟨path, t⟩, ⟨_, listed, found⟩, source, newer⟩
    obtain ⟨r, mem, rfl⟩ := List.mem_map.mp listed
    obtain ⟨number, walked, short, time⟩ := Tree.mem_regularFiles.mp found
    exact ⟨t, ⟨r, mem, path, number, ⟨walked, short⟩, eq_of_beq source, time⟩, newer⟩
  · rintro ⟨t, ⟨r, mem, path, number, ⟨walked, short⟩, source, time⟩, newer⟩
    exact ⟨(path, t), ⟨root.join r, List.mem_map_of_mem mem,
      Tree.mem_regularFiles.mpr ⟨number, walked, short, time⟩⟩, beq_of_eq source, newer⟩

/-- The check answers by the time of the program and what is newer. -/
theorem check_eq (native : NativeSettings) (root : Path) (tree : Tree) :
    (Gate.ofSettings native root).check tree =
      match tree.modified? (root.join native.binary) with
      | none => .missing
      | some built =>
        if (Gate.ofSettings native root).changedSince tree built then .sourcesChanged
        else .fresh := rfl

/-- The check says that sources have changed if the binary has a time and some source a later one.
-/
theorem check_eq_sourcesChanged_iff (native : NativeSettings) (root : Path) (tree : Tree) :
    (Gate.ofSettings native root).check tree = .sourcesChanged ↔
      ∃ built, tree.modified? (root.join native.binary) = some built ∧
        ∃ t, native.SourceTime root tree tree.Dated t ∧ t.later built = true := by
  rw [check_eq]
  cases tree.modified? (root.join native.binary) with
  | none => simp
  | some built => simp [← changedSince_iff]

/-- The check says that all is fresh if the binary has a time and no source a later one. -/
theorem check_eq_fresh_iff (native : NativeSettings) (root : Path) (tree : Tree) :
    (Gate.ofSettings native root).check tree = .fresh ↔
      ∃ built, tree.modified? (root.join native.binary) = some built ∧
        ∀ t, native.SourceTime root tree tree.Dated t → t.later built = false := by
  rw [check_eq]
  cases tree.modified? (root.join native.binary) with
  | none => simp
  | some built =>
      have none_newer := not_congr (changedSince_iff native root tree built)
      simp only [not_exists, not_and, Bool.not_eq_true] at none_newer
      simp [← none_newer]

/-- Two lists of roots with walks that find the same files give the same answer. -/
theorem checkBy_congr {gate other : Gate} {walk walk' : Path → List (Path × Instant)}
    (extension : gate.sourceExtension = other.sourceExtension)
    (same : ∀ file, (∃ r ∈ gate.sourceRoots, file ∈ walk r) ↔
      ∃ r ∈ other.sourceRoots, file ∈ walk' r) (built? : Option Instant) :
    gate.checkBy built? walk = other.checkBy built? walk' := by
  unfold checkBy
  cases built? with
  | none => rfl
  | some built =>
      -- the roots and walks are asked one question only: is some source newer
      have newer : (gate.sourceRoots.any fun root =>
            (walk root).any fun file => gate.isSource file.1 && file.2.later built)
          = other.sourceRoots.any fun root =>
            (walk' root).any fun file => other.isSource file.1 && file.2.later built := by
        rw [Bool.eq_iff_iff, any_newer_iff, any_newer_iff]
        simp only [same, isSource, extension]
      dsimp only
      rw [newer]

end Gate

/-- If the walk gets to everything below the roots and can ask for its time, its files are
all the files there. -/
theorem NativeSettings.sourceTime_iff_beneath {native : NativeSettings} {root : Path}
    {tree : Tree}
    (all : ∀ r ∈ native.sourceRoots, tree.Open (root.join r) ∧
      ∀ p number, tree.Beneath (root.join r) p (.file number) →
        p.bytes.length ≤ Tree.lengthLimit) (t : Instant) :
    native.SourceTime root tree tree.Dated t ↔ native.SourceTime root tree tree.Beneath t := by
  constructor
  · rintro ⟨r, listed, path, number, ⟨walked, -⟩, source⟩
    exact ⟨r, listed, path, number, (all r listed).1.walked_iff.mp walked, source⟩
  · rintro ⟨r, listed, path, number, beneath, source⟩
    obtain ⟨entered, short⟩ := all r listed
    exact ⟨r, listed, path, number,
      ⟨entered.walked_iff.mpr beneath, short path number beneath⟩, source⟩

namespace Gate

/-- **The answer of the check.**  The program is missing exactly if its time cannot be
asked for.  Its sources have changed exactly if it has a time and some source has a
strictly later one, and it is fresh otherwise, also if the times are equal.

So the answer depends on the time of the program and on the *set* of the times of its
sources: not on the roots and walks by which the files are found, as long as the same
files are found, and not on anything else in the tree.  If the walk gets to everything
below the roots and can ask for its time, that set is the set of the times of all sources
there. -/
theorem check_of_times (native : NativeSettings) (root : Path) (tree : Tree) :
    let gate := Gate.ofSettings native root
    let built? := tree.modified? (root.join native.binary)
    let sourceTime := native.SourceTime root tree tree.Dated
    (gate.check tree = .missing ↔ built? = none) ∧
    (gate.check tree = .sourcesChanged ↔
      ∃ built, built? = some built ∧ ∃ t, sourceTime t ∧ t.later built = true) ∧
    (gate.check tree = .fresh ↔
      ∃ built, built? = some built ∧ ∀ t, sourceTime t → t.later built = false) ∧
    (∀ built, built? = some built → (∀ t, sourceTime t → t = built) →
      gate.check tree = .fresh) ∧
    (∀ (roots : List Path) (walk : Path → List (Path × Instant)),
      (∀ file, (∃ r ∈ roots, file ∈ walk r) ↔
        ∃ r ∈ gate.sourceRoots, file ∈ tree.regularFiles r) →
      { gate with sourceRoots := roots }.checkBy built? walk = gate.check tree) ∧
    (∀ other : Tree, other.modified? (root.join native.binary) = built? →
      (∀ t, native.SourceTime root other other.Dated t ↔ sourceTime t) →
      gate.check other = gate.check tree) ∧
    ((∀ r ∈ native.sourceRoots, tree.Open (root.join r) ∧
        ∀ p number, tree.Beneath (root.join r) p (.file number) →
          p.bytes.length ≤ Tree.lengthLimit) →
      ∀ t, sourceTime t ↔ native.SourceTime root tree tree.Beneath t) := by
  intro gate built? sourceTime
  have fresh := check_eq_fresh_iff native root tree
  refine ⟨?missing, check_eq_sourcesChanged_iff native root tree, fresh, ?equal, ?files,
    ?elsewhere, NativeSettings.sourceTime_iff_beneath⟩
  case missing =>
    rw [check_eq_missing_iff, ← Option.map_eq_none_iff, ← modified?_eq]
    exact Iff.rfl
  -- no source is later than the binary when all carry its time
  case equal =>
    intro built has equal
    refine fresh.mpr ⟨built, has, fun t time => ?_⟩
    rw [equal t time, Instant.not_later_self]
  case files =>
    intro roots walk same
    let other := { gate with sourceRoots := roots }
    have extension : other.sourceExtension = gate.sourceExtension := rfl
    rw [check_eq_checkBy]
    exact checkBy_congr extension same built?
  case elsewhere =>
    intro other time times
    -- the other tree is seen through its times alone, so the two searches agree
    have changed : ∀ built,
        gate.changedSince other built = gate.changedSince tree built := fun built => by
      rw [Bool.eq_iff_iff, changedSince_iff, changedSince_iff]
      exact exists_congr fun t => and_congr_left' (times t)
    rw [check_eq, check_eq, time]
    simp only [gate] at changed
    simp only [changed, built?]

end Gate

/-! ## A source without a time

A path may be at most so long.  A source behind a longer one is found by the walk, and
asking for its time is what fails; the failure is taken for a file that is not newer.  The
project below is small, and only its settings are unusual.
-/

theorem Path.segments_replicate_slash (k : Nat) :
    segments (List.replicate k slash) = List.replicate (k + 1) [] := by
  induction k with
  | zero => rfl
  | succ k ih => rw [List.replicate_succ, segments, if_pos rfl, ih, ← List.replicate_succ]

/-- Slashes at the end of a path ask for a directory, however many they are. -/
theorem Path.steps_append_slashes {front : List UInt8} (k : Nat)
    (some_step : (segments front).filterMap stepOf? ≠ []) :
    (Path.mk (front ++ slash :: List.replicate k slash)).steps
      = (segments front).filterMap stepOf? ++ [.here] := by
  have empty : stepOf? [] = none := rfl
  have nothing : (List.replicate (k + 1) []).filterMap stepOf? = [] := by
    simp [empty]
  have last : (segments front ++ List.replicate (k + 1) []).getLast? = some [] := by
    simp [List.getLast?_append, List.getLast?_replicate]
  rw [steps_eq, segments_append_slash, segments_replicate_slash, List.filterMap_append,
    nothing, List.append_nil, if_pos ⟨last, some_step⟩]

namespace Sample

/-- A project in `/p` whose program is older than its only source. -/
def outdated : Tree where
  disk.top :=
    .directory [(Utf8.encode "p", .directory [
      (Utf8.encode "rxt", .file 0),
      (Utf8.encode "src", .directory [(Utf8.encode "x.zig", .file 1)] 0o755 default)]
      0o755 default)] 0o755 default
  disk.files := #[⟨.empty, 0o755, ⟨0, 0⟩⟩, ⟨.empty, 0o644, ⟨1, 0⟩⟩]
  workdir := []
  mask := 0

/-- So many slashes that the path of the directory of the sources is as long as a path may
be. -/
def slashes : List UInt8 := List.replicate 4088 Path.slash

/-- The settings of that project, with the slashes behind its source root. -/
def slashed : NativeSettings where
  binary := .ofText "rxt"
  sourceRoots := [⟨Utf8.encode "src" ++ Path.slash :: slashes⟩]

/-- The path of the directory of the sources. -/
def sourceRoot : Path := ⟨Utf8.encode "/p/src" ++ Path.slash :: slashes⟩

/-- The first bytes of that path. -/
theorem sourceRoot_bytes : sourceRoot.bytes
    = [0x2F, 0x70, 0x2F, 0x73, 0x72, 0x63] ++ Path.slash :: slashes := by
  have front : Utf8.encode "/p/src" = [0x2F, 0x70, 0x2F, 0x73, 0x72, 0x63] := by decide
  rw [sourceRoot, front]

theorem filled_sourceRoot : sourceRoot.bytes ≠ [] := by simp [sourceRoot]

/-- The only source root of these settings, joined to the project, is the long path. -/
theorem join_sourceRoot {r : Path} (listed : r ∈ slashed.sourceRoots) :
    (Path.ofText "/p").join r = sourceRoot := by
  cases List.mem_singleton.mp listed
  have src : Utf8.encode "src" = [0x73, 0x72, 0x63] := by decide
  have front : (Path.ofText "/p").bytes = [0x2F, 0x70] := by decide
  have path : sourceRoot = ⟨[0x2F, 0x70, 0x2F, 0x73, 0x72, 0x63] ++ Path.slash :: slashes⟩ :=
    congrArg Path.mk sourceRoot_bytes
  rw [path]
  simp [Path.join, Path.isAbsolute, src, front, Path.slash]

theorem steps_sourceRoot :
    sourceRoot.steps = [.into (Utf8.encode "p"), .into (Utf8.encode "src"), .here] := by
  have way : (Path.segments (Utf8.encode "/p/src")).filterMap Path.stepOf?
      = [.into (Utf8.encode "p"), .into (Utf8.encode "src")] := by decide
  rw [sourceRoot, slashes,
    Path.steps_append_slashes _ (by rw [way]; exact List.cons_ne_nil _ _), way]
  rfl

theorem length_sourceRoot : sourceRoot.bytes.length = Tree.lengthLimit := by
  have front : (Utf8.encode "/p/src").length = 6 := by decide
  rw [sourceRoot, List.length_append, front, List.length_cons, slashes, List.length_replicate]
  rfl

/-- The directory of the sources. -/
def sources : Node := .directory [(Utf8.encode "x.zig", .file 1)] 0o755 default

theorem find_sourceRoot (follow : Bool) : outdated.find sourceRoot follow = .ok sources := by
  have nonzero : 0 ∉ sourceRoot.bytes := by
    have other : (0 : UInt8) ∉ slashes := fun mem =>
      absurd (List.eq_of_mem_replicate mem) (by decide)
    simpa [sourceRoot_bytes, Path.slash] using other
  have absolute : sourceRoot.isAbsolute = true := by
    simp [Path.isAbsolute, sourceRoot_bytes, Path.slash]
  -- two names lead there; the slashes behind them are steps that stay
  have reached : outdated.placeFrom follow Tree.linkLimit []
      [.into (Utf8.encode "p"), .into (Utf8.encode "src"), .here]
        = .ok (.present [Utf8.encode "p", Utf8.encode "src"]) := by
    cases follow <;> cbv
  have there : outdated.at? [Utf8.encode "p", Utf8.encode "src"] = some sources := by
    cbv
  rw [Tree.find, Tree.locate, Tree.place, if_neg filled_sourceRoot, if_neg nonzero,
    length_sourceRoot, if_neg (Nat.lt_irrefl _), absolute, steps_sourceRoot]
  simp only [if_true, reached, there]

theorem walkStart?_sourceRoot : outdated.walkStart? sourceRoot = some sources := by
  rw [Tree.walkStart?, find_sourceRoot]
  rfl

/-- Below the directory of the sources there is nothing but the source. -/
theorem within_sources {entered : Path → Node → Prop} {p q : Path} {node : Node}
    (within : sources.Within entered p q node) :
    (q = p ∧ node = sources) ∨ q = p.child (Utf8.encode "x.zig") ∧ node = .file 1 := by
  cases within with
  | here => exact .inl ⟨rfl, rfl⟩
  | down _ listed further =>
      cases List.mem_singleton.mp listed
      cases further
      exact .inr ⟨rfl, rfl⟩

theorem proper_source : FileName.Proper (Utf8.encode "x.zig") := by decide

theorem long_source : Tree.lengthLimit < (sourceRoot.child (Utf8.encode "x.zig")).bytes.length := by
  obtain ⟨front, path, bytes⟩ := Path.child_eq filled_sourceRoot proper_source
  have named : (Utf8.encode "x.zig").length = 5 := by decide
  have length := length_sourceRoot
  rcases bytes with bytes | ⟨bytes, -⟩ <;>
    simp only [bytes, List.length_append, List.length_singleton] at length <;>
    simp only [path, List.length_append, List.length_cons, named] <;> omega

end Sample

/-- **A source whose path is too long has no time.**  The walk gets to it, but the system
does not take its path, so that the program is fresh although it is older. -/
theorem not_every_newer_source_counts :
    ¬ ∀ (native : NativeSettings) (root : Path) (tree : Tree),
      (∀ r ∈ native.sourceRoots, tree.Open (root.join r)) →
      ((Gate.ofSettings native root).check tree = .sourcesChanged ↔
        ∃ built, tree.modified? (root.join native.binary) = some built ∧
          ∃ t, native.SourceTime root tree tree.Beneath t ∧ t.later built = true) := by
  intro always
  have all : ∀ r ∈ Sample.slashed.sourceRoots,
      Sample.outdated.Open ((Path.ofText "/p").join r) := by
    rintro r listed p directory ⟨start, begun, within⟩ isDirectory
    rw [Sample.join_sourceRoot listed] at begun within
    rw [Sample.walkStart?_sourceRoot] at begun
    cases begun
    rcases Sample.within_sources within with ⟨rfl, rfl⟩ | ⟨-, rfl⟩
    · exact ⟨Sample.length_sourceRoot.le, by cbv⟩
    · cases isDirectory
  have built : Sample.outdated.modified? ((Path.ofText "/p").join Sample.slashed.binary)
      = some ⟨0, 0⟩ := by
    have binary : Sample.slashed.binary = .ofText "rxt" := rfl
    rw [binary]
    cbv
  have newer : Sample.slashed.SourceTime (.ofText "/p") Sample.outdated
      Sample.outdated.Beneath ⟨1, 0⟩ := by
    refine ⟨_, .head _, Sample.sourceRoot.child (Utf8.encode "x.zig"), 1, ?_, ?_, by cbv⟩
    · rw [Sample.join_sourceRoot (.head _)]
      exact ⟨_, Sample.walkStart?_sourceRoot, .down trivial (.head _) (.here _ _)⟩
    · have extension : Sample.slashed.sourceExtension = "zig" := rfl
      rw [extension, Path.extension?,
        Path.fileName?_child Sample.filled_sourceRoot Sample.proper_source]
      cbv
  -- the check would have found a newer source; but the only one has too long a path
  have changed := (always Sample.slashed (.ofText "/p") Sample.outdated all).mpr
    ⟨_, built, _, newer, by decide⟩
  obtain ⟨_, -, _, ⟨r, listed, p, number, ⟨⟨start, begun, within⟩, short⟩, -⟩, -⟩ :=
    (Gate.check_eq_sourcesChanged_iff _ _ _).mp changed
  rw [Sample.join_sourceRoot listed] at begun within
  rw [Sample.walkStart?_sourceRoot] at begun
  cases begun
  rcases Sample.within_sources within with ⟨-, other⟩ | ⟨there, -⟩
  · cases other
  · rw [there] at short
    exact absurd short (Nat.not_le.mpr Sample.long_source)

/-! ## What comes of an answer

Four cases cover all there is: fresh, stale and not to be built, built, and failed to build.
Everything that is said of the registry, of the starts and of the message is read off them,
so `apply_cases` is the only place where `Gate.apply` is opened.
-/

namespace Gate

variable {σ : Type}

/-- The build succeeds: there is a command, it ends well, and a regular file or a link to
one is in the place of the program then. -/
def Builds (host : Host σ) (gate : Gate) (m : Machine σ) : Prop :=
  gate.command ≠ [] ∧
    let (left, ending, _) := m.start host ⟨gate.command.map Utf8.encode, some gate.workdir⟩
    ending.succeeded = true ∧ (left.tree host).isFile gate.binary = true

theorem build_eq_ok_iff (host : Host σ) (gate : Gate) (m : Machine σ) :
    (gate.build host m).2 = .ok () ↔ gate.Builds host m := by
  unfold build Builds buildStart
  cases gate.command with
  | nil => simp
  | cons program arguments => simp [verdict_eq_ok_iff]

/-- **The four ways to act on an answer.** -/
theorem apply_cases (host : Host σ) (gate : Gate) (registry : Registry)
    (staleness : Staleness) (skipBuild : Bool) (m : Machine σ) :
    (staleness = .fresh ∧
      gate.apply host registry staleness skipBuild m
        = (m, registry.bind gate.tag gate.runner, .upToDate)) ∨
    (staleness ≠ .fresh ∧ skipBuild = true ∧
      gate.apply host registry staleness skipBuild m
        = (m, registry.bind gate.tag
            (if staleness = .missing then .unavailable "build skipped" else gate.runner),
          .skipped staleness)) ∨
    (staleness ≠ .fresh ∧ skipBuild = false ∧ gate.Builds host m ∧
      gate.apply host registry staleness skipBuild m
        = ((gate.build host m).1, registry.bind gate.tag gate.runner, .rebuilt staleness)) ∨
    (staleness ≠ .fresh ∧ skipBuild = false ∧ ¬ gate.Builds host m ∧
      ∃ e, gate.apply host registry staleness skipBuild m
        = ((gate.build host m).1, registry.bind gate.tag (.unavailable e.message),
          .failed staleness e)) := by
  rw [← build_eq_ok_iff]
  unfold apply
  by_cases fresh : staleness = .fresh
  · exact .inl ⟨fresh, by rw [fresh]; rfl⟩
  -- from here on the binary is missing or old, and only `skipBuild` is left to ask
  have stale : staleness.isStale = true := by cases staleness <;> simp_all [Staleness.isStale]
  cases skipBuild with
  | true =>
      refine .inr (.inl ⟨fresh, rfl, ?_⟩)
      cases staleness <;> first | contradiction | rfl
  | false =>
      -- the last two cases differ in how the build command ended
      obtain ⟨last, outcome⟩ := gate.build host m
      cases outcome with
      | ok done => exact .inr (.inr (.inl ⟨fresh, rfl, rfl, by simp [stale]⟩))
      | error e => exact .inr (.inr (.inr ⟨fresh, rfl, by simp, e, by simp [stale]⟩))

end Gate

/-- A line that says that the benchmarks of a runtime will be skipped. -/
def Human.SaysSkipped (colored : Bool) (tag : Tag) (line : String) : Prop :=
  ∃ (style : Style) (front : String),
    line = style.paint colored (front ++ "." ++ tag.text ++ " benchmarks will be skipped.")

/-- The line about a binary that is used as it is does not say that something has been skipped. -/
theorem Human.not_saysSkipped (colored : Bool) (tag : Tag) (style : Style) (front : String) :
    ¬ Human.SaysSkipped colored tag
      (style.paint colored (front ++ "using the existing binary" ++ ".")) := by
  rintro ⟨style', front', same⟩
  -- the two lines differ in the letter in front of the last full stop
  have kept : front ++ "using the existing binary" ++ "."
      = front ++ "using the existing binar" ++ "y." := by
    simp only [String.append_assoc]
    rfl
  have skipped : " benchmarks will be skipped." = " benchmarks will be skippe" ++ "d." := rfl
  rw [Style.paint_eq, Style.paint_eq, kept, skipped] at same
  have chars := congrArg String.toList same
  simp only [String.toList_append, ← List.append_assoc] at chars
  have ends := (List.append_inj' (List.append_cancel_right chars) rfl).2
  exact absurd ends (by decide)

namespace Gate

variable {σ : Type}

/-- The tag of the program is disabled exactly if the message says that its benchmarks
will be skipped. -/
theorem disabled_iff_saysSkipped (host : Host σ) (gate : Gate) (registry : Registry)
    (staleness : Staleness) (skipBuild : Bool) (m : Machine σ) {path : String}
    (textual : gate.binary.text? = some path) (colored : Bool) :
    let (_, bound, outcome) := gate.apply host registry staleness skipBuild m
    (∃ reason, bound.lookup gate.tag = .disabled reason) ↔
      ∃ line ∈ Human.outcomeLines colored gate outcome,
        Human.SaysSkipped colored gate.tag line := by
  have usable := gate.lookup_bind_runner registry
  rw [textual] at usable
  rcases gate.apply_cases host registry staleness skipBuild m with
    ⟨-, applied⟩ | ⟨stale, -, applied⟩ | ⟨-, -, -, applied⟩ | ⟨-, -, -, e, applied⟩ <;>
    rw [applied]
  · simp [usable, Human.outcomeLines]
  · -- skipped: here alone the reason decides
    cases staleness with
    | fresh => contradiction
    | missing =>
        simp only [if_true, Registry.lookup_bind, Human.outcomeLines, Human.skipConsequence]
        refine iff_of_true ⟨_, rfl⟩ ⟨_, .head _, .yellow, gate.tag.text ++ " binary "
          ++ Staleness.missing.message ++ ", build skipped; ", ?_⟩
        simp only [String.append_assoc]
        rfl
    | sourcesChanged =>
        have other := Human.not_saysSkipped colored gate.tag .yellow
          (gate.tag.text ++ " binary " ++ Staleness.sourcesChanged.message
            ++ ", build skipped; ")
        simpa [usable, Human.outcomeLines, Human.skipConsequence] using other
  · simp [usable, Human.outcomeLines]
  · simp only [Registry.lookup_bind]
    -- a failed build: the binding holds the message, and the line ends in `skipped`
    refine iff_of_true ⟨_, rfl⟩ ⟨_, .head _, .red, gate.commandLine ++ " failed, ", ?_⟩
    simp only [String.append_assoc]
    rfl

/-- Acting on an answer starts the words of the build command in the project root, or nothing. -/
theorem apply_machine (host : Host σ) (gate : Gate) (registry : Registry)
    (staleness : Staleness) (skipBuild : Bool) (m : Machine σ) :
    (gate.apply host registry staleness skipBuild m).1 =
      if staleness ≠ .fresh ∧ skipBuild = false ∧ gate.command ≠ [] then
        (m.start host ⟨gate.command.map Utf8.encode, some gate.workdir⟩).1
      else m := by
  have stale : staleness.isStale = true ↔ staleness ≠ .fresh := by
    cases staleness <;> simp [Staleness.isStale]
  simp only [apply_eq_through, starts, stale]
  split
  · exact (Machine.start_eq_through host gate.buildStart m).symm
  · exact Machine.through_nil host m

/-- The build command is started exactly if the program is stale, may be built and has a
command. -/
theorem started_iff (host : Host σ) (gate : Gate) (registry : Registry)
    (staleness : Staleness) (skipBuild : Bool) (m : Machine σ) :
    (gate.apply host registry staleness skipBuild m).1.starts
        = m.starts.push ⟨gate.command.map Utf8.encode, some gate.workdir⟩ ↔
      staleness ≠ .fresh ∧ skipBuild = false ∧ gate.command ≠ [] := by
  rw [apply_machine]
  split
  next started => exact iff_of_true rfl started
  next idle =>
    -- nothing is started, but one start more would be
    refine iff_of_false (fun same => ?_) idle
    have longer := congrArg Array.size same
    rw [Array.size_push] at longer
    omega

/-- **What acting on an answer does.**  Whatever the registry was and whatever the build
command does:

* every other tag keeps its answer, and the tag of the program has one;
* the words of the build command are started, in the project root, exactly if the program
  is stale, may be built and has a command, and nothing else is started;
* the outcome says which of the four cases it was, with the answer that was acted on;
* the tag of the program is available with the path of the program if that is up to date,
  has been rebuilt, or is only out of date, and disabled with the reason in the other
  cases, even if an older program is still there;
* the message says that its benchmarks will be skipped exactly if it is disabled. -/
theorem apply_decides (host : Host σ) (gate : Gate) (registry : Registry)
    (staleness : Staleness) (skipBuild : Bool) (m : Machine σ) {path : String}
    (textual : gate.binary.text? = some path) :
    let (last, bound, outcome) := gate.apply host registry staleness skipBuild m
    let command : Start := ⟨gate.command.map Utf8.encode, some gate.workdir⟩
    let started := staleness ≠ .fresh ∧ skipBuild = false ∧ gate.command ≠ []
    (∀ tag ≠ gate.tag, bound.lookup tag = registry.lookup tag) ∧
    bound.lookup gate.tag ≠ .unsupported ∧
    (last.starts = m.starts.push command ↔ started) ∧
    (last = if started then (m.start host command).1 else m) ∧
    (outcome = .upToDate ↔ staleness = .fresh) ∧
    (∀ reason, outcome = .skipped reason ↔
      reason = staleness ∧ staleness ≠ .fresh ∧ skipBuild = true) ∧
    (∀ reason, outcome = .rebuilt reason ↔
      reason = staleness ∧ staleness ≠ .fresh ∧ skipBuild = false ∧ gate.Builds host m) ∧
    (∀ reason, (∃ e, outcome = .failed reason e) ↔
      reason = staleness ∧ staleness ≠ .fresh ∧ skipBuild = false ∧ ¬ gate.Builds host m) ∧
    (bound.lookup gate.tag =
      match outcome with
      | .upToDate => .available [path]
      | .rebuilt _ => .available [path]
      | .skipped .missing => .disabled "build skipped"
      | .skipped _ => .available [path]
      | .failed _ e => .disabled e.message) ∧
    ∀ colored, (∃ reason, bound.lookup gate.tag = .disabled reason) ↔
      ∃ line ∈ Human.outcomeLines colored gate outcome,
        Human.SaysSkipped colored gate.tag line := by
  have machine := gate.apply_machine host registry staleness skipBuild m
  have started := gate.started_iff host registry staleness skipBuild m
  have message := gate.disabled_iff_saysSkipped host registry staleness skipBuild m textual
  have usable := gate.lookup_bind_runner registry
  rw [textual] at usable
  -- whatever is bound, it is bound to the tag of the gate
  have others : ∀ (runner : Runner), ∀ tag ≠ gate.tag,
      (registry.bind gate.tag runner).lookup tag = registry.lookup tag := by
    intro runner tag other
    rw [Registry.lookup, Registry.get?_bind, if_neg (Ne.symm other), Registry.lookup]
  -- each of the four cases fixes every conjunct; only the tables of reasons differ
  rcases gate.apply_cases host registry staleness skipBuild m with
    ⟨rfl, applied⟩ | ⟨stale, rfl, applied⟩ | ⟨stale, rfl, builds, applied⟩ |
      ⟨stale, rfl, fails, e, applied⟩ <;>
    rw [applied] at machine started message ⊢
  · refine ⟨others _, ?_, started, machine, ?_, ?_, ?_, ?_, ?_, message⟩ <;> simp [usable]
  · cases staleness with
    | fresh => contradiction
    | missing =>
        refine ⟨others _, ?_, started, machine, ?_, ?_, ?_, ?_, ?_, message⟩ <;>
          simp [Registry.lookup_bind, eq_comm]
    | sourcesChanged =>
        refine ⟨others _, ?_, started, machine, ?_, ?_, ?_, ?_, ?_, message⟩ <;>
          simp [usable, eq_comm]
  · refine ⟨others _, ?_, started, machine, ?_, ?_, ?_, ?_, ?_, message⟩ <;>
      simp [usable, stale, builds, eq_comm]
  · refine ⟨others _, ?_, started, machine, ?_, ?_, ?_, ?_, ?_, message⟩ <;>
      simp [Registry.lookup_bind, stale, fails, eq_comm]

/-- A build command that leaves a directory in the place of the program has been started
and has failed, and the runtime is disabled. -/
theorem failed_where_a_directory_stands :
    let gate := Gate.ofSettings Sample.sourceless (.ofText "/p")
    let (last, bound, outcome) :=
      gate.apply Sample.occupied .empty .missing false (.boot ())
    gate.binary.text? = some "/p/rxt" ∧
      last.starts = #[⟨gate.command.map Utf8.encode, some gate.workdir⟩] ∧
      (∃ e, outcome = .failed .missing e) ∧
      ∃ reason, bound.lookup gate.tag = .disabled reason := by
  intro gate
  have textual : gate.binary.text? = some "/p/rxt" := by cbv
  have command : gate.command ≠ [] := List.cons_ne_nil _ _
  -- the command ends well, but no regular file is there to show for it
  have fails : ¬ gate.Builds Sample.occupied (.boot ()) := by
    rintro ⟨-, -, file⟩
    have refused : (Sample.occupied.view ()).isFile gate.binary = false := by cbv
    exact Bool.false_ne_true (refused.symm.trans file)
  obtain ⟨-, -, started, -, -, -, -, failed, entry, -⟩ :=
    gate.apply_decides Sample.occupied .empty .missing false (.boot ()) textual
  have stale : Staleness.missing ≠ .fresh := by decide
  obtain ⟨e, outcome⟩ := (failed .missing).mpr ⟨rfl, stale, rfl, fails⟩
  rw [outcome] at entry
  exact ⟨textual, started.mpr ⟨stale, rfl, command⟩, ⟨e, outcome⟩, _, entry⟩

end Gate

end CrossBench
