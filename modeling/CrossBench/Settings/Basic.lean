import CrossBench.Sampling

/-!
# Settings

The settings of a project say where its suites are, how its native runtime is built, which commands
run the other runtimes, and how often a file is run. Every field has a default, so `{}` is the
settings of a project without a configuration file.

`Settings.interpreterCommands` layers the project's commands over the built-in ones; both are keyed
by extension without leading dots. `Settings.fault?` names the first of three faults that would
make a run meaningless.
-/

namespace CrossBench

/-- The runtime whose program is built from source before it is used. Paths are relative to the
project root. -/
structure NativeSettings where
  tag : String := "rxt"
  binary : Path := .ofText "zig-out/bin/rxt"
  sourceRoots : List Path := [.ofText "rxt/src", .ofText "rx/src"]
  sourceExtension : String := "zig"
  buildCommand : Command := ["zig", "build", "-Doptimize=ReleaseFast"]
  deriving DecidableEq

/-- How often a file is run and what becomes of failed runs, unless the command line says
otherwise. -/
structure SamplingSettings where
  iterations : UInt32 := 100
  warmup : UInt32 := 5
  failedRuns : FailedRuns := .record
  pinCore : Option UInt64 := none
  deriving DecidableEq

/-- The settings of a project. -/
structure Settings where
  benchmarksDir : Path := .ofText "benchmarks"
  native : NativeSettings := {}
  /-- Commands by extension, as the project gives them. -/
  runners : Table String Command := Table.empty
  sampling : SamplingSettings := {}

/-- The plan that a file is sampled by. -/
def SamplingSettings.plan (s : SamplingSettings) : Plan := ⟨s.iterations, s.warmup, s.failedRuns⟩

/-- What makes settings unusable. -/
inductive SettingsFault where
  | noIterations
  | noTag
  | noBuildCommand
  deriving DecidableEq

/-- The words for a fault. -/
def SettingsFault.message : SettingsFault → String
  | .noIterations => "sampling.iterations must be at least 1"
  | .noTag => "native.tag must not be empty"
  | .noBuildCommand => "native.build_command must not be empty"

namespace Settings

/-- The name of the configuration file in the root of a project. -/
def fileName : Path := .ofText "runbench.toml"

/-- The interpreters that are known without any configuration. -/
def builtinInterpreters : List (String × Command) :=
  [("lua", ["lua"]), ("py", ["python3"]), ("js", ["node"]), ("rb", ["ruby"]), ("sh", ["bash"])]

/-- The commands by extension: the built-in ones, and over them the project's own in ascending order
of their keys. -/
def interpreterCommands (s : Settings) : Table String Command :=
  s.runners.entries.foldl (fun t e => t.insert (trimLeadingDots e.1) e.2)
    (Table.ofList builtinInterpreters)

/-- The registry before the native runtime is looked at. -/
def registry (s : Settings) : Registry := .ofCommands s.interpreterCommands.entries

/-- The directory with one subdirectory per suite. -/
def benchmarksRoot (s : Settings) (root : Path) : Path := root.join s.benchmarksDir

/-- The first fault of the settings, if they have one. -/
def fault? (s : Settings) : Option SettingsFault :=
  if s.sampling.iterations = 0 then some .noIterations
  else if trimLeadingDots s.native.tag = "" then some .noTag
  else if s.native.buildCommand = [] then some .noBuildCommand
  else none

end Settings

end CrossBench
