import CrossBench.Report.Reporter
import CrossBench.Run

/-!
# What a command line asks for

A `CommandLine` is what the user has said; everything that was left out is absent. The settings of
the project supply the rest: `CommandLine.options` takes each value from the command line if it is
there and from the settings otherwise.

A command line comes in words, and a word is a byte string, as the operating system hands it over.
Most of what can be said is text. A path is not: it is any word that is not empty.
-/

namespace CrossBench

/-- What the user has asked for. -/
structure CommandLine where
  benchmark : Option String := none
  iterations : Option UInt32 := none
  warmup : Option UInt32 := none
  root : Option Path := none
  config : Option Path := none
  format : Format := .human
  failedRuns : Option FailedRuns := none
  pinCore : Option UInt64 := none
  noBuild : Bool := false
  noColor : Bool := false
  verbose : Bool := false
  deriving DecidableEq

namespace CommandLine

/-- A word of a command line. -/
abbrev Word := List UInt8

/-- The options of a run in the project at `root`. -/
def options (c : CommandLine) (root : Path) (settings : Settings) : RunOptions :=
  let plan := settings.sampling.plan
  { root
    suite := c.benchmark
    plan :=
      { iterations := c.iterations.getD plan.iterations
        warmup := c.warmup.getD plan.warmup
        failedRuns := c.failedRuns.getD plan.failedRuns }
    skipBuild := c.noBuild
    pinCore := c.pinCore.or settings.sampling.pinCore }

/-- An option that takes a value. -/
inductive Setting where
  | iterations
  | warmup
  | root
  | config
  | format
  | failedRuns
  | pinCore
  deriving DecidableEq

/-- An option that takes none. -/
inductive Switch where
  | noBuild
  | noColor
  | verbose
  | help
  | version
  deriving DecidableEq

/-- An option. -/
inductive Argument where
  | setting (s : Setting)
  | switch (s : Switch)
  deriving DecidableEq

/-- The option with this long name. -/
def Argument.long? : String → Option Argument
  | "iterations" => some (.setting .iterations)
  | "warmup" => some (.setting .warmup)
  | "root" => some (.setting .root)
  | "config" => some (.setting .config)
  | "format" => some (.setting .format)
  | "failed-runs" => some (.setting .failedRuns)
  | "pin-core" => some (.setting .pinCore)
  | "no-build" => some (.switch .noBuild)
  | "no-color" => some (.switch .noColor)
  | "verbose" => some (.switch .verbose)
  | "help" => some (.switch .help)
  | "version" => some (.switch .version)
  | _ => none

/-- The option with this letter. -/
def Argument.short? : Char → Option Argument
  | 'n' => some (.setting .iterations)
  | 'w' => some (.setting .warmup)
  | 'v' => some (.switch .verbose)
  | 'h' => some (.switch .help)
  | 'V' => some (.switch .version)
  | _ => none

/-- Why a command line does not ask for a run. -/
inductive Refusal where
  /-- An option that does not exist, or a second benchmark. -/
  | unknownArgument
  /-- A value that is missing, empty or not in the list of values. -/
  | invalidValue
  /-- A number that cannot be read or is out of range. -/
  | valueValidation
  /-- A word that is no text where there has to be one. -/
  | notText
  /-- An option that was given before. -/
  | argumentConflict
  /-- A value for an option that takes none. -/
  | tooManyValues
  /-- The user asks for help, the long one if `long`. -/
  | help (long : Bool)
  /-- The user asks for the version. -/
  | version
  deriving DecidableEq

end CommandLine

end CrossBench
