import CrossBench.Os.Error
import CrossBench.Path

/-!
# Errors that end a run

Only these errors end a run: settings that cannot be had or used, a named suite that does not exist,
a directory that cannot be listed, and a report that cannot be written. Whatever goes wrong while
building or measuring becomes part of the report instead.
-/

namespace CrossBench

/-- Why a run ended early. -/
inductive HarnessError where
  /-- The named suite is no directory below the benchmarks root. -/
  | suiteNotFound (name : String) (root : Path)
  /-- The configuration file that was asked for does not exist. -/
  | configMissing (path : Path)
  /-- The configuration file is no document that settings can be read from. -/
  | configUnreadable (path : Path)
  /-- The settings have a fault. -/
  | invalidConfig (fault : String)
  /-- A file or directory could not be read. -/
  | io (path : Path) (reason : IoError)
  /-- The report could not be written. -/
  | output (reason : IoError)
  /-- The report's document could not be written to its end. -/
  | document (reason : IoError)
  deriving DecidableEq

/-- The words for an error. -/
def HarnessError.message : HarnessError → String
  | .suiteNotFound name root => "Benchmark '" ++ name ++ "' not found in " ++ root.toText
  | .configMissing path => "Config file " ++ path.toText ++ " not found"
  | .configUnreadable path => "Invalid config " ++ path.toText ++ ": TOML parse error"
  | .invalidConfig fault => "Invalid config: " ++ fault
  | .io path reason => "Failed to read " ++ path.toText ++ ": " ++ reason.message
  | .output reason => "Failed to write report: " ++ reason.message
  | .document reason => "Failed to encode JSON report: " ++ reason.message

end CrossBench
