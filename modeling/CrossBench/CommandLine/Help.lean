/-!
# Help texts

The short help has a line for each option, the long one a paragraph. Both name the program as it was
called.
-/

namespace CrossBench.CommandLine

/-- The lines of a text, each with its line break. -/
def withLineBreaks (lines : List String) : String :=
  String.join (lines.map (· ++ "\n"))

/-- The name and version of the program. -/
def versionText : String := withLineBreaks ["runbench 0.1.0"]

/-- One line for each option. -/
def shortHelp (program : String) : String :=
  withLineBreaks [
    "Run equivalent benchmark scripts across runtimes and compare latency",
    "",
    "Usage: " ++ program ++ " [OPTIONS] [BENCHMARK]",
    "",
    "Arguments:",
    "  [BENCHMARK]  Name of benchmark to run (default: all)",
    "",
    "Options:",
    "  -n, --iterations <ITERATIONS>    Number of iterations (default: 100)",
    "  -w, --warmup <WARMUP>            Warmup iterations (default: 5)",
    "      --root <ROOT>                Project root holding benchmarks/ and the native sources (default: current directory)",
    "      --config <CONFIG>            Config file (default: <root>/runbench.toml if present)",
    "      --format <FORMAT>            Output format [default: human] [possible values: human, csv, json]",
    "      --failed-runs <FAILED_RUNS>  Treatment of runs that exit non-zero: record silently or flag in the report [possible values: record, flag]",
    "      --pin-core <PIN_CORE>        Pin the harness and its children to this CPU core",
    "      --no-build                   Never rebuild the native binary, even when stale",
    "      --no-color                   Disable colored output",
    "  -v, --verbose                    Verbose output",
    "  -h, --help                       Print help (see more with '--help')",
    "  -V, --version                    Print version"]

/-- One paragraph for each option. -/
def longHelp (program : String) : String :=
  withLineBreaks [
    "Run equivalent benchmark scripts across runtimes and compare latency",
    "",
    "Usage: " ++ program ++ " [OPTIONS] [BENCHMARK]",
    "",
    "Arguments:",
    "  [BENCHMARK]",
    "          Name of benchmark to run (default: all)",
    "",
    "Options:",
    "  -n, --iterations <ITERATIONS>",
    "          Number of iterations (default: 100)",
    "",
    "  -w, --warmup <WARMUP>",
    "          Warmup iterations (default: 5)",
    "",
    "      --root <ROOT>",
    "          Project root holding benchmarks/ and the native sources (default: current directory)",
    "",
    "      --config <CONFIG>",
    "          Config file (default: <root>/runbench.toml if present)",
    "",
    "      --format <FORMAT>",
    "          Output format",
    "          ",
    "          [default: human]",
    "          [possible values: human, csv, json]",
    "",
    "      --failed-runs <FAILED_RUNS>",
    "          Treatment of runs that exit non-zero: record silently or flag in the report",
    "",
    "          Possible values:",
    "          - record: Record the duration and ignore the outcome",
    "          - flag:   Record the duration and count the failure for the report",
    "",
    "      --pin-core <PIN_CORE>",
    "          Pin the harness and its children to this CPU core",
    "",
    "      --no-build",
    "          Never rebuild the native binary, even when stale",
    "",
    "      --no-color",
    "          Disable colored output",
    "",
    "  -v, --verbose",
    "          Verbose output",
    "",
    "  -h, --help",
    "          Print help (see a summary with '-h')",
    "",
    "  -V, --version",
    "          Print version"]

end CrossBench.CommandLine
