import CrossBench.CommandLine.Parse
import CrossBench.Settings.Load

/-!
# The program

From the words of a command line to an exit code. Help and version go to the standard output and are
a success. A command line that asks for no run ends with code 2, a run that ends early with code 1
and the words for its error on the standard error, and every other run with code 0.

The report is coloured only on a terminal, and only if the user has not turned colours off.
-/

namespace CrossBench

/-- Where the program is called. -/
structure Surroundings where
  /-- The word that the program was called by, if there was one. -/
  calledBy : Option CommandLine.Word
  /-- Whether the standard output is a terminal. -/
  terminal : Bool

/-- What the program leaves behind. -/
structure ProgramEnd (σ : Type) where
  code : UInt8
  stderr : String
  machine : Machine σ
  stdout : Sink

namespace Program

variable {σ : Type}

/-- The path of the directory at a location. -/
def pathOf (location : Location) : Path :=
  if location = [] then ⟨[Path.slash]⟩ else ⟨location.flatMap (Path.slash :: ·)⟩

/-- The project root: the one that was asked for, or the current directory. -/
def rootOf (tree : Tree) (c : CommandLine) : Path := c.root.getD (pathOf tree.workdir)

/-- What a refused command line leads to. -/
def refused (surroundings : Surroundings) (machine : Machine σ) (stdout : Sink) :
    CommandLine.Refusal → ProgramEnd σ
  | .help long =>
    let name := CommandLine.programName surroundings.calledBy
    let text := if long then CommandLine.longHelp name else CommandLine.shortHelp name
    ⟨0, "", machine, (stdout.write (Utf8.encode text)).1⟩
  | .version => ⟨0, "", machine, (stdout.write (Utf8.encode CommandLine.versionText)).1⟩
  | .unknownArgument => ⟨2, "", machine, stdout⟩
  | .invalidValue => ⟨2, "", machine, stdout⟩
  | .valueValidation => ⟨2, "", machine, stdout⟩
  | .notText => ⟨2, "", machine, stdout⟩
  | .argumentConflict => ⟨2, "", machine, stdout⟩
  | .tooManyValues => ⟨2, "", machine, stdout⟩

/-- A run that was asked for. -/
def perform (host : Host σ) (surroundings : Surroundings) (c : CommandLine)
    (machine : Machine σ) (stdout : Sink) : ProgramEnd σ :=
  let tree := machine.tree host
  let root := rootOf tree c
  match Settings.load tree root c.config with
  | .error e => ⟨1, e.message ++ "\n", machine, stdout⟩
  | .ok settings =>
    let reporter := Reporter.new c.format (!c.noColor && surroundings.terminal)
    match runBenchmarks host settings (c.options root settings) ⟨machine, reporter, stdout⟩ with
    | (.ok _, s) => ⟨0, "", s.machine, s.sink⟩
    | (.error e, s) => ⟨1, e.message ++ "\n", s.machine, s.sink⟩

/-- The program on the words behind its name. -/
def run (host : Host σ) (surroundings : Surroundings) (words : List CommandLine.Word)
    (machine : Machine σ) (stdout : Sink) : ProgramEnd σ :=
  match CommandLine.parse words with
  | .ok c => perform host surroundings c machine stdout
  | .error refusal => refused surroundings machine stdout refusal

end Program

end CrossBench
