import CrossBench.Files.Walk
import CrossBench.Os.Error
import CrossBench.Os.WaitStatus
import CrossBench.Settings.Basic
import CrossBench.Text.Layout

/-!
# The build gate

Before a run the native program is looked at, and built if it is missing or older than one of its
sources. A `Gate` is the native settings with their paths resolved against the project root.

* `Gate.check` compares the time of the program with the times of its sources. A source counts only
  if it is strictly newer.
* `Gate.apply` acts on the answer: it builds at most once and binds the native tag in the registry,
  to the program if it can be used and to the reason why not otherwise. It never ends a run.

The state of the program, what was done about it (`BuildOutcome`) and the reasons why building it
failed (`BuildError`) have their words here too.
-/

namespace CrossBench

/-! ## What can come of a build -/

/-- The state of the native program. -/
inductive Staleness where
  /-- No source is newer than the program. -/
  | fresh
  /-- There is no program. -/
  | missing
  /-- A source is newer than the program. -/
  | sourcesChanged
  deriving DecidableEq

namespace Staleness

/-- Whether the program has to be built. -/
def isStale : Staleness → Bool
  | .fresh => false
  | _ => true

/-- The words for a state. -/
def message : Staleness → String
  | .fresh => "up to date"
  | .missing => "not found"
  | .sourcesChanged => "sources changed"

end Staleness

/-- Why the native program could not be built. -/
inductive BuildError where
  /-- There is no command to build it with. -/
  | emptyCommand
  /-- The build command could not be started. -/
  | spawn (commandLine : String) (reason : IoError)
  /-- The build command did not end well; `stderr` is what it complained of. -/
  | failed (commandLine : String) (status : WaitStatus) (stderr : String)
  /-- The build command ended well and left no program. -/
  | missingArtifact (path : Path)
  deriving DecidableEq

namespace BuildError

/-- The words for an error. -/
def message : BuildError → String
  | .emptyCommand => "build command is empty"
  | .spawn commandLine reason => "failed to launch `" ++ commandLine ++ "`: " ++ reason.message
  | .failed commandLine status _ => "`" ++ commandLine ++ "` exited with " ++ status.message
  | .missingArtifact path => "build succeeded but " ++ path.toText ++ " is missing"

/-- What the build complained of, if it did. -/
def diagnostics? : BuildError → Option String
  | .failed _ _ stderr => if stderr = "" then none else some stderr
  | _ => none

end BuildError

/-- What was done about the native program. -/
inductive BuildOutcome where
  | upToDate
  | rebuilt (reason : Staleness)
  | skipped (reason : Staleness)
  | failed (reason : Staleness) (error : BuildError)
  deriving DecidableEq

/-! ## The gate -/

/-- The native runtime of a project. -/
structure Gate where
  tag : Tag
  binary : Path
  sourceRoots : List Path
  sourceExtension : String
  command : Command
  workdir : Path
  deriving DecidableEq

namespace Gate

/-- The native runtime of the project at `root`. -/
def ofSettings (native : NativeSettings) (root : Path) : Gate where
  tag := .ofExtension native.tag
  binary := root.join native.binary
  sourceRoots := native.sourceRoots.map root.join
  sourceExtension := trimLeadingDots native.sourceExtension
  command := native.buildCommand
  workdir := root

/-- The build command for messages. -/
def commandLine (gate : Gate) : String := " ".intercalate gate.command

/-- Whether a file with this path is a source of the native program, by its extension. -/
def isSource (gate : Gate) (p : Path) : Bool :=
  p.extension?.bind Utf8.decode? == some gate.sourceExtension

/-- Whether some source was changed after `built`. -/
def changedSince (gate : Gate) (tree : Tree) (built : Instant) : Bool :=
  gate.sourceRoots.any fun root =>
    (tree.regularFiles root).any fun file => gate.isSource file.1 && file.2.later built

/-- The state of the native program. -/
def check (gate : Gate) (tree : Tree) : Staleness :=
  match tree.modified? gate.binary with
  | none => .missing
  | some built => if gate.changedSince tree built then .sourcesChanged else .fresh

/-- The runner that the program is. Commands are text, so a program whose path is no text cannot be
one. -/
def runner (gate : Gate) : Runner :=
  match gate.binary.text? with
  | some path => .available [path]
  | none => .unavailable "binary path is not valid UTF-8"

/-- The start of the build command, in the project root. -/
def buildStart (gate : Gate) : Start := ⟨gate.command.map Utf8.encode, some gate.workdir⟩

variable {σ : Type}

/-- The verdict on a build command that has been started: it has to end well, and a regular file has
to be where the program belongs. -/
def verdict (gate : Gate) (tree : Tree) : Ending → Except BuildError Unit
  | .notStarted reason => .error (.spawn gate.commandLine reason)
  | .exited status stderr =>
    if !status.success then
      .error (.failed gate.commandLine status (trimBlank (Utf8.decodeLossy stderr)))
    else if tree.isFile gate.binary then .ok ()
    else .error (.missingArtifact gate.binary)

/-- Builds the native program. -/
def build (host : Host σ) (gate : Gate) (m : Machine σ) : Machine σ × Except BuildError Unit :=
  match gate.command with
  | [] => (m, .error .emptyCommand)
  | _ :: _ =>
    let (m, ending, _) := m.start host gate.buildStart
    (m, gate.verdict (m.tree host) ending)

/-- Acts on the state of the native program and binds its tag. -/
def apply (host : Host σ) (gate : Gate) (registry : Registry) (staleness : Staleness)
    (skipBuild : Bool) (m : Machine σ) : Machine σ × Registry × BuildOutcome :=
  if !staleness.isStale then (m, registry.bind gate.tag gate.runner, .upToDate)
  else if skipBuild then
    let runner :=
      match staleness with
      | .missing => .unavailable "build skipped"
      | _ => gate.runner
    (m, registry.bind gate.tag runner, .skipped staleness)
  else
    match gate.build host m with
    | (m, .ok ()) => (m, registry.bind gate.tag gate.runner, .rebuilt staleness)
    | (m, .error e) =>
      (m, registry.bind gate.tag (.unavailable e.message), .failed staleness e)

end Gate

end CrossBench
