import CrossBench.Program
import CrossBench.Shell.Host
import CrossBench.Toml.Document

/-!
# The command line

Runs the program on a project that it is given whole: the standard input is a TOML document whose
keys are the paths of the project's files and whose values are their texts. The programs of the
project are run by `CrossBench.Shell.host`.
-/

namespace CrossBench

/-- The files of a project that is written out as a document. -/
def projectFiles (document : Toml.Fields) : List (Path × List UInt8) :=
  document.filterMap fun
    | (path, .string text) => some (.ofText path, Utf8.encode text)
    | _ => none

/-- The directory of the project. -/
def projectRoot : Path := .ofText "/project"

/-- The time at which the program is called. -/
def callTime : Instant := ⟨1750000000, 0⟩

/-- Everything that can still be read from a stream, behind what has been read. -/
partial def readToEnd (input : IO.FS.Stream) (sofar : String) : IO String := do
  let line ← input.getLine
  if line.isEmpty then return sofar else readToEnd input (sofar ++ line)

/-- Runs the program on the project in the standard input; the exit code. -/
def runCommandLine (words : List String) : IO UInt32 := do
  let output ← IO.getStdout
  let complaints ← IO.getStderr
  let input ← readToEnd (← IO.getStdin) ""
  let files := projectFiles ((Toml.document? input).getD [])
  match Shell.World.ofProject callTime projectRoot files with
  | .error reason =>
    complaints.putStrLn reason.message
    return 1
  | .ok world =>
    let surroundings : Surroundings := ⟨none, ← output.isTty⟩
    let ending := Program.run Shell.host surroundings (words.map Utf8.encode) (.boot world) .unlimited
    output.write (ByteArray.mk ending.stdout.written)
    output.flush
    complaints.putStr ending.stderr
    return ending.code.toUInt32

end CrossBench

/-- The program. -/
def main (words : List String) : IO UInt32 := CrossBench.runCommandLine words
