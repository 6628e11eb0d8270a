import CrossBench.Files.Resolve
import CrossBench.Os.WaitStatus
import CrossBench.Registry

/-!
# Child processes

The harness does not look into the programs that it runs. A `Host` is all that it knows of them: a
world of any type, the tree that can be seen in a world, and what becomes of a world when a process
is started in it and waited for. Nothing is assumed of that function; a process may change the tree
at will, fail, or fail to start.

A `Machine` is the world of a run together with the starts that the run has made so far, in order.
`Machine.start` is the only way to run a process, so the list of starts is complete.
-/

namespace CrossBench

/-- A process to be started: its program and arguments, and the directory to start it in if that is
not the harness's own. -/
structure Start where
  words : List (List UInt8)
  directory : Option Path
  deriving DecidableEq

/-- How a start ended. -/
inductive Ending where
  /-- The process ran and ended, leaving these bytes on its standard error. -/
  | exited (status : WaitStatus) (stderr : List UInt8)
  /-- There was no process. -/
  | notStarted (reason : IoError)

/-- A process that ran and ended well. -/
def Ending.succeeded : Ending → Bool
  | .exited status _ => status.success
  | .notStarted _ => false

/-- What a start leaves behind: the world, how it ended, and how many nanoseconds went by. -/
structure Finished (σ : Type) where
  world : σ
  ending : Ending
  nanos : UInt64

/-- The programs of a world of type `σ`. -/
structure Host (σ : Type) where
  /-- The processor cores that the system offers. -/
  cores : List UInt64 := []
  /-- The tree that the harness sees. -/
  view : σ → Tree
  /-- Starts a process in a world and waits for its end. -/
  run : Start → σ → Finished σ

/-- The world of a run and the starts made in it, in order. -/
structure Machine (σ : Type) where
  world : σ
  starts : Array Start

namespace Machine

variable {σ : Type}

/-- The machine of a run that has started nothing. -/
def boot (world : σ) : Machine σ := ⟨world, #[]⟩

/-- The tree that the harness sees now. -/
def tree (host : Host σ) (m : Machine σ) : Tree := host.view m.world

/-- Starts a process and waits for its end. -/
def start (host : Host σ) (s : Start) (m : Machine σ) : Machine σ × Ending × UInt64 :=
  let finished := host.run s m.world
  (⟨finished.world, m.starts.push s⟩, finished.ending, finished.nanos)

end Machine

/-- The start of a command with one more argument, in the harness's own directory. -/
def Start.ofCommand (command : Command) (file : Path) : Start :=
  ⟨command.map Utf8.encode ++ [file.bytes], none⟩

end CrossBench
