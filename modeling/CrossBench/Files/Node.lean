import CrossBench.Path

/-!
# Disks

A disk is what the harness can see of the system's storage: regular files with their bytes,
directories with their entries in the order in which the system enumerates them, symbolic links,
named pipes and devices. What a regular file holds is kept apart from the names that lead to it, in a
`FileRecord` that the name gives the number of, because a file may have several names or none.

A node below a directory is addressed by a `Location`, the names that lead to it from the top. A
location holds no dots and passes through no link; turning a path into a location is the work of
`CrossBench.Files.Resolve`.
-/

namespace CrossBench

/-- A point in time: seconds and nanoseconds since the epoch. -/
structure Instant where
  seconds : Int
  nanos : Nat
  deriving DecidableEq, Inhabited

/-- `a` is strictly later than `b`. -/
def Instant.later (a b : Instant) : Bool :=
  b.seconds < a.seconds || (a.seconds == b.seconds && b.nanos < a.nanos)

/-- The nanoseconds of a second. -/
def Instant.second : Nat := 1000000000

/-- The point in time that many nanoseconds later. -/
def Instant.plus (t : Instant) (nanos : Nat) : Instant :=
  ⟨t.seconds + ((t.nanos + nanos) / second : Nat), (t.nanos + nanos) % second⟩

/-- What a regular file holds, its permission bits, and the time of its last change. -/
structure FileRecord where
  data : ByteArray
  mode : Nat
  modified : Instant
  deriving Inhabited

/-- A device of the system. -/
inductive Device where
  /-- Nothing comes from it, and what goes to it is lost. -/
  | null
  /-- Zero bytes without end. -/
  | zero
  /-- The same, but nothing can be written to it. -/
  | full
  /-- Any bytes without end. -/
  | random
  /-- The terminal of a program that has one. -/
  | terminal
  /-- Whatever the program that opens it has open under this number. -/
  | descriptor (n : Nat)
  deriving DecidableEq, Inhabited

/-- One object of a disk. -/
inductive Node where
  | file (number : Nat)
  | directory (entries : List (FileName × Node)) (mode : Nat) (modified : Instant)
  | link (target : Path) (modified : Instant)
  | fifo (number : Nat) (mode : Nat) (modified : Instant)
  | device (d : Device) (modified : Instant)
  deriving Inhabited

/-- The names that lead to a node from the top of a disk. -/
abbrev Location := List FileName

namespace Node

/-- A directory. -/
def isDirectory : Node → Bool
  | .directory .. => true
  | _ => false

/-- A regular file; a link is none, whatever it leads to. -/
def isFile : Node → Bool
  | .file .. => true
  | _ => false

/-- A symbolic link. -/
def isLink : Node → Bool
  | .link .. => true
  | _ => false

/-- The entries of a directory, in enumeration order; other nodes have none. -/
def entries : Node → List (FileName × Node)
  | .directory es _ _ => es
  | _ => []

/-- The entry of this name. -/
def entry? (n : FileName) (node : Node) : Option Node :=
  (node.entries.find? fun e => e.1 = n).map (·.2)

/-- The node at a location below this one. -/
def at? (node : Node) : Location → Option Node
  | [] => some node
  | n :: rest => (node.entry? n).bind (·.at? rest)

end Node

/-- A disk: the nodes below its top directory, and the records of its regular files by number. -/
structure Disk where
  top : Node
  files : Array FileRecord
  deriving Inhabited

namespace Disk

/-- The record of a regular file. -/
def record (disk : Disk) (number : Nat) : FileRecord := disk.files.getD number default

/-- The time of the last change of a node. -/
def modified (disk : Disk) : Node → Instant
  | .file number => (disk.record number).modified
  | .directory _ _ t => t
  | .link _ t => t
  | .fifo _ _ t => t
  | .device _ t => t

/-- The permission bits of a node. -/
def mode (disk : Disk) : Node → Nat
  | .file number => (disk.record number).mode
  | .directory _ m _ => m
  | .link .. => 0o777
  | .fifo _ m _ => m
  | .device .. => 0o666

/-- Whether the owner's bit `bit` (4 to read, 2 to write, 1 to search or run) is set on a node. -/
def permits (disk : Disk) (node : Node) (bit : Nat) : Bool :=
  disk.mode node / 0o100 / bit % 2 = 1

/-- Whether any of the three bits to run a file is set on a node. -/
def runnable (disk : Disk) (node : Node) : Bool :=
  let m := disk.mode node
  m % 2 = 1 || m / 0o10 % 2 = 1 || m / 0o100 % 2 = 1

/-- The disk with a change to one of its records. -/
def alterRecord (disk : Disk) (number : Nat) (change : FileRecord → FileRecord) : Disk :=
  { disk with files := disk.files.modify number change }

end Disk

end CrossBench
