import CrossBench.Process
import CrossBench.Shell.Start
import CrossBench.Tool.Table

/-!
# A world that runs its programs itself

`World` is a disk with a clock, whose programs are the shells and the small programs of
`CrossBench.Tool.Table`; `Shell.host` is the `Host` of such worlds. A process begins with nothing on
its standard input; what it and the processes that it starts write to the standard output is lost,
and what they write to the standard error is kept. It has been waited for when it has ended and no
process is left that could still write there. Every process takes the same time.

A build command and the scripts of a suite are shell programs that call the programs of a system, so
that a project can be run as a whole only where there are a shell and such programs: `Shell`, `Tool` and
what they import are that, and hold nothing that is not reached from `host`. The theory does not rest on
them. What it says of a run holds of every `Host`, and this one is only one of them.
-/

namespace CrossBench.Shell

/-- A disk with a clock. -/
structure World where
  disk : Disk
  now : Instant
  /-- The directory that the harness is called in. -/
  workdir : Location

namespace World

/-- What the harness sees of a world. -/
def tree (w : World) : Tree := ⟨w.disk, w.workdir, 0o022⟩

/-- A world whose disk has been changed. -/
def withTree (w : World) (t : Tree) : World := { w with disk := t.disk }

end World

/-! ## Processes -/

/-- The shells by name. -/
def shells : List (String × Dialect) :=
  [("sh", .plain), ("dash", .plain), ("bash", .extended)]

/-- Runs a program: a shell, or one of the others. -/
def launch (l : Launch) : Act Nat :=
  match shells.find? fun s => s.1 = l.program, Tool.find? l.program with
  | some (_, d), _ => Act.shell d
  | none, some act => act
  | none, none => Act.gone 127

/-- The word that is reported for a process whose job has come to an answer. -/
def waitStatus (a : Answer) : WaitStatus :=
  let exit (n : Nat) : WaitStatus := .exit (.ofNat n)
  match a.1 with
  | .ok (.status n) => exit n
  | .ok _ => exit a.2.status
  | .error (.exit n) => exit n
  | .error (.failure n) => exit n
  | .error (.return_ n) => exit n
  | .error (.gone status) => status
  | .error _ => exit 1

/-- How processes do their jobs. -/
def workshop : Workshop Task Answer where
  perform task := Act.perform launch task.job task.session
  outcome := waitStatus

/-- How long a process takes, in nanoseconds. -/
def processNanos : UInt64 := 1000000

/-- The turns that processes may take. -/
def processFuel : Nat := 1000000000

/-- The parameters that every process is given. -/
def environment : List (String × String) :=
  [("PATH", defaultSearchPath), ("HOME", "/root"), ("LANG", "C.UTF-8")]

/-- The directory that a process starts in. -/
def startDirectory (w : World) : Option Path → Except IoError Location
  | none => .ok w.workdir
  | some p => w.tree.enter p

/-- What a start leads to: a directory and a program to launch in it. -/
def resolveStart (s : Start) (w : World) : Except IoError (Location × Launch) :=
  let zero (p : Path) : Bool := p.bytes.contains 0
  if s.words.any (·.contains 0) || s.directory.any zero then
    .error (.custom "nul byte found in provided data")
  else
    match startDirectory w s.directory with
    | .error e => .error e
    | .ok directory =>
      match prepare { w.tree with workdir := directory } defaultSearchPath environment (s.words.map ofBytes) with
      | .error e => .error e
      | .ok l => .ok (directory, l)

/-- A system with one process and two pipes that take its output and its complaints. -/
def firstKernel (w : World) (directory : Location) : Kernel where
  disk := w.disk
  now := w.now
  opens :=
    #[⟨.device .null, 0, true, false, false⟩, ⟨.pipe 0, 0, false, true, false⟩,
      ⟨.pipe 1, 0, false, true, false⟩]
  pipes := #[⟨.empty, 0, none, 1, 1⟩, ⟨.empty, 0, none, 1, 1⟩]
  fifos := []
  processes :=
    #[{ parent := Kernel.firstPid - 1
        descriptors := [(0, 0), (1, 1), (2, 2)]
        directory
        mask := 0o022
        dispositions := []
        pending := []
        stopped := false
        ended := none
        wakes := none }]

/-- Whether the first process has ended and nobody can write to the two pipes any more. -/
def isOver (k : Kernel) : Bool :=
  !k.isAlive Kernel.firstPid && !k.hasWriter 0 && !k.hasWriter 1

/-- Starts a process in a world and waits for its end. -/
def runStart (s : Start) (w : World) : Finished World :=
  match resolveStart s w with
  | .error reason => ⟨w, .notStarted reason, processNanos⟩
  | .ok (directory, l) =>
    let session := Session.ofLaunch environment l Kernel.firstPid w.now
    let first : Thread Task Answer :=
      ⟨Kernel.firstPid, workshop.perform ⟨.launch l, session⟩, []⟩
    let (_, k) := Threads.run workshop isOver processFuel 0 [first] (firstKernel w directory)
    let status := ((k.process Kernel.firstPid).ended).getD (.signal Signal.kill)
    let complaints := (k.pipes.getD 1 default).data.toList
    ⟨{ w with disk := k.disk, now := k.now }, .exited status complaints, processNanos⟩

/-- The programs of worlds. -/
def host : Host World where
  view := World.tree
  run := runStart

/-! ## A system -/

/-- The names of all programs that have a file. -/
def programNames : List String := Tool.names ++ shells.map (·.1)

/-- The devices of a system. -/
def devices : List (String × Device) :=
  [("null", .null), ("zero", .zero), ("full", .full), ("random", .random), ("urandom", .random),
    ("tty", .terminal), ("stdin", .descriptor 0), ("stdout", .descriptor 1),
    ("stderr", .descriptor 2)]

/-- The disk of a system without any files of its users. -/
def bareDisk (t : Instant) : Disk :=
  let directory (mode : Nat) (es : List (String × Node)) : Node :=
    .directory (es.map fun e => (toBytes e.1, e.2)) mode t
  let empty : Node := directory 0o755 []
  let device (e : String × Device) : String × Node := (e.1, .device e.2 t)
  let descriptors := (List.range 256).map fun n => (toString n, Node.device (.descriptor n) t)
  let account := programNames.length
  let link (target : String) : Node := .link (pathOf target) t
  let programs := programNames.zipIdx.map fun (name, n) => (name, Node.file n)
  let top :=
    directory 0o755
      [("bin", link "usr/bin"),
        ("dev", directory 0o755 (devices.map device ++ [("fd", directory 0o555 descriptors)])),
        ("etc", directory 0o755 [("passwd", .file account)]), ("home", empty), ("lib", empty),
        ("opt", empty), ("root", directory 0o700 []), ("sbin", link "usr/sbin"),
        ("tmp", directory 0o1777 []),
        ("usr", directory 0o755
          [("bin", directory 0o755 programs), ("lib", empty),
            ("local", directory 0o755 [("bin", empty), ("sbin", empty)]), ("sbin", empty),
            ("share", empty)]),
        ("var", directory 0o755 [("tmp", directory 0o1777 [])])]
  let images := programNames.map fun name => (⟨programImage name, 0o755, t⟩ : FileRecord)
  let accounts : FileRecord := ⟨packed "root:x:0:0:root:/root:/bin/bash\n", 0o644, t⟩
  ⟨top, (images ++ [accounts]).toArray⟩

namespace World

/-- A world at the time `now` with a directory for a project, in which the harness is called, and with
the files of the project. Directories on the way to a file are made. -/
def ofProject (now : Instant) (root : Path) (files : List (Path × List UInt8)) :
    Except IoError World := do
  let t : Tree := ⟨bareDisk now, [], 0o022⟩
  let t ← t.makeDirectories now root
  let t : Tree := { t with workdir := ← t.locate root true }
  let t ← files.foldlM (fun (t : Tree) (p, bytes) => do
    (← t.makeDirectories now p.parent).writeFile now p bytes) t
  return ⟨t.disk, now, t.workdir⟩

end World

end CrossBench.Shell
