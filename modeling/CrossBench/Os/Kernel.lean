import CrossBench.Files.Edit
import CrossBench.Os.WaitStatus

/-!
# The state of a system

A `Kernel` is what all running programs share: a disk, a clock, open files, pipes, and what the system
knows of each process. A process reaches an open file through a descriptor, a number of its own; two
descriptors may lead to one open file, which has one position. A pipe is open for writing as long as
some process that has not ended holds a descriptor for it.

Whatever would have to wait answers `none` and is asked again later.
-/

namespace CrossBench

/-- The number of a process. -/
abbrev Pid := Nat

/-- Bytes on their way from programs to programs. -/
structure Pipe where
  data : ByteArray
  /-- How many of the bytes have been read. -/
  start : Nat
  /-- How many bytes it holds at most; `none` if the reader keeps up with everything. -/
  room : Option Nat
  /-- How many readers and writers it has had. -/
  readers : Nat
  writers : Nat
  deriving Inhabited

/-- How many bytes a pipe holds. -/
def Pipe.size (p : Pipe) : Nat := p.data.size - p.start

/-- The pipe without its first `n` bytes. -/
def Pipe.drop (p : Pipe) (n : Nat) : Pipe :=
  if p.data.size ≤ p.start + n then { p with data := .empty, start := 0 }
  else { p with start := p.start + n }

/-- What an open file leads to. -/
inductive Channel where
  | device (d : Device)
  | file (number : Nat)
  | directory (location : Location)
  | pipe (number : Nat)
  deriving DecidableEq, Inhabited

/-- An open file. -/
structure OpenFile where
  channel : Channel
  /-- The place in a file where the next byte is read or written. -/
  position : Nat
  readable : Bool
  writable : Bool
  /-- Whether everything is written behind the end of the file. -/
  appending : Bool
  deriving Inhabited

/-- How a file is to be opened. -/
structure Access where
  read : Bool
  write : Bool
  /-- Whether a missing file is made. -/
  create : Bool
  /-- Whether what a file holds is thrown away. -/
  truncate : Bool
  append : Bool
  /-- Whether there must not be a regular file yet. -/
  exclusive : Bool

namespace Access

/-- To read a file. -/
def reading : Access := ⟨true, false, false, false, false, false⟩

/-- To write a file from its beginning. -/
def writing : Access := ⟨false, true, true, true, false, false⟩

/-- To write behind the end of a file. -/
def appending : Access := ⟨false, true, true, false, true, false⟩

/-- To read and write a file. -/
def updating : Access := ⟨true, true, true, false, false, false⟩

/-- To write a file that is not there yet. -/
def making : Access := ⟨false, true, true, true, false, true⟩

end Access

/-- What a process has arranged for a signal. -/
inductive Disposition where
  | usual
  | ignored
  | caught
  deriving DecidableEq

/-- What the system knows of a process. -/
structure Process where
  parent : Pid
  /-- Which open files the descriptors lead to. -/
  descriptors : List (Nat × Nat)
  directory : Location
  mask : Nat
  dispositions : List (Nat × Disposition)
  /-- The signals that have been caught, the oldest first. -/
  pending : List Nat
  stopped : Bool
  ended : Option WaitStatus
  /-- The time at which it wants to go on. -/
  wakes : Option Instant
  /-- How much it lets others go first. -/
  niceness : Int := 0
  deriving Inhabited

/-- What all running programs share. -/
structure Kernel where
  disk : Disk
  now : Instant
  opens : Array OpenFile
  pipes : Array Pipe
  /-- The pipes that are behind named ones. -/
  fifos : List (Nat × Nat)
  processes : Array Process

namespace Kernel

/-- The number of the first process. -/
def firstPid : Pid := 101

/-- How many bytes a pipe between programs holds at most. -/
def pipeRoom : Nat := 65536

/-- The first number of those descriptors that are only kept to be put back. -/
def keptFrom : Nat := 1000

/-- What the system knows of a process. -/
def process (k : Kernel) (pid : Pid) : Process :=
  if pid < firstPid then default else k.processes.getD (pid - firstPid) default

/-- Whether there is a process with a number that has not ended. -/
def isAlive (k : Kernel) (pid : Pid) : Bool :=
  firstPid ≤ pid && pid < firstPid + k.processes.size && (k.process pid).ended.isNone

/-- The system with a change to a process. -/
def alterProcess (k : Kernel) (pid : Pid) (change : Process → Process) : Kernel :=
  if pid < firstPid then k else { k with processes := k.processes.modify (pid - firstPid) change }

/-- The disk as a process sees it. -/
def tree (k : Kernel) (pid : Pid) : Tree :=
  let p := k.process pid
  ⟨k.disk, p.directory, p.mask⟩

/-- The system with a disk that has been changed. -/
def withTree (k : Kernel) (t : Tree) : Kernel := { k with disk := t.disk }

/-- The open file that a descriptor leads to, with its number. -/
def opened? (k : Kernel) (pid : Pid) (fd : Nat) : Option (Nat × OpenFile) :=
  ((k.process pid).descriptors.find? fun d => d.1 = fd).map fun d =>
    (d.2, k.opens.getD d.2 default)

/-- Whether a process that has not ended holds an open file of a kind. -/
def holds (k : Kernel) (kind : OpenFile → Bool) : Bool :=
  k.processes.any fun p => p.ended.isNone &&
    p.descriptors.any fun d => kind (k.opens.getD d.2 default)

/-- Whether a pipe can still be read. -/
def hasReader (k : Kernel) (pipe : Nat) : Bool :=
  (k.pipes.getD pipe default).room.isNone ||
    k.holds fun f => f.readable && f.channel == .pipe pipe

/-- Whether a pipe can still be written to. -/
def hasWriter (k : Kernel) (pipe : Nat) : Bool :=
  k.holds fun f => f.writable && f.channel == .pipe pipe

/-- The descriptors with one of them leading elsewhere, or closed. -/
def redirected (descriptors : List (Nat × Nat)) (fd : Nat) (target : Option Nat) :
    List (Nat × Nat) :=
  let others := descriptors.filter fun d => d.1 ≠ fd
  match target with
  | some target => (fd, target) :: others
  | none => others

/-- Leads a descriptor to an open file, or closes it. -/
def redirect (k : Kernel) (pid : Pid) (fd : Nat) (target : Option Nat) : Kernel :=
  k.alterProcess pid fun p => { p with descriptors := redirected p.descriptors fd target }

/-- Adds an open file; its number. -/
def addOpen (k : Kernel) (f : OpenFile) : Nat × Kernel :=
  (k.opens.size, { k with opens := k.opens.push f })

/-- Adds a pipe; its number. -/
def addPipe (k : Kernel) (room : Option Nat) : Nat × Kernel :=
  (k.pipes.size, { k with pipes := k.pipes.push ⟨.empty, 0, room, 1, 1⟩ })

/-- Adds a pipe between programs; the numbers of its two open files, to read it and to write to it. -/
def openPipe (k : Kernel) : (Nat × Nat) × Kernel :=
  let (pipe, k) := k.addPipe (some pipeRoom)
  let (reading, k) := k.addOpen ⟨.pipe pipe, 0, true, false, false⟩
  let (writing, k) := k.addOpen ⟨.pipe pipe, 0, false, true, false⟩
  ((reading, writing), k)

/-- The pipe behind a named one. One that nobody holds any more is empty again. -/
def fifoPipe (k : Kernel) (number : Nat) : Nat × Kernel :=
  let used (pipe : Nat) : Bool := k.holds fun f => f.channel == .pipe pipe
  match (k.fifos.find? fun e => e.1 = number && used e.2) with
  | some (_, pipe) => (pipe, k)
  | none =>
    let pipe := k.pipes.size
    (pipe,
      { k with
        pipes := k.pipes.push ⟨.empty, 0, some pipeRoom, 0, 0⟩
        fifos := (number, pipe) :: k.fifos.filter fun e => e.1 ≠ number })

/-- An open file for a channel. -/
def openChannel (k : Kernel) (channel : Channel) (a : Access) : Nat × Kernel :=
  k.addOpen ⟨channel, 0, a.read, a.write, a.append⟩

/-- Opens a regular file. -/
def openRegular (k : Kernel) (number : Nat) (a : Access) : Nat × Kernel :=
  let k :=
    if a.truncate && 0 < (k.disk.record number).data.size then
      { k with
        disk := k.disk.alterRecord number fun r => { r with data := .empty, modified := k.now } }
    else k
  k.openChannel (.file number) a

/-- Opens a named pipe, for which a process has then still to wait. -/
def openFifo (k : Kernel) (number : Nat) (a : Access) : Nat × Kernel :=
  let (pipe, k) := k.fifoPipe number
  let k :=
    { k with
      pipes := k.pipes.modify pipe fun p =>
        { p with
          readers := p.readers + if a.read then 1 else 0
          writers := p.writers + if a.write then 1 else 0 } }
  k.openChannel (.pipe pipe) a

/-- Opens what a process has open under another number. A regular file is opened anew. -/
def openAgain (k : Kernel) (pid : Pid) (fd : Nat) (a : Access) : Except IoError (Nat × Kernel) :=
  match k.opened? pid fd with
  | none => .error .notFound
  | some (_, f) =>
    match f.channel with
    | .file number => .ok (k.openRegular number a)
    | channel => .ok (k.openChannel channel a)

/-- Opens the file that a path leads to; the number of the open file. -/
def openPath (k : Kernel) (pid : Pid) (p : Path) (a : Access) (mode : Nat) :
    Except IoError (Nat × Kernel) :=
  let tree := k.tree pid
  match tree.place p true with
  | .error e =>
    if a.create && e == .notFound && p.bytes.getLast? == some Path.slash then .error .isDirectory
    else .error e
  | .ok (.absent directory n) =>
    if a.create then do
      tree.alterableAt directory
      let (number, tree) := tree.addFile k.now directory n mode
      return (k.withTree tree).openChannel (.file number) a
    else .error .notFound
  | .ok (.present location) =>
    match tree.at? location with
    | none => .error .notFound
    | some node =>
      let refused := (a.read && !tree.allows node 4) || (a.write && !tree.allows node 2)
      match node, refused with
      | .directory .., refused =>
        if a.write then .error .isDirectory
        else if refused then .error .denied
        else .ok (k.openChannel (.directory location) a)
      | .file number, refused =>
        if a.exclusive then .error .taken
        else if refused then .error .denied
        else .ok (k.openRegular number a)
      | _, true => .error .denied
      | .fifo number .., _ => .ok (k.openFifo number a)
      | .device (.descriptor n) _, _ => k.openAgain pid n a
      | .device .terminal _, _ => .error (.system 6)
      | .device d _, _ => .ok (k.openChannel (.device d) a)
      | .link .., _ => .error .notFound

/-- Whether somebody is at the other end of a pipe that has been opened by its name. -/
def isMet (k : Kernel) (f : OpenFile) : Bool :=
  match f.channel with
  | .pipe pipe =>
    let p := k.pipes.getD pipe default
    (f.readable && f.writable) || (if f.readable then 0 < p.writers else 0 < p.readers)
  | _ => true

/-- The system with a change to an open file. -/
def alterOpen (k : Kernel) (number : Nat) (change : OpenFile → OpenFile) : Kernel :=
  { k with opens := k.opens.modify number change }

/-- Reads at most `count` bytes; no byte is the end. -/
def read (k : Kernel) (pid : Pid) (fd count : Nat) : Option (Except IoError ByteArray × Kernel) :=
  match k.opened? pid fd with
  | none => some (.error .badDescriptor, k)
  | some (number, f) =>
    if !f.readable then some (.error .badDescriptor, k)
    else
      match f.channel with
      | .device .zero | .device .full | .device .random =>
        some (.ok (ByteArray.mk (Array.replicate (min count 4096) 0)), k)
      | .device _ => some (.ok .empty, k)
      | .directory _ => some (.error .isDirectory, k)
      | .file n =>
        let bytes := (k.disk.record n).data.extract f.position (f.position + count)
        some (.ok bytes, k.alterOpen number fun f => { f with position := f.position + bytes.size })
      | .pipe n =>
        let p := k.pipes.getD n default
        if 0 < p.size then
          let bytes := p.data.extract p.start (p.start + count)
          some (.ok bytes, { k with pipes := k.pipes.modify n (·.drop bytes.size) })
        else if k.hasWriter n then none
        else some (.ok .empty, k)

/-- How many bytes there are up to and with the first `stop` from a place on, but at most `most`. -/
def lengthTo (data : ByteArray) (stop : UInt8) : Nat → Nat → Nat
  | _, 0 => 0
  | start, most + 1 =>
    if h : start < data.size then
      if data[start] = stop then 1 else 1 + lengthTo data stop (start + 1) most
    else 0

/-- Reads up to and with a byte, or as much as there is. -/
def readTo (k : Kernel) (pid : Pid) (fd : Nat) (stop : UInt8) :
    Option (Except IoError ByteArray × Kernel) :=
  let count :=
    match k.opened? pid fd with
    | none => 1
    | some (_, f) =>
      match f.channel with
      | .file n => lengthTo (k.disk.record n).data stop f.position pipeRoom
      | .pipe n =>
        let p := k.pipes.getD n default
        max 1 (lengthTo p.data stop p.start pipeRoom)
      | _ => 1
  k.read pid fd count

/-- The bytes of a file with others written at a place; what is skipped is zero. -/
def splice (data : ByteArray) (position : Nat) (bytes : ByteArray) : ByteArray :=
  if position = data.size then data ++ bytes
  else if data.size < position then
    data ++ ByteArray.mk (Array.replicate (position - data.size) 0) ++ bytes
  else data.extract 0 position ++ bytes ++ data.extract (position + bytes.size) data.size

/-- What becomes of a process that gets a signal. -/
def signalled (number : Nat) (p : Process) : Process :=
  if p.ended.isSome then p
  else
    let p := if number = Signal.resume then { p with stopped := false } else p
    let disposition :=
      if Signal.catchable number then
        ((p.dispositions.find? fun d => d.1 = number).map (·.2)).getD .usual
      else .usual
    match disposition with
    | .ignored => p
    | .caught => { p with pending := p.pending ++ [number] }
    | .usual =>
      if Signal.ignoredByDefault number then p
      else if Signal.stopsByDefault number then { p with stopped := true }
      else { p with ended := some (.signal number), descriptors := [], wakes := none }

/-- Tells the parent of a process that has ended. -/
def notifyParent (k : Kernel) (pid : Pid) : Kernel :=
  let p := k.process pid
  if p.ended.isSome then k.alterProcess p.parent (signalled Signal.child) else k

/-- Sends a signal to a process. -/
def signal (k : Kernel) (pid : Pid) (number : Nat) : Kernel :=
  if k.isAlive pid then (k.alterProcess pid (signalled number)).notifyParent pid else k

/-- Ends a process. -/
def finish (k : Kernel) (pid : Pid) (status : WaitStatus) : Kernel :=
  if k.isAlive pid then
    (k.alterProcess pid fun p =>
      { p with ended := some status, descriptors := [], wakes := none }).notifyParent pid
  else k

/-- Writes bytes, and answers how many of them found room. -/
def write (k : Kernel) (pid : Pid) (fd : Nat) (bytes : ByteArray) :
    Option (Except IoError Nat × Kernel) :=
  match k.opened? pid fd with
  | none => some (.error .badDescriptor, k)
  | some (number, f) =>
    if !f.writable then some (.error .badDescriptor, k)
    else
      match f.channel with
      | .device .full => some (.error .noSpace, k)
      | .device _ => some (.ok bytes.size, k)
      | .directory _ => some (.error .badDescriptor, k)
      | .file n =>
        let position := if f.appending then (k.disk.record n).data.size else f.position
        let k :=
          { k with
            disk := k.disk.alterRecord n fun r =>
              { r with data := splice r.data position bytes, modified := k.now } }
        some (.ok bytes.size,
          k.alterOpen number fun f => { f with position := position + bytes.size })
      | .pipe n =>
        if !k.hasReader n then some (.error .brokenPipe, k.signal pid Signal.pipe)
        else
          let p := k.pipes.getD n default
          let room :=
            match p.room with
            | some room => room - p.size
            | none => bytes.size
          if room = 0 && 0 < bytes.size then none
          else
            let taken := bytes.extract 0 room
            some (.ok taken.size,
              { k with pipes := k.pipes.modify n fun p => { p with data := p.data ++ taken } })

/-- Starts a process as a copy of another one; its number. -/
def fork (k : Kernel) (pid : Pid) : Pid × Kernel :=
  (firstPid + k.processes.size,
    { k with
      processes := k.processes.push { k.process pid with parent := pid, pending := [], wakes := none } })

/-- The time at which the first of the processes that wait for a time wants to go on. -/
def nextWaking (k : Kernel) : Option Instant :=
  k.processes.foldl (fun first p =>
    match first, p.wakes with
    | none, t => t
    | some first, none => some first
    | some first, some t => some (if first.later t then t else first)) none

end Kernel

end CrossBench
