import CrossBench.Tool.Records.Machine
import CrossBench.Tool.Start

/-!
# Where records come from and what is printed goes

Records are read from the operands one after the other, from files and from commands, a block at a time.
What is printed to a file or a command is kept back until there is enough of it, or somebody else is to
see it.
-/

namespace CrossBench.Tool.Records

open Shell

/-- How many bytes are read and written at a time. -/
def portion : Nat := 4096

/-! ## Reading -/

/-- The first place of a byte from a place on. -/
def placeOf (b : UInt8) (bytes : ByteArray) : Nat → Nat → Option Nat
  | 0, _ => none
  | n + 1, place =>
    if place < bytes.size then if bytes.get! place = b then some place else placeOf b bytes n (place + 1)
    else none

/-- The first place from a place on where something else than a byte stands. -/
def beyond (b : UInt8) (bytes : ByteArray) : Nat → Nat → Nat
  | 0, place => place
  | n + 1, place =>
    if place < bytes.size && bytes.get! place = b then beyond b bytes n (place + 1) else place

/-- The first place of an empty line from a place on, behind the line in front of it. -/
def emptyLine (bytes : ByteArray) : Nat → Nat → Option Nat
  | 0, _ => none
  | n + 1, place =>
    match placeOf 10 bytes (bytes.size - place) place with
    | none => none
    | some i =>
      if i + 1 < bytes.size && bytes.get! (i + 1) = 10 then some i else emptyLine bytes n (i + 1)

/-- Where a record ends in what has been read, and where the next one begins; `none` if more has to be
read to know it. -/
def recordEnd (ending : Ending) (s : Source) : Option (Nat × Nat) :=
  let size := s.buffer.size
  match ending with
  | .byte c =>
    match placeOf c s.buffer (size - s.place) s.place with
    | some i => some (i, i + 1)
    | none => if s.ended then some (size, size) else none
  | .paragraphs =>
    match emptyLine s.buffer (size - s.place) s.place with
    | some i =>
      let next := beyond 10 s.buffer (size - i) i
      if next < size || s.ended then some (i, next) else none
    | none =>
      if s.ended then
        if s.place < size && s.buffer.get! (size - 1) = 10 then some (size - 1, size) else some (size, size)
      else none
  | .pattern r =>
    let subject := subjectOf (charsOf (s.buffer.extract s.place size))
    match r.find? subject 0 with
    | some m =>
      if m.start < m.stop && (m.stop < subject.text.size || s.ended) then
        some (s.place + m.start, s.place + m.stop)
      else if s.ended then some (size, size)
      else none
    | none => if s.ended then some (size, size) else none

/-- The source without the empty lines in front of a record, if they do not count. -/
def atRecord (ending : Ending) (s : Source) : Source :=
  match ending with
  | .paragraphs => { s with place := beyond 10 s.buffer (s.buffer.size - s.place) s.place }
  | _ => s

/-- The next record of a source. -/
def nextOf (ending : Ending) (s : Source) : Act (Except IoError (Option String) × Source) :=
  Act.repeating s fun s => do
    let s := atRecord ending s
    let left := s.place < s.buffer.size
    if s.ended && !left then return .inr (.ok none, s)
    else
      match if left then recordEnd ending s else none with
      | some (stop, next) =>
        return .inr (.ok (some (textOf (s.buffer.extract s.place stop))), { s with place := next })
      | none =>
        match ← Act.readSome s.fd portion with
        | .error e => return .inr (.error e, s)
        | .ok bytes =>
          return .inl { s with
            buffer := s.buffer.extract s.place s.buffer.size ++ bytes, place := 0, ended := bytes.isEmpty }
where
  /-- Bytes as a text. -/
  textOf (bytes : ByteArray) : String := Shell.textOf bytes

/-- A source of which nothing has been read. -/
def freshSource (fd : Nat) (pid : Option Pid) : Source := ⟨fd, pid, .empty, 0, false⟩

/-- Writes everything that has been kept back. -/
def flushAll : Run Unit := do
  let m ← get
  act do
    m.outlets.forM fun (_, o) => do
      unless o.buffer.isEmpty do
        let _ ← Act.write o.fd o.buffer
  modify fun m => { m with outlets := m.outlets.map fun (n, o) => (n, { o with buffer := .empty }) }

/-- Counts a record. -/
def countRecord : Run Unit := do
  let nr ← shared "NR"
  let fnr ← shared "FNR"
  setShared "NR" (.number (nr.toFloat + 1.0))
  setShared "FNR" (.number (fnr.toFloat + 1.0))

/-- The name and the value of an operand that sets a name. -/
def settingOf? (operand : String) : Option (String × String) :=
  let cs := operand.toList
  let name := cs.takeWhile fun c => c.isAlphanum || c == '_'
  match name, cs.drop name.length with
  | c :: _, '=' :: value => if c.isDigit then none else some (String.ofList name, String.ofList value)
  | _, _ => none

/-- Sets a name as an operand says. -/
def applySetting (name value : String) : Run Unit := assignShared name (.input (unescape value))

/-- Opens a file for the input. -/
def openSource (name : String) : Act (Except IoError Source) := do
  if name = "-" || name = "/dev/stdin" then return .ok (freshSource 0 none)
  else
    match ← openInput name with
    | .ok fd => return .ok (freshSource fd none)
    | .error e => return .error e

/-- The complaint about a file that cannot be opened. -/
def cannotOpen (name : String) (e : IoError) : String :=
  "cannot open \"" ++ name ++ "\" (" ++ e.plainMessage ++ ")"

/-- Goes on to the next operand; whether there is something to be read. -/
def nextOperand : Run Bool := do
  let m ← get
  let count ← shared "ARGC"
  if m.operand < (clamped 0 1000000 count.toFloat).toNat then
    modify fun m => { m with operand := m.operand + 1 }
    let number ← tableOf (.shared "ARGV")
    let value ← inTable number fun t => t.get? (.number m.operand)
    let operand ← textOf (value.getD .unset)
    if operand = "" then return true
    else
      match settingOf? operand with
      | some (name, value) =>
        applySetting name value
        return true
      | none =>
        match ← act (openSource operand) with
        | .error e => stopRun (cannotOpen operand e)
        | .ok s =>
          setShared "FILENAME" (.text operand)
          setShared "FNR" (.number 0.0)
          modify fun m => { m with main := some s, opened := true }
          return true
  else if m.opened then return false
  else
    modify fun m => { m with main := some (freshSource 0 none), opened := true }
    return true

/-- Repeats a step until it comes to an end. -/
def repeating {α : Type} (step : Run (Option α)) : Run α := fun m =>
  fun s => Act.repeating m (fun m => do
    let (r, m) ← step m
    match r with
    | .ok none => return .inl m
    | .ok (some a) => return .inr (Except.ok a, m)
    | .error e => return .inr (Except.error e, m)) s

/-- Leaves the file of the input that is being read. -/
def leaveFile : Run Unit := do
  match (← get).main with
  | none => return ()
  | some s =>
    act (closeInput s.fd)
    modify fun m => { m with main := none }

/-- The next record of the input. -/
def nextInput : Run (Option String) := repeating do
  let m ← get
  match m.main with
  | none => if ← nextOperand then return none else return some none
  | some s =>
    let (result, s) ← act (nextOf m.ending s)
    match result with
    | .error e => stopRun ("read error (" ++ e.plainMessage ++ ")")
    | .ok (some text) =>
      modify fun m => { m with main := some s }
      countRecord
      return some (some text)
    | .ok none =>
      leaveFile
      return none

/-- The source of a name that is not the input, which is opened if it is not open. -/
def sourceOf (origin : Origin) (name : String) : Run (Option Source) := do
  match (← get).sources.lookup name with
  | some s => return some s
  | none =>
    let made ←
      if origin = .command then do
        flushAll
        act do
          match ← startReading name with
          | .ok (pid, fd) => return some (freshSource fd (some pid))
          | .error _ => return none
      else act do return (← openSource name).toOption
    match made with
    | none => return none
    | some s =>
      modify fun m => { m with sources := (name, s) :: m.sources }
      return some s

/-- The next record of a source that is not the input, and what is told about it: 1 for a record, 0 for
the end, and -1 if there is no such source. -/
def nextFrom (origin : Origin) (name : String) : Run (Option String × Float) := do
  match ← sourceOf origin name with
  | none => return (none, -1.0)
  | some s =>
    let ending := (← get).ending
    let (result, s) ← act (nextOf ending s)
    modify fun m => { m with sources := m.sources.map fun e => if e.1 = name then (name, s) else e }
    match result with
    | .error e => stopRun ("read error (" ++ e.plainMessage ++ ")")
    | .ok (some text) => return (some text, 1.0)
    | .ok none => return (none, 0.0)

/-! ## Printing -/

/-- The name of the standard output. -/
def standardOutput : String := "/dev/stdout"

/-- The name of the standard error. -/
def standardError : String := "/dev/stderr"

/-- Starts a command in a shell; what is written to a descriptor is read by it. -/
def startWriting (command : String) : Act (Except IoError (Pid × Nat)) := do
  let (reading, writing) ← Act.pipe
  let kept ← Act.freeFrom Kernel.keptFrom
  let had ← Act.duplicate 0 kept
  let _ ← Act.duplicate reading 0
  Act.close reading
  let started ← spawnShell command
  if had then
    let _ ← Act.duplicate kept 0
    Act.close kept
  else Act.close 0
  return started.map fun pid => (pid, writing)

/-- Opens what is printed to. -/
def openOutlet (sink : Sink) (name : String) : Act (Except IoError Outlet) := do
  if name = standardOutput then return .ok ⟨1, none, .empty⟩
  else if name = standardError then return .ok ⟨2, none, .empty⟩
  else
    match sink with
    | .command => return (← startWriting name).map fun (pid, fd) => ⟨fd, some pid, .empty⟩
    | sink =>
      let fd ← Act.freeFrom firstFile
      let access : Access := if sink = .append then .appending else .writing
      match ← Act.openAt fd (pathOf name) access 0o666 with
      | .ok () => return .ok ⟨fd, none, .empty⟩
      | .error e => return .error e

/-- The outlet of a name, which is opened if it is not open. -/
def outletOf (sink : Sink) (name : String) : Run Outlet := do
  match (← get).outlets.lookup name with
  | some o => return o
  | none =>
    if sink = .command then flushAll
    match ← act (openOutlet sink name) with
    | .ok o =>
      modify fun m => { m with outlets := (name, o) :: m.outlets }
      return o
    | .error e =>
      stopRun ("cannot open \"" ++ name ++ "\" for output (" ++ e.plainMessage ++ ")")

/-- Sets what is known of an outlet. -/
def setOutlet (name : String) (o : Outlet) : Run Unit := modify fun m =>
  { m with outlets := m.outlets.map fun e => if e.1 = name then (name, o) else e }

/-- Prints a text to an outlet. -/
def put (sink : Sink) (name : String) (text : String) : Run Unit := do
  let o ← outletOf sink name
  let bytes := packed text
  if o.fd = 2 || portion ≤ o.buffer.size + bytes.size then
    setOutlet name { o with buffer := .empty }
    match ← act (Act.write o.fd (o.buffer ++ bytes)) with
    | .ok () => return ()
    | .error e =>
      modify fun m => { m with outlets := m.outlets.filter fun e => e.1 ≠ name }
      stopRun ("write failure (" ++ e.plainMessage ++ ")")
  else
    modify fun m => { m with outlets := m.outlets.map fun (n, o) =>
      if n = name then (n, { o with buffer := o.buffer ++ bytes }) else (n, o) }

/-- Prints a text to the standard output. -/
def putPlainly (text : String) : Run Unit := put .file standardOutput text

/-- Closes what goes by a name; how that ended, or -1 if nothing did. -/
def closeNamed (name : String) : Run Float := do
  let m ← get
  let ended (pid : Option Pid) : Act Float := do
    match pid with
    | none => return 0.0
    | some child =>
      let status ← Act.waitFor child
      match status.signal? with
      | some n => return .ofNat (256 + n)
      | none => return .ofNat (statusNumber status)
  let first ←
    match m.sources.lookup name with
    | none => pure none
    | some s =>
      modify fun m => { m with sources := m.sources.filter fun e => e.1 ≠ name }
      act do
        closeInput s.fd
        return some (← ended s.pid)
  let second ←
    match m.outlets.lookup name with
    | none => pure none
    | some o =>
      modify fun m => { m with outlets := m.outlets.filter fun e => e.1 ≠ name }
      act do
        let _ ← Act.write o.fd o.buffer
        unless o.fd ≤ 2 do Act.close o.fd
        return some (← ended o.pid)
  return (second.or first).getD (-1.0)

/-- Writes what has been kept back for a name; how that ended. -/
def flushNamed (name : String) : Run Float := do
  match (← get).outlets.lookup name with
  | none => return -1.0
  | some o =>
    setOutlet name { o with buffer := .empty }
    act do
      unless o.buffer.isEmpty do
        let _ ← Act.write o.fd o.buffer
      return 0.0

/-- Runs a command in a shell and waits for its end, of which it tells. -/
def runCommand (command : String) : Run Float := do
  flushAll
  act do
    match ← spawnShell command with
    | .error _ => return -1.0
    | .ok child =>
      let status ← Act.waitFor child
      match status.signal? with
      | some n => return .ofNat (256 + n)
      | none => return .ofNat (statusNumber status)

end CrossBench.Tool.Records
