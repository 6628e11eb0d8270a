import CrossBench.Tool.Input

/-!
# Copying by blocks

`dd` reads blocks of one size and writes blocks of another one. On the way bytes can be changed, and lines
be made into records of one length or back. How much is left out at the beginning and how much is read is
counted in blocks, or in bytes.
-/

namespace CrossBench.Tool.Transfer

open Shell Shell.Act

/-! ## Numbers -/

/-- The number that a text without products is, and whether bytes are meant by it. -/
def factor? (s : String) : Except Bool (Nat × Bool) :=
  let digits := s.toList.takeWhile Char.isDigit
  let rest := String.ofList (s.toList.drop digits.length)
  let n := digits.foldl (fun n c => n * 10 + (c.toNat - 48)) 0
  let unit : Option (Nat × Bool) :=
    match rest with
    | "" => some (1, false)
    | "c" => some (1, false)
    | "w" => some (2, false)
    | "b" => some (512, false)
    | "B" => some (1, true)
    | rest => (unitOf? "EGkKMPTYZ".toList rest.toList).map fun u => (u, false)
  match unit with
  | none => .error false
  | some (u, bytes) =>
    if digits.isEmpty then .error false
    else if 9223372036854775807 < n * u then .error true
    else .ok (n * u, bytes)

/-- The number that a text is: a product of numbers with an `x` between them. -/
def number (s : String) : Act (Nat × Bool) := do
  let parts := s.splitOn "x"
  if 1 < parts.length && parts.head? = some "0" then
    say ("warning: " ++ cited "0x" ++ " is a zero multiplier; use " ++ cited "00x" ++ " if that is intended")
  match parts.mapM factor? with
  | .ok ns =>
    let n := ns.foldl (fun n p => n * p.1) 1
    if 9223372036854775807 < n then tooLarge else return (n, ns.any (·.2))
  | .error large => if large then tooLarge else stop 1 ("invalid number: " ++ quoted s)
where
  /-- Refuses a number that is too large. -/
  tooLarge {α : Type} : Act α := stop 1 ("invalid number: " ++ quoted s ++ ": Value too large for defined data type")

/-! ## What is asked for -/

/-- An amount of blocks, or of bytes. -/
structure Amount where
  count : Nat
  inBytes : Bool

/-- What a call asks for. -/
structure Job where
  source : Option String := none
  target : Option String := none
  readSize : Nat := 512
  writeSize : Nat := 512
  bothSize : Option Nat := none
  recordSize : Nat := 0
  left : Amount := ⟨0, false⟩
  start : Amount := ⟨0, false⟩
  most : Option Amount := none
  changes : List String := []
  readFlags : List String := []
  writeFlags : List String := []
  /-- How much is told: nothing, no sums, or everything. -/
  level : String := ""

namespace Job

/-- Whether bytes go through a second block, because sizes differ or bytes are changed. -/
def isBuffered (j : Job) : Bool :=
  j.bothSize.isNone ||
    j.changes.any (["ascii", "ebcdic", "ibm", "block", "unblock", "lcase", "ucase", "swab"].contains ·)

/-- How many bytes are read at once. -/
def blockIn (j : Job) : Nat := j.bothSize.getD j.readSize

/-- How many bytes are written at once. -/
def blockOut (j : Job) : Nat := j.bothSize.getD j.writeSize

/-- Whether records of one length are made, or lines of them. -/
def makes (j : Job) (what : String) : Bool := 0 < j.recordSize && j.changes.contains what

end Job

/-- The changes that can be asked for. -/
def changeNames : List String :=
  ["ascii", "ebcdic", "ibm", "block", "unblock", "lcase", "ucase", "sparse", "swab", "noerror", "nocreat",
    "excl", "notrunc", "sync", "fdatasync", "fsync"]

/-- The flags that can be asked for. -/
def flagNames : List String :=
  ["append", "binary", "cio", "direct", "directory", "dsync", "noatime", "nocache", "noctty", "nofollow",
    "nolinks", "nonblock", "sync", "text", "fullblock", "count_bytes", "skip_bytes", "seek_bytes"]

/-- The words of a list. -/
def wordsOf (what : String) (known : List String) (text : String) : Act (List String) := do
  let words := text.splitOn ","
  match words.find? fun w => !known.contains w with
  | some w => misuse 1 (what ++ cited w)
  | none => return words

/-- What is asked for with one more operand. -/
def Job.with_ (j : Job) (operand : String) : Act Job := do
  let name := String.ofList (operand.toList.takeWhile (· != '='))
  let value := String.ofList (operand.toList.drop (name.length + 1))
  let size : Act Nat := do
    let (n, _) ← number value
    if n = 0 then stop 1 ("invalid number: " ++ quoted value) else return n
  if !operand.toList.contains '=' then unknown operand
  else
    match name with
    | "if" => return { j with source := some value }
    | "of" => return { j with target := some value }
    | "bs" => return { j with bothSize := some (← size) }
    | "ibs" => return { j with readSize := ← size }
    | "obs" => return { j with writeSize := ← size }
    | "cbs" => return { j with recordSize := ← size }
    | "skip" | "iseek" =>
      let (n, b) ← number value
      return { j with left := ⟨n, b⟩ }
    | "seek" | "oseek" =>
      let (n, b) ← number value
      return { j with start := ⟨n, b⟩ }
    | "count" =>
      let (n, b) ← number value
      return { j with most := some ⟨n, b⟩ }
    | "conv" => return { j with changes := j.changes ++ (← wordsOf "invalid conversion: " changeNames value) }
    | "iflag" => return { j with readFlags := j.readFlags ++ (← wordsOf "invalid input flag: " flagNames value) }
    | "oflag" =>
      return { j with writeFlags := j.writeFlags ++ (← wordsOf "invalid output flag: " flagNames value) }
    | "status" =>
      let words ← wordsOf "invalid status level: " ["none", "noxfer", "progress"] value
      return { j with level := words.getLastD "" }
    | _ => unknown operand
where
  /-- Refuses an operand. -/
  unknown (operand : String) : Act Job := misuse 1 ("unrecognized operand " ++ quoted operand)

/-- What is asked for, with what does not go together refused. -/
def Job.checked (j : Job) : Act Job := do
  let both (a b : String) : Bool := j.changes.contains a && j.changes.contains b
  if 1 < (["ascii", "ebcdic", "ibm"].filter j.changes.contains).length then
    stop 1 "cannot combine any two of \x7bascii,ebcdic,ibm\x7d"
  else if both "block" "unblock" && 0 < j.recordSize then stop 1 "cannot combine block and unblock"
  else if both "lcase" "ucase" then stop 1 "cannot combine lcase and ucase"
  else if both "excl" "nocreat" then stop 1 "cannot combine excl and nocreat"
  else
    return { j with
      left := { j.left with inBytes := j.left.inBytes || j.readFlags.contains "skip_bytes" }
      start := { j.start with inBytes := j.start.inBytes || j.writeFlags.contains "seek_bytes" }
      most := j.most.map fun a => { a with inBytes := a.inBytes || j.readFlags.contains "count_bytes" } }

/-! ## On the way -/

/-- What is known in the middle of a transfer. -/
structure State where
  fullIn : Nat := 0
  partialIn : Nat := 0
  fullOut : Nat := 0
  partialOut : Nat := 0
  written : Nat := 0
  truncated : Nat := 0
  /-- What is still to be written. -/
  pending : ByteArray := .empty
  /-- A byte that waits for the one behind it. -/
  saved : Option UInt8 := none
  column : Nat := 0
  spaces : Nat := 0
  failed : Bool := false

namespace State

/-- The byte of a blank, and the one at the end of a line. -/
def blank : UInt8 := 32

/-- The byte at the end of a line. -/
def lineFeed : UInt8 := 10

/-- One byte more to be written. -/
def push (s : State) (b : UInt8) : State := { s with pending := s.pending.push b }

/-- So many blanks more. -/
def pushBlanks (s : State) (n : Nat) : State := (List.range n).foldl (fun s _ => s.push blank) s

/-- A byte of a line that becomes a record. -/
def toRecord (size : Nat) (s : State) (b : UInt8) : State :=
  if b = lineFeed then { s.pushBlanks (size - s.column) with column := 0 }
  else
    let s :=
      if s.column = size then { s with truncated := s.truncated + 1 }
      else if s.column < size then s.push b
      else s
    { s with column := s.column + 1 }

/-- A byte of a record that becomes a line. -/
def toLine (size : Nat) (s : State) (b : UInt8) : State :=
  let s := if size ≤ s.column then { s.push lineFeed with column := 0, spaces := 0 } else s
  let s := { s with column := s.column + 1 }
  if b = blank then { s with spaces := s.spaces + 1 }
  else { s.pushBlanks s.spaces with spaces := 0 }.push b

/-- A byte as the changes leave it. -/
def changed (j : Job) (b : UInt8) : UInt8 :=
  if j.changes.contains "ucase" && 97 ≤ b && b ≤ 122 then b - 32
  else if j.changes.contains "lcase" && 65 ≤ b && b ≤ 90 then b + 32
  else b

/-- A byte on its way to what is written. -/
def arrive (j : Job) (s : State) (b : UInt8) : State :=
  if j.makes "block" then s.toRecord j.recordSize b
  else if j.makes "unblock" then s.toLine j.recordSize b
  else s.push b

/-- A byte that has been read. -/
def take (j : Job) (s : State) (b : UInt8) : State :=
  let b := changed j b
  if j.changes.contains "swab" then
    match s.saved with
    | none => { s with saved := some b }
    | some a => { (s.arrive j b).arrive j a with saved := none }
  else s.arrive j b

/-- What is added behind the last byte. -/
def ending (j : Job) (s : State) : State :=
  let s := s.saved.elim s fun b => { s.arrive j b with saved := none }
  if j.makes "block" && 0 < s.column then s.pushBlanks (j.recordSize - s.column)
  else if j.makes "unblock" && 0 < s.column then s.push lineFeed
  else s

end State

/-- Writes bytes; whether that went well. -/
def deliver (j : Job) (bytes : ByteArray) : Act Bool := do
  match ← Act.write 1 bytes with
  | .ok () => return true
  | .error e =>
    say ("error writing " ++ quoted (j.target.getD "standard output") ++ ": " ++ e.plainMessage)
    return false

/-- Writes the full blocks of what is to be written. -/
def State.flush (j : Job) (s : State) : Act State := do
  let size := j.blockOut
  let blocks := s.pending.size / size
  if blocks = 0 then return s
  else
    let ok ← deliver j (s.pending.extract 0 (blocks * size))
    return { s with
      pending := s.pending.extract (blocks * size) s.pending.size
      fullOut := s.fullOut + (if ok then blocks else 0)
      written := s.written + (if ok then blocks * size else 0)
      failed := s.failed || !ok }

/-- Reads a block: as much as comes at once, or until it is full. -/
def readBlock (j : Job) (size : Nat) : Act (Except IoError ByteArray) := do
  let isPipe ← look fun pid k =>
    match k.opened? pid 0 with
    | some (_, f) =>
      match f.channel with
      | .pipe _ => true
      | _ => false
    | none => true
  if isPipe && !j.readFlags.contains "fullblock" then readSome 0 size
  else
    repeating ByteArray.empty fun bytes => do
      if size ≤ bytes.size then return .inr (.ok bytes)
      else
        match ← readSome 0 (size - bytes.size) with
        | .error e => return .inr (if bytes.isEmpty then .error e else .ok bytes)
        | .ok more => if more.isEmpty then return .inr (.ok bytes) else return .inl (bytes ++ more)

/-- Goes on behind some bytes of the input; whether there were so many. -/
def leaveOut (j : Job) : Act Bool := do
  let blocks := if j.left.inBytes then j.left.count / j.blockIn else j.left.count
  let bytes := if j.left.inBytes then j.left.count % j.blockIn else 0
  let total := blocks * j.blockIn + bytes
  if total = 0 then return true
  else
    let size : Option Nat ← look fun pid k =>
      match k.opened? pid 0 with
      | some (_, f) =>
        match f.channel with
        | .file n => some ((k.disk.record n).data.size - f.position)
        | _ => none
      | none => none
    match size with
    | some size =>
      alter fun pid k =>
        match k.opened? pid 0 with
        | some (number, _) => k.alterOpen number fun f => { f with position := f.position + min total size }
        | none => k
      return total ≤ size
    | none =>
      repeating (blocks, bytes) fun (blocks, bytes) => do
        if blocks = 0 && bytes = 0 then return .inr true
        else
          match ← readBlock j (if blocks = 0 then bytes else j.blockIn) with
          | .error _ => return .inr false
          | .ok b =>
            if b.isEmpty then return .inr false
            else return .inl (if blocks = 0 then (0, 0) else (blocks - 1, bytes))

/-- Goes to the place in the output where writing begins. -/
def goToStart (j : Job) : Act Unit := do
  let place := if j.start.inBytes then j.start.count else j.start.count * j.blockOut
  if 0 < place then
    alter fun pid k =>
      match k.opened? pid 1 with
      | some (number, f) =>
        match f.channel with
        | .file n =>
          let k :=
            if j.target.isSome && !j.changes.contains "notrunc" then
              { k with disk := k.disk.alterRecord n fun r => { r with data := r.data.extract 0 place } }
            else k
          k.alterOpen number fun f => { f with position := f.position + place }
        | _ => k
      | none => k

/-- Copies blocks until there are no more, or enough. -/
def copy (j : Job) : Act State := do
  let whole := j.most.map fun a => if a.inBytes then a.count / j.blockIn else a.count
  let rest := j.most.elim 0 fun a => if a.inBytes then a.count % j.blockIn else 0
  let filler : UInt8 := if j.makes "block" || j.makes "unblock" then State.blank else 0
  let step (s : State) : Act (State ⊕ State) := do
    let seen := s.fullIn + s.partialIn
    if s.failed || whole.any (fun w => w + (if rest = 0 then 0 else 1) ≤ seen) then return .inr s
    else
      let size := if whole.any (· ≤ seen) then rest else j.blockIn
      match ← readBlock j size with
      | .error e =>
        say ("error reading " ++ quoted (j.source.getD "standard input") ++ ": " ++ e.plainMessage)
        return .inr { s with failed := true }
      | .ok bytes =>
        if bytes.isEmpty then return .inr s
        else
          let short := bytes.size < j.blockIn
          let s := if short then { s with partialIn := s.partialIn + 1 } else { s with fullIn := s.fullIn + 1 }
          let bytes :=
            if short && j.changes.contains "sync" then
              bytes ++ ⟨Array.replicate (j.blockIn - bytes.size) filler⟩
            else bytes
          if j.isBuffered then
            return .inl (← (bytes.foldl (State.take j) s).flush j)
          else
            let ok ← deliver j bytes
            if !ok then return .inr { s with failed := true }
            else
              let s := { s with written := s.written + bytes.size }
              return .inl (if bytes.size = j.blockIn then { s with fullOut := s.fullOut + 1 }
                else { s with partialOut := s.partialOut + 1 })
  let s ← repeating ({} : State) step
  let s ← (s.ending j).flush j
  if s.pending.isEmpty then return s
  else
    let ok ← deliver j s.pending
    return { s with
      partialOut := s.partialOut + (if ok then 1 else 0)
      written := s.written + (if ok then s.pending.size else 0)
      failed := s.failed || !ok }

/-! ## Sums -/

/-- A number of bytes with a unit, rounded to the nearest. -/
def amountText (base : Nat) (units : List String) (n : Nat) : String :=
  let rec go : Nat → Nat → List String → String
    | 0, _, _ => toString n
    | _, _, [] => toString n
    | fuel + 1, unit, name :: rest =>
      let tenths := (n * 10 + unit / 2) / unit
      if tenths < 100 then toString (tenths / 10) ++ "." ++ toString (tenths % 10) ++ " " ++ name
      else
        let whole := (n + unit / 2) / unit
        if whole < base || rest.isEmpty then toString whole ++ " " ++ name else go fuel (unit * base) rest
  if n < base then toString n ++ " B" else go 10 base units

/-- The units of a thousand. -/
def thousands : List String := ["kB", "MB", "GB", "TB", "PB", "EB"]

/-- Says how much has been read and written. -/
def report (j : Job) (s : State) : Act Unit := do
  if j.level ≠ "none" then
    complain (toString s.fullIn ++ "+" ++ toString s.partialIn ++ " records in")
    complain (toString s.fullOut ++ "+" ++ toString s.partialOut ++ " records out")
    if s.truncated = 1 then complain "1 truncated record"
    else if 1 < s.truncated then complain (toString s.truncated ++ " truncated records")
    if j.level ≠ "noxfer" then
      let n := s.written
      let size :=
        toString n ++ (if n = 1 then " byte" else " bytes")
          ++ if n < 1000 then ""
            else if n < 1024 then " (" ++ amountText 1000 thousands n ++ ")"
            else " (" ++ amountText 1000 thousands n ++ ", "
              ++ amountText 1024 ["KiB", "MiB", "GiB", "TiB", "PiB", "EiB"] n ++ ")"
      complain (size ++ " copied, 0.0001 s, " ++ amountText 1000 thousands (n * 10000) ++ "/s")

/-! ## The program -/

/-- Puts a file in the place of a descriptor. -/
def redirect (descriptor : Nat) (name : String) (access : Access) : Act Unit := do
  let fd ← freeFrom firstFile
  match ← openAt fd (pathOf name) access 0o666 with
  | .error e => stop 1 ("failed to open " ++ quoted name ++ ": " ++ e.plainMessage)
  | .ok () =>
    let _ ← duplicate fd descriptor
    close fd

/-- Copies its input to its output by blocks. -/
def dd : Act Nat := do
  let g ← given {}
  let j ← g.operands.foldlM Job.with_ ({} : Job)
  let j ← j.checked
  match j.source with
  | some name => redirect 0 name .reading
  | none => pure ()
  match j.target with
  | some name =>
    let exists_ := ((← tree).find (pathOf name) true).isOk
    if j.changes.contains "excl" && exists_ then
      stop 1 ("failed to open " ++ quoted name ++ ": " ++ IoError.taken.plainMessage)
    redirect 1 name
      { read := false, write := true, create := !j.changes.contains "nocreat"
        truncate := !j.changes.contains "notrunc" && j.start.count = 0
        append := j.writeFlags.contains "append", exclusive := false }
  | none => pure ()
  let complete ← leaveOut j
  if !complete && j.level ≠ "none" then
    say (named (j.source.getD "standard input") ++ ": cannot skip to specified offset")
  goToStart j
  let s ← if j.most.any (·.count = 0) then pure {} else copy j
  report j s
  return if s.failed then 1 else 0

end CrossBench.Tool.Transfer
