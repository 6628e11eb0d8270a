import CrossBench.Shell.Print.Format
import CrossBench.Tool.Input
import CrossBench.Tool.Name

/-!
# Comparing bytes

`cmp` finds the first byte in which two files differ, or all of them. The files are read block by block,
as one of them may have no end.
-/

namespace CrossBench.Tool.Compare

open Shell Shell.Act

/-- What is told of differences. -/
inductive Detail where
  /-- The place of the first one. -/
  | first
  /-- All of them. -/
  | all
  /-- Nothing but the exit code. -/
  | status
  deriving DecidableEq

/-- How two files are compared. -/
structure Plan where
  names : String × String
  detail : Detail
  /-- Whether the bytes themselves are shown. -/
  shown : Bool
  /-- The width of the places of bytes. -/
  width : Nat
  /-- Whether places are counted in bytes by name. -/
  local_ : Bool
  /-- Whether lines are counted. -/
  lines : Bool

/-- A byte in octal digits. -/
def octal (b : UInt8) : String :=
  let ds := Nat.toDigits 8 b.toNat
  String.ofList (List.replicate (3 - ds.length) ' ' ++ ds)

/-- A byte as something that can be seen. -/
def visible (b : UInt8) : String :=
  let plain (b : UInt8) : String :=
    if b < 32 then "^" ++ String.singleton (Char.ofNat (b.toNat + 64))
    else if b = 127 then "^?"
    else String.singleton (Char.ofNat b.toNat)
  if 128 ≤ b then "M-" ++ plain (b - 128) else plain b

/-- A text with blanks in front. -/
def right (width : Nat) (s : String) : String := String.ofList (List.replicate (width - s.length) ' ') ++ s

/-- A text with blanks behind it. -/
def left (width : Nat) (s : String) : String := s ++ String.ofList (List.replicate (width - s.length) ' ')

/-- Reads a block as a whole, unless the file ends. -/
def readBlock (fd size : Nat) : Act (Except IoError ByteArray) :=
  repeating ByteArray.empty fun taken => do
    if size ≤ taken.size then return .inr (.ok taken)
    match ← readSome fd (size - taken.size) with
    | .error e => return .inr (.error e)
    | .ok bytes => return if bytes.isEmpty then .inr (.ok taken) else .inl (taken ++ bytes)

/-- The first place at which bytes differ. -/
def firstDifference (a b : ByteArray) : Nat → Nat → Nat
  | 0, i => i
  | fuel + 1, i =>
    if i < a.size && i < b.size && a.data[i]? = b.data[i]? then firstDifference a b fuel (i + 1) else i

/-- How many lines end in bytes. -/
def lineEnds (bytes : ByteArray) : Nat := bytes.foldl (fun n b => if b = 10 then n + 1 else n) 0

/-- How far a comparison has come. -/
structure State where
  /-- How many bytes have been compared. -/
  bytes : Nat := 0
  /-- How many lines have ended. -/
  lines : Nat := 0
  atLineStart : Bool := true
  different : Bool := false
  /-- What is still to be written. -/
  pending : String := ""

/-- How much is written at once. -/
def chunk : Nat := 4096

/-- Writes what has been found; nobody may be there to read it. -/
def tell (text : String) : Act Unit := do
  match ← writeText 1 text with
  | .ok () => return ()
  | .error .badDescriptor => return ()
  | .error e => stop 2 ("standard output: " ++ e.plainMessage)

/-- Writes the full chunks of what is to be written. -/
def State.flushFull (s : State) : Act State := do
  let full := s.pending.length / chunk * chunk
  if full = 0 then return s
  tell (String.ofList (s.pending.toList.take full))
  return { s with pending := String.ofList (s.pending.toList.drop full) }

/-- The places in a block at which bytes differ. -/
def tellBlock (p : Plan) (s : State) (a b : ByteArray) (start common : Nat) : String :=
  String.join ((List.range (common - start)).map fun i =>
    let x := a.data.getD (start + i) 0
    let y := b.data.getD (start + i) 0
    if x = y then ""
    else
      right p.width (toString (s.bytes + start + i + 1)) ++ " " ++ octal x ++ " "
        ++ (if p.shown then left 4 (visible x) ++ " " else "") ++ octal y
        ++ (if p.shown then " " ++ visible y else "") ++ "\n")

/-- What is said when a file ends before the other one. -/
def endedText (p : Plan) (s : State) (name : String) : String :=
  let front := "EOF on " ++ name
  if s.bytes = 0 then front ++ " which is empty"
  else
    let front := front ++ " after byte " ++ toString s.bytes
    if p.detail = .all || !p.lines then front
    else if s.atLineStart then front ++ ", line " ++ toString s.lines
    else front ++ ", in line " ++ toString (s.lines + 1)

/-- Compares open files; the exit code. -/
def files (p : Plan) (first second : Nat) (limit : Option Nat) : Act Nat :=
  repeating (({} : State), limit) fun (s, limit) => do
    let size := (limit.map (min chunk)).getD chunk
    let read (fd : Nat) (name : String) : Act ByteArray := do
      match ← readBlock fd size with
      | .ok bytes => return bytes
      | .error e =>
        tell s.pending
        stop 2 (name ++ ": " ++ e.plainMessage)
    let a ← read first p.names.1
    let b ← read second p.names.2
    let common := min a.size b.size
    let place := firstDifference a b (common + 1) 0
    if place < common && p.detail ≠ .all then
      let x := a.data.getD place 0
      let y := b.data.getD place 0
      let where_ := toString (s.bytes + place + 1) ++ ", line "
        ++ toString (s.lines + lineEnds (a.extract 0 place) + 1)
      unless p.detail = .status do
        tell (p.names.1 ++ " " ++ p.names.2 ++ " differ: " ++
          (if p.shown then
            "byte " ++ where_ ++ " is " ++ octal x ++ " " ++ visible x ++ " " ++ octal y ++ " " ++ visible y
          else (if p.local_ then "byte " else "char ") ++ where_) ++ "\n")
      return .inr 1
    else
      let text := if place < common then tellBlock p s a b place common else ""
      let s ← State.flushFull { s with
        bytes := s.bytes + common
        lines := s.lines + lineEnds (a.extract 0 common)
        atLineStart := if common = 0 then s.atLineStart else a.data[common - 1]? = some 10
        different := s.different || place < common
        pending := s.pending ++ text }
      if a.size ≠ b.size then
        unless p.detail = .status do
          say (endedText p s (if b.size < a.size then p.names.2 else p.names.1))
        tell s.pending
        return .inr 1
      else if a.size < size || limit = some size || size = 0 then
        tell s.pending
        return .inr (if s.different then 1 else 0)
      else return .inl (s, limit.map (· - size))

/-- The number of bytes that a text says, with a letter or a base of its own. -/
def amount? (text : String) : Option Nat :=
  let cs := text.toList
  let (base, digits) : Nat × List Char :=
    match cs with
    | '0' :: x :: rest => if x = 'x' || x = 'X' then (16, rest) else (8, cs)
    | _ => (10, cs)
  let isDigit (c : Char) : Bool :=
    if base = 8 then '0' ≤ c && c ≤ '7'
    else c.isDigit || (base = 16 && 'a' ≤ c.toLower && c.toLower ≤ 'f')
  let own := digits.takeWhile isDigit
  let value := own.foldl (fun n c =>
    n * base + (if c.isDigit then c.toNat - 48 else c.toLower.toNat - 87)) 0
  let unit? : Option Nat :=
    match digits.drop own.length with
    | [] => some 1
    | c :: rest =>
      let letters := ['k', 'M', 'G', 'T', 'P', 'E', 'Z', 'Y']
      match letters.findIdx? fun l => l = (if c = 'K' then 'k' else c) with
      | none => none
      | some i =>
        if rest = [] || rest = ['i', 'B'] then some (Nat.pow 1024 (i + 1))
        else if rest = ['B'] then some (Nat.pow 1000 (i + 1))
        else none
  match own, unit? with
  | [], _ => none
  | _, none => none
  | _, some unit => if value * unit < 18446744073709551615 then some (value * unit) else none

/-- Compares two files byte by byte. -/
def cmp : Act Nat := do
  let g ← given
    { letters := "bclsv", valued := "in", usage := 2, signed := true, edition := "GNU diffutils) 3.8"
      words := [("print-bytes", "b"), ("print-chars", "c"), ("verbose", "l"), ("quiet", "s"), ("silent", "s")]
      valuedWords := [("ignore-initial", "i"), ("bytes", "n")] }
  let session ← get
  let title := session.title
  let refuse {α : Type} (why : String) : Act α := do
    say why
    giveSignedHint 2
  if g.has "v" then
    out (title ++ " (GNU diffutils) 3.8\n")
    gone 0
  let amount (text : String) : Act Nat := do
    match amount? text with
    | some n => return n
    | none => refuse ("invalid --ignore-initial value '" ++ text ++ "'")
  let (skip, skipToo) ← (g.values "i").foldlM (fun (n, m) (text : String) => do
    match text.splitOn ":" with
    | [] => return (n, m)
    | [a] =>
      let a ← amount a
      return (max n a, max m (max n a))
    | a :: rest =>
      let a ← amount a
      let b ← amount (":".intercalate rest)
      return (max n a, max m b)) (0, 0)
  let limit ← (g.values "n").foldlM (fun (limit : Option Nat) text => do
    match amount? text with
    | some n => return some ((limit.map (min n)).getD n)
    | none => refuse ("invalid --bytes value '" ++ text ++ "'")) none
  if g.has "l" && g.has "s" then refuse "options -l and -s are incompatible"
  let (a, b, rest) ←
    match g.operands with
    | [] => refuse ("missing operand after '" ++ session.arguments.getLastD title ++ "'")
    | [a] => pure (a, "-", [])
    | a :: b :: rest => pure (a, b, rest)
  let skip ← match rest[0]? with
    | some text => do pure (max skip (← amount text))
    | none => pure skip
  let skipToo ← match rest[1]? with
    | some text => do pure (max skipToo (← amount text))
    | none => pure skipToo
  if let some extra := rest[2]? then refuse ("extra operand '" ++ extra ++ "'")
  let open_ (name : String) : Act Nat := do
    match ← openInput name with
    | .ok fd =>
      unless ← isOpen fd do
        stop 2 (name ++ ": " ++ IoError.badDescriptor.plainMessage)
      return fd
    | .error e => if g.has "s" then gone 2 else stop 2 (name ++ ": " ++ e.plainMessage)
  let first ← open_ a
  if a = b && skip = skipToo then return 0
  let second ← open_ b
  let t ← tree
  let position (fd : Nat) : Act Nat := look fun pid k => ((k.opened? pid fd).map (·.2.position)).getD 0
  let place ← position first
  let placeToo ← position second
  let channelOf (fd : Nat) : Act (Option (Nat × OpenFile)) := look fun pid k => k.opened? pid fd
  let x ← channelOf first
  let y ← channelOf second
  let same := x.any fun x => y.any fun y =>
    x.2.channel = y.2.channel && (match x.2.channel with | .pipe _ => false | _ => true)
  if same && place + skip = placeToo + skipToo then return 0
  let left_ (f : Option (Nat × OpenFile)) (skip : Nat) : Option Nat :=
    match f with
    | some (_, f) =>
      match f.channel with
      | .file n => some ((t.disk.record n).data.size - f.position - skip)
      | _ => none
    | none => none
  let room := [left_ x skip, left_ y skipToo, limit].filterMap id
  let most := room.foldl min (room.headD 9223372036854775807)
  if g.has "s" then
    match left_ x skip, left_ y skipToo with
    | some n, some m => if n ≠ m && limit.all (min n m < ·) then gone 1
    | _, _ => pure ()
  let nowhere ← look fun pid k => (k.opened? pid 1).any fun f => f.2.channel matches .device .null
  let plan : Plan :=
    { names := (a, b)
      detail := if g.has "s" then .status else if g.has "l" then .all else .first
      shown := g.hasAny "bc", width := (toString most).length
      local_ := session.isWide
      lines := !nowhere }
  let drop (fd n : Nat) (name : String) : Act Unit := do
    match ← readBlock fd n with
    | .ok _ => return ()
    | .error e => stop 2 (name ++ ": " ++ e.plainMessage)
  let _ ← drop first skip a
  let _ ← drop second skipToo b
  files plan first second limit

end CrossBench.Tool.Compare
