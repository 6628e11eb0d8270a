import CrossBench.Text.Layout
import CrossBench.Tool.List.Style
import CrossBench.Tool.Search

/-!
# How much room files take

A file takes the blocks that its bytes are kept in, and a directory its own and those of everything below
it. A file with several names is counted once.
-/

namespace CrossBench.Tool

open Shell Shell.Act

/-- What tells files apart that are to be counted once. -/
inductive Marked where
  | file (number : Nat)
  | place (l : Location)
  deriving DecidableEq

/-- How room is counted. -/
structure Measure where
  /-- The size of one node, without what is below it. -/
  size : Node → Nat
  /-- Whether a file with several names counts each time. -/
  everyName : Bool
  /-- Whether everything is remembered, not only files with several names. -/
  remembersAll : Bool
  /-- Whether links are followed below the files of the call. -/
  follows : Bool
  /-- Whether a directory's sum leaves out the directories below it. -/
  separate : Bool
  /-- Whether a path is left out. -/
  isLeftOut : String → Bool

/-- What a file takes, and when anything in it was last changed. -/
structure Room where
  size : Nat
  latest : Instant
  deriving Inhabited

namespace Room

/-- The room of two files together. -/
def add (a b : Room) : Room := ⟨a.size + b.size, if b.latest.later a.latest then b.latest else a.latest⟩

end Room

/-- One line about room: how deep the file is, whether it is a directory, its room, and its path. There is
no room in a complaint. -/
structure RoomLine where
  depth : Nat
  isDirectory : Bool
  room : Option Room
  path : String
  why : String := ""

/-- What has been counted, in three sums: what the file itself takes with the files in it, what the
directories below it take, and everything. -/
structure Sum where
  own : Room
  below : Room
  whole : Nat
  seen : List Marked
  /-- The lines, the last first. -/
  lines : List RoomLine

/-- Counts what is at a path and below it. -/
def Measure.count (m : Measure) (t : Tree) : Nat → Nat → Bool → String → List Marked →
    Option Sum × List Marked
  | 0, _, _, _, seen => (none, seen)
  | fuel + 1, depth, follow, path, seen =>
    match t.find (pathOf path) follow, t.locate (pathOf path) follow with
    | .error e, _ | _, .error e =>
      (some ⟨⟨0, default⟩, ⟨0, default⟩, 0, seen,
        [⟨depth, false, none, path, "cannot access " ++ quoted path ++ ": " ++ e.plainMessage⟩]⟩, seen)
    | .ok node, .ok location =>
      let mark : Marked :=
        match node with
        | .file number => .file number
        | _ => .place location
      let remembered := !m.everyName &&
        (m.remembersAll || (!node.isDirectory && 1 < t.disk.linkCount node))
      if m.isLeftOut path || (remembered && seen.contains mark) then (none, seen)
      else
        let seen := if remembered then mark :: seen else seen
        let closed := node.isDirectory && !t.allows node 4
        let self : Room := ⟨m.size node, t.disk.modified node⟩
        let start : Sum := ⟨self, ⟨0, self.latest⟩, self.size, seen, []⟩
        let sum := (if closed then [] else node.entries).foldl (fun (sum : Sum) e =>
          match m.count t fuel (depth + 1) m.follows (pathIn path (ofBytes e.1)) sum.seen with
          | (none, seen) => { sum with seen }
          | (some s, seen) =>
            let inner := s.own.add s.below
            let sum := { sum with seen, whole := sum.whole + s.whole, lines := s.lines ++ sum.lines }
            if e.2.isDirectory then
              { sum with below := sum.below.add inner }
            else { sum with own := sum.own.add inner }) start
        let shown := if m.separate then sum.own else sum.own.add sum.below
        let lines :=
          if closed then
            ⟨depth, true, none, path,
              "cannot read directory " ++ quoted path ++ ": " ++ IoError.denied.plainMessage⟩ :: sum.lines
          else sum.lines
        (some { sum with lines := ⟨depth, node.isDirectory, some shown, path, ""⟩ :: lines }, sum.seen)

/-- Whether a pattern fits a path, or what is left of it behind one of its slashes. -/
def fitsSomewhere (pattern path : String) : Bool :=
  let rec go : List Char → Bool
    | [] => false
    | '/' :: rest =>
      (rest.head?.any (· != '/') && fitsPattern pattern (String.ofList rest)) || go rest
    | _ :: rest => go rest
  fitsPattern pattern path || go path.toList

/-- The unit in which room is shown, and the base if the unit depends on the size. -/
inductive RoomUnit where
  | fitting (base : Nat)
  | fixed (size : Nat) (behind : String)

namespace RoomUnit

/-- A size in a unit, rounded up. -/
def text (u : RoomUnit) (n : Nat) : String :=
  match u with
  | .fitting base => humanSize base n
  | .fixed size behind => toString ((n + size - 1) / size) ++ behind

/-- The unit that a text names. -/
def ofText? (text : String) : Option RoomUnit :=
  match (if text.startsWith "'" then (text.drop 1).toString else text) with
  | "human-readable" => some (.fitting 1024)
  | "si" => some (.fitting 1000)
  | t => (blockSize? t).map fun (size, behind) => .fixed size behind

end RoomUnit

/-- Refuses a number behind an option. -/
def refuseNumber {α : Type} (status : Nat) (option text : String) : Act α := do
  let digits := text.toList.takeWhile Char.isDigit
  let tooLong := 9223372036854775807 < digits.foldl (fun n c => n * 10 + (c.toNat - 48)) 0
  if digits.isEmpty || digits.all (· == '0') then
    stop status ("invalid " ++ option ++ " argument '" ++ text ++ "'")
  else if tooLong then stop status (option ++ " argument '" ++ text ++ "' too large")
  else stop status ("invalid suffix in " ++ option ++ " argument '" ++ text ++ "'")

/-- The options of `du`. -/
def usageGrammar : Grammar where
  letters := "abchHklmsxDLPS0"
  valued := "dtBX"
  words :=
    [("all", "a"), ("bytes", "b"), ("total", "c"), ("human-readable", "h"), ("count-links", "l"),
      ("summarize", "s"), ("apparent-size", "apparent-size"), ("si", "si"), ("null", "0"),
      ("dereference", "L"), ("dereference-args", "D"), ("no-dereference", "P"),
      ("one-file-system", "x"), ("separate-dirs", "S"), ("inodes", "inodes")]
  valuedWords :=
    [("max-depth", "d"), ("exclude", "exclude"), ("block-size", "block-size"), ("threshold", "threshold"),
      ("exclude-from", "X"), ("files0-from", "files0"), ("time-style", "time-style")]
  freeWords := [("time", "time")]

/-- The unit that a call of `du` asks for. -/
def roomUnit (g : Given) : Act RoomUnit := do
  let mut unit ← usual
  for (option, value) in g.options do
    match option with
    | "b" => unit := .fixed 1 ""
    | "k" => unit := .fixed 1024 ""
    | "m" => unit := .fixed 1048576 ""
    | "h" => unit := .fitting 1024
    | "si" => unit := .fitting 1000
    | "inodes" => unit := .fixed 1 ""
    | "B" | "block-size" =>
      match RoomUnit.ofText? value with
      | some u => unit := u
      | none => refuseNumber 1 (if option = "B" then "-B" else "--block-size") value
    | _ => pure ()
  return unit
where
  /-- The unit that the environment asks for. -/
  usual : Act RoomUnit := do
    let du ← parameter? "DU_BLOCK_SIZE"
    let any ← parameter? "BLOCK_SIZE"
    let old ← parameter? "BLOCKSIZE"
    let strict ← parameter? "POSIXLY_CORRECT"
    match du.orElse fun _ => any.orElse fun _ => old with
    | some text => return (RoomUnit.ofText? text).getD (.fixed 1024 "")
    | none => return .fixed (if strict.isSome then 512 else 1024) ""

/-- The least size of what is shown, or the greatest if it is negative. -/
def thresholdOf (g : Given) : Act (Option Int) := do
  let mut least : Option Int := none
  for (option, value) in g.options do
    if option = "t" || option = "threshold" then
      let sign := value.startsWith "-"
      let digits := if sign || value.startsWith "+" then (value.drop 1).toString else value
      match scaled? "kKmMGTPEZY" digits with
      | none => refuseNumber 1 (if option = "t" then "-t" else "--threshold") value
      | some n =>
        if 9223372036854775807 < n then
          stop 1 ((if option = "t" then "-t" else "--threshold") ++ " argument '" ++ value ++ "' too large")
        if n = 0 && sign then stop 1 "invalid --threshold argument '-0'"
        least := some (if sign then -(n : Int) else n)
  return least

/-- The form in which times are shown, if they are. -/
def roomTime (g : Given) : Act (Option String) := do
  for v in g.values "time" do
    if v ≠ "" then
      let _ ← wordGiven "--time" v ["atime|access|use", "ctime|status"]
  if !g.has "time" then return none
  else
    let usual := (← parameter? "TIME_STYLE").filter fun s => s ≠ "locale"
    let style := ((g.value? "time-style").orElse fun _ => usual).getD "long-iso"
    if style.startsWith "+" then return some (style.drop 1).toString
    else
      match ← wordGiven "time style" style ["full-iso", "long-iso", "iso"] with
      | "full-iso" => return some "%Y-%m-%d %H:%M:%S.%N %z"
      | "iso" => return some "%Y-%m-%d"
      | _ => return some "%Y-%m-%d %H:%M"

/-- How deep the files are that lines are about. -/
def roomDepth (g : Given) : Act (Option Nat) := do
  let wrong (v : String) : Bool := (decimal? (if v.startsWith "+" then (v.drop 1).toString else v)).isNone
  let bad := (g.values "d").filter fun v => wrong v
  for v in bad do say ("invalid maximum depth " ++ cited v)
  if !bad.isEmpty then giveHint 1
  let depth := (g.value? "d").bind decimal?
  if g.has "a" && g.has "s" then misuse 1 "cannot both summarize and show all entries"
  match g.has "s", depth with
  | true, some 0 => say "warning: summarizing is the same as using --max-depth=0"
  | true, some n => misuse 1 ("warning: summarizing conflicts with --max-depth=" ++ toString n)
  | _, _ => pure ()
  return if g.has "s" then some 0 else depth

/-- The patterns of what is left out. -/
def leftOutPatterns (g : Given) : Act (List String) := do
  let others ← (g.values "X").flatMapM fun name => do
    match ← contents name with
    | .ok bytes => return ((linesBy '\n' (charsOf bytes)).map String.ofList).filter (· ≠ "")
    | .error e => misuse 1 (named name ++ ": " ++ e.plainMessage)
  return g.values "exclude" ++ others

/-- The files of a call, and where their names come from if that is a file. -/
def measuredFiles (g : Given) : Act (List String × Option String) := do
  match g.value? "files0", g.operands with
  | none, [] => return (["."], none)
  | none, files => return (files, none)
  | some _, extra :: _ =>
    say ("extra operand " ++ cited extra)
    complain "file operands cannot be combined with --files0-from"
    giveHint 1
  | some source, [] =>
    match ← contents source with
    | .ok bytes => return ((linesBy '\x00' (charsOf bytes)).map String.ofList, some source)
    | .error e => stop 1 ("cannot open " ++ quoted source ++ " for reading: " ++ e.plainMessage)

/-- Says how much room files take. -/
def du : Act Nat := do
  let g ← given usageGrammar
  let unit ← roomUnit g
  let threshold ← thresholdOf g
  let form ← roomTime g
  let patterns ← leftOutPatterns g
  let depth ← roomDepth g
  let apparent := g.hasAny "b" || g.has "apparent-size"
  if g.has "inodes" && apparent then
    say "warning: options --apparent-size and -b are ineffective with --inodes"
  let (files, source) ← measuredFiles g
  let t ← tree
  let zone := (← get).zone
  let way := g.last? "DHLP"
  let m : Measure :=
    { size := fun node =>
        if g.has "inodes" then 1
        else if apparent then sizeOf t.disk node
        else blocksOf t.disk node * 1024
      everyName := g.has "l"
      remembersAll := 1 < g.operands.length || way == some 'L'
      follows := way == some 'L'
      separate := g.has "S"
      isLeftOut := fun path => patterns.any (fitsSomewhere · path) }
  let ending := if g.has "0" then "\x00" else "\n"
  let line (room : Room) (name : String) : String :=
    unit.text room.size ++ (form.elim "" fun f => "\t" ++ Calendar.text zone room.latest f)
      ++ "\t" ++ name ++ ending
  let isShown (l : RoomLine) (room : Room) : Bool :=
    (l.depth = 0 || ((l.isDirectory || g.has "a") && depth.all (l.depth ≤ ·))) &&
      threshold.all fun n => if n < 0 then (room.size : Int) ≤ -n else n ≤ room.size
  let (status, total, _) ← files.zipIdx.foldlM (fun (status, total, seen) (file, i) => do
    if file = "" then
      say ((source.elim "" fun s => named s ++ ":" ++ toString (i + 1) ++ ": ") ++ "invalid zero-length file name")
      return (1, total, seen)
    else if file = "-" && source = some "-" then
      say ("when reading file names from stdin, no file name of " ++ quoted file ++ " allowed")
      return (1, total, seen)
    else
      match m.count t depthLimit 0 (way.any (· != 'P')) file seen with
      | (none, seen) => return (status, total, seen)
      | (some sum, seen) =>
        let status ← sum.lines.reverse.foldlM (fun status l => do
          match l.room with
          | some room =>
            if isShown l room then out (line room l.path)
            return status
          | none =>
            say l.why
            return 1) status
        return (status, total.add ⟨sum.whole, (sum.own.add sum.below).latest⟩, seen))
    ((0, ⟨0, ⟨0, 0⟩⟩, []) : Nat × Room × List Marked)
  if g.has "c" then out (line total "total")
  return status

end CrossBench.Tool
