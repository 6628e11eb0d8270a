import CrossBench.Text.Layout
import CrossBench.Text.Version
import CrossBench.Tool.List.Style
import CrossBench.Tool.Name

/-!
# Listing files

`ls` lists the files that it is given, and what is in directories. `dir` and `vdir` do so in columns, or
with all that is known of files.

Files are put in order, and their names and what is known of them into rows: one file a row, or as many
as have room in one.
-/

namespace CrossBench.Tool

open Shell Shell.Act

/-! ## Files of a listing -/

/-- A file to be listed, under the name that is shown. -/
structure Listed where
  name : String
  path : String
  node : Node
  /-- Where it leads, if it is a link that leads somewhere. -/
  leadsTo : Option Node

/-- A listing of a tree: its style, and what it depends on besides. -/
structure Listing where
  style : ListingStyle
  now : Instant
  zone : Zone
  tree : Tree
  /-- Whether a character may take several bytes. -/
  wide : Bool

namespace Listing

/-- The node that is told of. -/
def shownNode (l : Listing) (f : Listed) : Node :=
  if l.style.followsAll then f.leadsTo.getD f.node else f.node

/-- The mark behind a name for the kind of file. -/
def mark (l : Listing) (node : Node) : String :=
  let n := l.style.marks
  match node with
  | .directory .. => if 1 ≤ n then "/" else ""
  | .link .. => if 2 ≤ n then "@" else ""
  | .fifo .. => if 2 ≤ n then "|" else ""
  | .file _ => if n = 3 && l.tree.disk.runnable node then "*" else ""
  | .device .. => ""

/-! ## Names -/

/-- A name with escapes, in which some characters get a backslash. -/
def escaped (wide : Bool) (special : List Char) (s : String) : String :=
  String.join ((Letters.units s.toList).map fun unit =>
    match unit with
    | [c] =>
      if c = '\\' then "\\\\"
      else if special.contains c then "\\" ++ String.singleton c
      else if Quoting.isPrintable c then String.singleton c
      else Quoting.controlText c
    | unit =>
      if wide && Letters.isPrintable unit then String.ofList unit
      else String.join (unit.map Quoting.controlText))

/-- A name in quotes in which nothing is escaped but quotes. -/
def plainQuotes (always : Bool) (s : String) : String :=
  let special := named s ≠ s && s.toList.any fun c => !c.isAlphanum
  if !always && !special then s
  else if s.toList.contains '\'' && !s.toList.any fun c => "\"\\$\x60".toList.contains c then "\"" ++ s ++ "\""
  else "'" ++ s.replace "'" "'\\''" ++ "'"

/-- A name in which what cannot be printed is a question mark. -/
def questioned (l : Listing) (s : String) : String :=
  if !l.style.questions then s
  else
    String.join ((Letters.units s.toList).map fun unit =>
      match unit with
      | [c] => if Quoting.isPrintable c then String.singleton c else "?"
      | unit =>
        if !l.wide then "".pushn '?' unit.length
        else if Letters.isPrintable unit then String.ofList unit
        else "?")

/-- A name as it is shown. -/
def nameText (l : Listing) (name : String) : String :=
  match l.style.quotes with
  | .literal => l.questioned name
  | .shell => l.questioned (plainQuotes false name)
  | .shellAlways => l.questioned (plainQuotes true name)
  | .shellEscape => named name
  | .shellEscapeAlways => quoted name
  | .c => "\"" ++ escaped l.wide ['"'] name ++ "\""
  | .cMaybe =>
    let text := escaped l.wide ['"'] name
    if text = name then name else "\"" ++ text ++ "\""
  | .escape => escaped l.wide [' '] name
  | .locale =>
    let mark (code : Nat) : String := String.ofList (Letters.encoded code)
    if l.wide then mark 0x2018 ++ escaped l.wide [] name ++ mark 0x2019
    else "'" ++ escaped l.wide ['\''] name ++ "'"

/-- How many columns a text takes. -/
def columns (l : Listing) (s : String) : Nat := Letters.width l.wide s

/-- A text at the right of a field. -/
def rightIn (width : Nat) (s : String) : String := "".pushn ' ' (width - s.length) ++ s

/-! ## Numbers and times -/

/-- A size in a unit, rounded up. -/
def sizeText (base : Nat) (unit : Option (Nat × String)) (n : Nat) : String :=
  match unit with
  | none => humanSize base n
  | some (size, suffix) => toString ((n + size - 1) / size) ++ suffix

/-- The size of a file as it is shown. -/
def bytesText (l : Listing) (n : Nat) : String := sizeText l.style.base l.style.sizeUnit n

/-- How many blocks of 1024 bytes a file takes, as it is shown. -/
def blockText (l : Listing) (blocks : Nat) : String :=
  sizeText l.style.base l.style.blockUnit (blocks * 1024)

/-- A time as it is shown. -/
def timeText (l : Listing) (t : Instant) : String :=
  let recent := !t.later l.now && decide (l.now.seconds - 15778476 < t.seconds)
  let (near, far) := l.style.timeForms.getD ("%b %e %H:%M", "%b %e  %Y")
  Calendar.text l.zone t (if recent then near else far)

/-! ## Order -/

/-- Whether one file is listed in front of another. -/
def before (l : Listing) (a b : Listed) : Bool :=
  let disk := l.tree.disk
  let byName : Ordering := compareOfLessAndEq a.name.toList b.name.toList
  let order : Ordering :=
    match l.style.rank with
    | .time =>
      let x := disk.modified (l.shownNode a)
      let y := disk.modified (l.shownNode b)
      if x.later y then .lt else if y.later x then .gt else .eq
    | .size => compare (sizeOf disk (l.shownNode b)) (sizeOf disk (l.shownNode a))
    | .extension =>
      let ending (f : Listed) : List Char :=
        let r := f.name.toList.reverse
        if r.contains '.' then '.' :: (r.takeWhile (· != '.')).reverse else []
      compareOfLessAndEq (ending a) (ending b)
    | .version => Version.order a.name.toList b.name.toList
    | .width => compare (l.columns (l.nameText a.name)) (l.columns (l.nameText b.name))
    | _ => .eq
  let directory (f : Listed) : Ordering :=
    if (f.leadsTo.getD f.node).isDirectory then .lt else .gt
  let kinds : Ordering :=
    if !l.style.directoriesFirst then .eq
    else if directory a = directory b then .eq
    else directory a
  let own := order.then byName
  (kinds.then (if l.style.reversed then own.swap else own)) != .gt

/-- Files in the order in which they are listed. -/
def sorted (l : Listing) (files : List Listed) : List Listed :=
  if l.style.rank = .none then files else files.mergeSort l.before

/-! ## Rows -/

/-- The width of a column. -/
def widest (cells : List String) : Nat := cells.foldl (fun w c => max w c.length) 0

/-- The rows of files with all that is known of them; the columns are wide enough for others too. -/
def longRows (l : Listing) (others files : List Listed) : List String :=
  let disk := l.tree.disk
  let all := files ++ others
  let size (f : Listed) : String :=
    match l.shownNode f with
    | .device .. => "1, 3"
    | node => l.bytesText (sizeOf disk node)
  let links (f : Listed) : String := toString (disk.linkCount (l.shownNode f))
  let serial (f : Listed) : String := toString (serialOf l.tree f.path (l.shownNode f))
  let blocks (f : Listed) : String := l.blockText (blocksOf disk (l.shownNode f))
  let column (text : Listed → String) : Nat := widest (all.map text)
  let linkWidth := column links
  let sizeWidth := column size
  let serialWidth := column serial
  let blockWidth := column blocks
  let owner := if l.style.numbers then "0 " else "root "
  files.map fun f =>
    let node := l.shownNode f
    let name := l.nameText f.name
    let name :=
      match node with
      | .link target _ =>
        name ++ " -> " ++ l.nameText (ofBytes target.bytes) ++
          (match f.leadsTo with
            | some n => if n.isLink then "" else l.mark n
            | none => "")
      | node => name ++ l.mark node
    (if l.style.serials then rightIn serialWidth (serial f) ++ " " else "")
      ++ (if l.style.blocks then rightIn blockWidth (blocks f) ++ " " else "")
      ++ modeText disk node ++ " " ++ rightIn linkWidth (links f) ++ " "
      ++ (if l.style.owner then owner else "") ++ (if l.style.group then owner else "")
      ++ (if l.style.author then owner else "") ++ (if l.style.context then "? " else "")
      ++ rightIn sizeWidth (size f) ++ " " ++ l.timeText (disk.modified node) ++ " " ++ name

/-- The gap between two places of a row, of tabs as far as possible. -/
def gap (tab : Nat) : Nat → Nat → Nat → String
  | 0, _, _ => ""
  | fuel + 1, start, stop =>
    if stop ≤ start then ""
    else if 0 < tab && (start + 1) / tab < stop / tab then "\t" ++ gap tab fuel (start + (tab - start % tab)) stop
    else " " ++ gap tab fuel (start + 1) stop

/-- The widths of columns of cells in so many columns, of which each has room for at least three
characters; between two columns there are two blanks. -/
def columnWidths (widths : List Nat) (across : Bool) (count : Nat) : List Nat :=
  let rows := (widths.length + count - 1) / count
  let start := Array.replicate count 3
  ((widths.zipIdx).foldl (fun (ws : Array Nat) (w, i) =>
    let c := if across then i % count else i / rows
    let need := w + if c + 1 = count then 0 else 2
    ws.modify c (max · need)) start).toList

/-- Cells in columns, from top to bottom or from left to right. -/
def inColumns (l : Listing) (across : Bool) (cells : List String) : List String :=
  let n := cells.length
  let widths := cells.map l.columns
  let room := l.style.width / 3 + (if l.style.width % 3 = 0 then 0 else 1)
  let most := if 0 < room && room < n then room else n
  let fits (count : Nat) : Bool :=
    (columnWidths widths across count).foldl (· + ·) 0 < l.style.width
  let count := ((List.range most).reverse.map (· + 1)).find? (fun c => c = 1 || fits c) |>.getD 1
  let rows := (n + count - 1) / count
  let ws := columnWidths widths across count
  (List.range rows).map fun r =>
    let row := (List.range count).filterMap fun c =>
      cells[if across then r * count + c else c * rows + r]?
    let (text, _) := (row.zipIdx).foldl (fun ((text, place) : String × Nat) (cell, c) =>
      if c + 1 = row.length then (text ++ cell, place)
      else
        let next := place + ws.getD c 0
        let stop := place + l.columns cell
        (text ++ cell ++ gap l.style.tab (next - stop) stop next, next)) ("", 0)
    text

/-- Cells one after the other with a sign between them, in rows of some width or in one row. -/
def inRows (l : Listing) (sign : String) (cells : List String) : List String :=
  let (rows, row, _) := cells.foldl (fun ((rows, row, place) : List String × String × Nat) cell =>
    let size := l.columns cell
    if row = "" && rows = [] then (rows, cell, size)
    else if l.style.width = 0 || place + size + 2 < l.style.width then
      (rows, row ++ sign ++ " " ++ cell, place + 2 + size)
    else ((row ++ sign) :: rows, cell, size)) ([], "", 0)
  (row :: rows).reverse

/-- The rows of files, with columns that are wide enough for others too. -/
def rows (l : Listing) (others files : List Listed) : List String :=
  let disk := l.tree.disk
  if files.isEmpty then []
  else if l.style.arrangement = .long then l.longRows others files
  else
    let serial (f : Listed) : String := toString (serialOf l.tree f.path f.node)
    let blocks (f : Listed) : String := l.blockText (blocksOf disk (l.shownNode f))
    let loose := l.style.arrangement = .commas
    let column (text : Listed → String) : Nat :=
      if loose then 0 else widest ((files ++ others).map text)
    let serialWidth := column serial
    let blockWidth := column blocks
    let front (f : Listed) : String :=
      (if l.style.serials then rightIn serialWidth (serial f) ++ " " else "")
        ++ (if l.style.blocks then rightIn blockWidth (blocks f) ++ " " else "")
        ++ (if l.style.context then "? " else "")
    let names := files.map fun f => (f, l.nameText f.name)
    let aligned := (l.style.arrangement = .columns || l.style.arrangement = .across) &&
      [NameQuotes.shell, .shellEscape, .cMaybe].contains l.style.quotes &&
      names.any fun (f, text) => text ≠ f.name
    let cells := names.map fun (f, text) =>
      front f ++ (if aligned && text = f.name then " " else "") ++ text ++ l.mark (l.shownNode f)
    match l.style.arrangement with
    | .columns => if l.style.width = 0 then l.inRows " " cells else l.inColumns false cells
    | .across => if l.style.width = 0 then l.inRows " " cells else l.inColumns true cells
    | .commas => l.inRows "," cells
    | _ => cells

end Listing

/-! ## Files and directories -/

namespace Listing

/-- A file as it is listed. -/
def listed (l : Listing) (name path : String) (node : Node) : Listed :=
  ⟨name, path, node, if node.isLink then (l.tree.find (pathOf path) true).toOption else none⟩

/-- The files in a directory that are listed. -/
def members (l : Listing) (path : String) (es : List (FileName × Node)) : List Listed :=
  let dots : List Listed := [".", ".."].filterMap fun n =>
    if l.style.omits n then none
    else ((l.tree.find (pathOf (pathIn path n)) true).toOption).map fun node => ⟨n, pathIn path n, node, none⟩
  dots ++ (es.filter fun e => !l.style.omits (ofBytes e.1)).map fun e =>
    l.listed (ofBytes e.1) (pathIn path (ofBytes e.1)) e.2

/-- The rows for a directory, and for those below it if they are asked for. A directory that may not
be read is told by its path alone. -/
def directoryRows (l : Listing) (headed : Bool) : Nat → String → Node → List (Except String (List String))
  | 0, _, _ => []
  | depth + 1, path, node =>
    if !l.tree.allows node 4 then [.error path]
    else
    let files := l.sorted (l.members path node.entries)
    let total := files.foldl (fun n f => n + blocksOf l.tree.disk f.node) 0
    let totalRow :=
      if l.style.arrangement = .long || l.style.blocks then ["total " ++ l.blockText total] else []
    let header := if headed || l.style.recursive then [l.nameText path ++ ":"] else []
    let below :=
      if l.style.recursive then
        (files.filter fun f => f.node.isDirectory && f.name ≠ "." && f.name ≠ "..").flatMap fun f =>
          directoryRows l headed depth f.path f.node
      else []
    .ok (header ++ totalRow ++ l.rows [] files) :: below

end Listing

/-- Lists files in a style from which options depart. -/
def listIn (usual : ListingStyle) : Act Nat := do
  let g ← given listingGrammar
  let s ← get
  let usual := { usual with width := ((s.environment.lookup "COLUMNS").bind decimal?).getD usual.width }
  let style ← ListingStyle.ofOptions usual g
  let l : Listing := ⟨style, ← now, s.zone, ← tree, s.isWide⟩
  let operands := if g.operands.isEmpty then ["."] else g.operands
  let long := style.arrangement = .long
  let follows := style.followsAll || style.followsGiven
  let followsDirectories := follows || g.has "follow-directories" || !(style.itself || style.marks = 3 || long)
  let (status, found) ← operands.foldlM (fun (status, found) file => do
    let followed := l.tree.find (pathOf file) true
    let own := l.tree.find (pathOf file) false
    let chosen :=
      if follows then followed
      else if followsDirectories && (followed.toOption.any Node.isDirectory) then followed
      else own
    match chosen with
    | .ok node => return (status, found ++ [(file, node)])
    | .error e =>
      match e, own with
      | .system 2, .ok node =>
        if style.followsAll then
          say ("cannot access " ++ quoted file ++ ": " ++ e.plainMessage)
          return (2, found)
        else return (status, found ++ [(file, node)])
      | e, _ =>
        say ("cannot access " ++ quoted file ++ ": " ++ e.plainMessage)
        return (2, found)) (0, ([] : List (String × Node)))
  let apart (f : Listed) : Bool := f.node.isDirectory && !style.itself
  let all := found.map fun (name, node) => l.listed name name node
  let files := l.sorted (all.filter fun f => !apart f)
  let directories := l.sorted (all.filter apart)
  let blocks := directories.flatMap fun d =>
    l.directoryRows (1 < operands.length) depthLimit d.path d.node
  let blocks := if files.isEmpty then blocks else .ok (l.rows directories files) :: blocks
  let mark := if style.zero then "\x00" else "\n"
  let (status, _) ← blocks.foldlM (fun (status, first) block => do
    match block with
    | .ok rows =>
      out ((if first then "" else "\n") ++ String.join (rows.map (· ++ mark)))
      return (status, false)
    | .error path =>
      say ("cannot open directory " ++ quoted path ++ ": " ++ IoError.denied.plainMessage)
      let own := directories.any fun d => d.path = path
      return (max status (if own then 2 else 1), first)) (status, true)
  return status

/-- Lists files. -/
def ls : Act Nat := listIn {}

/-- Lists files in columns. -/
def dir : Act Nat := listIn { arrangement := .columns, quotes := .escape }

/-- Lists files with all that is known of them. -/
def vdir : Act Nat := listIn { arrangement := .long, quotes := .escape }

end CrossBench.Tool
