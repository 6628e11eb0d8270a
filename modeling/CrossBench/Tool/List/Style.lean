import CrossBench.Shell.Pattern
import CrossBench.Shell.Print.Escape
import CrossBench.Text.Layout
import CrossBench.Tool.Moment
import CrossBench.Tool.Name

/-!
# How files are listed

What is known of files: how large they are, how many names they have, and what may be done with them.

The options of a listing say in which form and order files are listed, what is told of them, and which
of them are left out. Later options take the place of earlier ones.
-/

namespace CrossBench.Tool

open Shell Shell.Act

/-! ## What is known of files -/

/-- How many bytes a node takes for its content. -/
def sizeOf (disk : Disk) : Node → Nat
  | .file number => (disk.record number).data.size
  | .directory .. => 4096
  | .link target _ => target.bytes.length
  | .fifo .. => 0
  | .device .. => 0

/-- How many blocks of 1024 bytes a node takes. -/
def blocksOf (disk : Disk) : Node → Nat
  | .file number => ((disk.record number).data.size + 4095) / 4096 * 4
  | .directory .. => 4
  | _ => 0

/-- The letter for a kind of node. -/
def kindLetter : Node → Char
  | .file _ => '-'
  | .directory .. => 'd'
  | .link .. => 'l'
  | .fifo .. => 'p'
  | .device .. => 'c'

/-- The ten letters for kind and permission bits. -/
def modeText (disk : Disk) (node : Node) : String :=
  String.singleton (kindLetter node) ++ Permission.text (disk.mode node)

/-- The number under which the system keeps a node. -/
def serialOf (t : Tree) (path : String) : Node → Nat
  | .file number => 1000 + number
  | .fifo number .. => 1000 + number
  | _ =>
    match t.locate (pathOf path) false with
    | .ok l => 100000 + (l.flatten.foldl (fun n b => (n * 31 + b.toNat) % 899999) 7)
    | .error _ => 0

/-- A size with a letter, rounded up. -/
def humanSize (base n : Nat) : String :=
  let rec go : Nat → Nat → List String → String
    | 0, _, _ => toString n
    | _, _, [] => toString n
    | fuel + 1, unit, letter :: rest =>
      let tenths := (n * 10 + unit - 1) / unit
      if tenths < 100 then toString (tenths / 10) ++ "." ++ toString (tenths % 10) ++ letter
      else
        let whole := (n + unit - 1) / unit
        if whole < base || rest.isEmpty then toString whole ++ letter else go fuel (unit * base) rest
  if n < base then toString n else go 10 base [if base = 1000 then "k" else "K", "M", "G", "T", "P", "E"]

/-- The size of a block, and what stands behind a number of blocks. -/
def blockSize? (text : String) : Option (Nat × String) :=
  let ds := text.toList.takeWhile Char.isDigit
  let suffix := String.ofList (text.toList.drop ds.length)
  let letters := ["K", "M", "G", "T", "P", "E"]
  let shown := ds = []
  let factor : Option Nat :=
    if suffix = "" then if ds = [] then none else some 1
    else
      let bare := if suffix = "k" then "K" else suffix
      (letters.zipIdx.findSome? fun (l, i) =>
        if bare = l ∨ bare = l ++ "iB" then some (Nat.pow 1024 (i + 1))
        else if bare = l ++ "B" ∨ (l = "K" ∧ bare = "kB") then some (Nat.pow 1000 (i + 1))
        else none)
  match factor with
  | none => none
  | some f =>
    let n := if ds = [] then 1 else ds.foldl (fun n c => n * 10 + (c.toNat - 48)) 0
    if n = 0 then none else some (n * f, if shown then suffix else "")

/-! ## Options -/

/-- Where names stand. -/
inductive Arrangement where
  /-- Each on a line with all that is known of the file. -/
  | long
  | lines
  /-- In columns, line by line or column by column. -/
  | across
  | columns
  | commas
  deriving DecidableEq

/-- What comes first. -/
inductive Rank where
  | name
  | none
  | time
  | size
  | extension
  | version
  | width
  deriving DecidableEq

/-- How names are quoted. -/
inductive NameQuotes where
  | literal
  | shell
  | shellAlways
  | shellEscape
  | shellEscapeAlways
  | c
  | cMaybe
  | escape
  | locale
  deriving DecidableEq

/-- How files are listed. -/
structure ListingStyle where
  arrangement : Arrangement := .lines
  rank : Rank := .name
  quotes : NameQuotes := .literal
  reversed : Bool := false
  directoriesFirst : Bool := false
  owner : Bool := true
  group : Bool := true
  author : Bool := false
  context : Bool := false
  numbers : Bool := false
  serials : Bool := false
  blocks : Bool := false
  /-- Which names with a point in front are listed: all (2), all but two (1), or none (0). -/
  hidden : Nat := 0
  /-- Patterns of names that are left out, and of those that are unless all names are listed. -/
  ignored : List String := []
  hides : List String := []
  /-- Which kinds of files get a mark: directories (1), all but programs (2), or all (3). -/
  marks : Nat := 0
  /-- Whether what cannot be printed becomes a question mark. -/
  questions : Bool := false
  itself : Bool := false
  recursive : Bool := false
  /-- Whether links are followed: those that are given, or all. -/
  followsGiven : Bool := false
  followsAll : Bool := false
  width : Nat := 80
  tab : Nat := 8
  timeForms : Option (String × String) := none
  /-- The unit of sizes, and what stands behind them; none for a unit that depends on the size. -/
  sizeUnit : Option (Nat × String) := some (1, "")
  blockUnit : Option (Nat × String) := some (1024, "")
  /-- What that unit is a power of. -/
  base : Nat := 1024
  zero : Bool := false

/-- The options of a listing. -/
def listingGrammar : Grammar :=
  { letters := "aAbBcCdDfFgGhHiklLmnNopqQrRsStuUvxXZ1", valued := "ITw"
    words := [("all", "a"), ("escape", "b"), ("directory", "d"), ("dired", "D"), ("full-time", "full-time"),
      ("group-directories-first", "group-directories-first"), ("human-readable", "h"), ("inode", "i"),
      ("kibibytes", "k"), ("numeric-uid-gid", "n"), ("no-group", "G"), ("hide-control-chars", "q"),
      ("reverse", "r"), ("size", "s"), ("file-type", "file-type"), ("si", "si"),
      ("dereference-command-line", "H"),
      ("dereference-command-line-symlink-to-dir", "follow-directories"), ("ignore-backups", "B"),
      ("almost-all", "A"), ("dereference", "L"), ("literal", "N"), ("quote-name", "Q"), ("recursive", "R"),
      ("show-control-chars", "show-control-chars"), ("zero", "zero"), ("context", "Z"), ("author", "author")]
    valuedWords := [("width", "w"), ("ignore", "I"), ("indicator-style", "indicator-style"),
      ("hide", "hide"), ("format", "format"), ("sort", "sort"), ("tabsize", "T"), ("time", "time"),
      ("quoting-style", "quoting-style"), ("time-style", "time-style"), ("block-size", "block-size")]
    freeWords := [("color", "color"), ("classify", "F"), ("hyperlink", "hyperlink")]
    usage := 2 }

/-- The one of some groups of words that a text is, or the beginning of; the first of the group. -/
def groupAmong (option text : String) (groups : List (List String)) : Act String := do
  let fitting (p : String → Bool) : List (List String) := groups.filter fun ws => ws.any p
  match fitting (· = text), fitting fun w => w.startsWith text with
  | ws :: _, _ => return ws.headD ""
  | [], [ws] => return ws.headD ""
  | [], others =>
    let wide := (← get).isWide
    say ((if others.isEmpty || text = "" then "invalid" else "ambiguous") ++ " argument " ++ cited text
      ++ " for " ++ cited option)
    complain "Valid arguments are:"
    for ws in groups do
      complain (Shell.Quoting.localized wide ("  - " ++ ", ".intercalate (ws.map cited)))
    giveHint 1

/-- The answers to when something is done. -/
def occasions : List (List String) := [["always", "yes", "force"], ["never", "no", "none"],
  ["auto", "tty", "if-tty"]]

namespace ListingStyle

/-- Changes the style as one option says; whether a rank and a time have been chosen are the two
answers. -/
def change (s : ListingStyle) (option value : String) : Act ListingStyle := do
  match option with
  | "a" => return { s with hidden := 2 }
  | "A" => return { s with hidden := 1 }
  | "b" => return { s with quotes := .escape }
  | "B" => return { s with ignored := "*~" :: ".*~" :: s.ignored }
  | "C" => return { s with arrangement := .columns }
  | "d" => return { s with itself := true }
  | "f" =>
    return { s with
      hidden := 2, rank := .none, blocks := false
      arrangement := if s.arrangement = .long then .lines else s.arrangement }
  | "F" =>
    let when_ ← if value = "" then pure "always" else groupAmong "--classify" value occasions
    return if when_ = "always" then { s with marks := 3 } else s
  | "g" => return { s with arrangement := .long, owner := false }
  | "G" => return { s with group := false }
  | "h" => return { s with sizeUnit := none, blockUnit := none, base := 1024 }
  | "si" => return { s with sizeUnit := none, blockUnit := none, base := 1000 }
  | "H" => return { s with followsGiven := true }
  | "i" => return { s with serials := true }
  | "l" => return { s with arrangement := .long }
  | "L" => return { s with followsAll := true }
  | "m" => return { s with arrangement := .commas }
  | "n" => return { s with arrangement := .long, numbers := true }
  | "N" => return { s with quotes := .literal }
  | "o" => return { s with arrangement := .long, group := false }
  | "p" => return { s with marks := 1 }
  | "q" => return { s with questions := true }
  | "show-control-chars" => return { s with questions := false }
  | "Q" => return { s with quotes := .c }
  | "r" => return { s with reversed := true }
  | "R" => return { s with recursive := true }
  | "s" => return { s with blocks := true }
  | "S" => return { s with rank := .size }
  | "t" => return { s with rank := .time }
  | "U" => return { s with rank := .none }
  | "v" => return { s with rank := .version }
  | "x" => return { s with arrangement := .across }
  | "X" => return { s with rank := .extension }
  | "Z" => return { s with context := true }
  | "1" => return if s.arrangement = .long then s else { s with arrangement := .lines }
  | "author" => return { s with author := true }
  | "full-time" => return { s with arrangement := .long, timeForms := fullForms }
  | "group-directories-first" => return { s with directoriesFirst := true }
  | "file-type" => return { s with marks := 2 }
  | "zero" =>
    return { s with
      zero := true, quotes := .literal, questions := false
      arrangement := if s.arrangement = .long then .long else .lines }
  | "I" => return { s with ignored := value :: s.ignored }
  | "hide" => return { s with hides := value :: s.hides }
  | "w" =>
    match number? value with
    | some n => return { s with width := n }
    | none => stop 2 ("invalid line width: " ++ cited value)
  | "T" =>
    match number? value with
    | some n => return { s with tab := n }
    | none => stop 2 ("invalid tab size: " ++ cited value)
  | "k" => return { s with blockUnit := some (1024, "") }
  | "block-size" =>
    match value, blockSize? value with
    | "human-readable", _ => return { s with sizeUnit := none, blockUnit := none, base := 1024 }
    | "si", _ => return { s with sizeUnit := none, blockUnit := none, base := 1000 }
    | _, some u => return { s with sizeUnit := some u, blockUnit := some u }
    | _, none => stop 2 ("invalid --block-size argument " ++ cited value)
  | "indicator-style" =>
    match ← groupAmong "--indicator-style" value [["none"], ["slash"], ["file-type"], ["classify"]] with
    | "none" => return { s with marks := 0 }
    | "slash" => return { s with marks := 1 }
    | "file-type" => return { s with marks := 2 }
    | _ => return { s with marks := 3 }
  | "format" =>
    match ← groupAmong "--format" value [["verbose", "long"], ["commas"], ["horizontal", "across"],
        ["vertical"], ["single-column"]] with
    | "verbose" => return { s with arrangement := .long }
    | "commas" => return { s with arrangement := .commas }
    | "horizontal" => return { s with arrangement := .across }
    | "vertical" => return { s with arrangement := .columns }
    | _ => return { s with arrangement := .lines }
  | "sort" =>
    match ← groupAmong "--sort" value [["none"], ["time"], ["size"], ["extension"], ["version"], ["width"]] with
    | "none" => return { s with rank := .none }
    | "time" => return { s with rank := .time }
    | "size" => return { s with rank := .size }
    | "extension" => return { s with rank := .extension }
    | "version" => return { s with rank := .version }
    | _ => return { s with rank := .width }
  | "time" =>
    let _ ← groupAmong "--time" value [["atime", "access", "use"], ["ctime", "status"],
      ["mtime", "modification"], ["birth", "creation"]]
    return s
  | "quoting-style" =>
    match ← groupAmong "--quoting-style" value (["literal", "shell", "shell-always", "shell-escape",
        "shell-escape-always", "c", "c-maybe", "escape", "locale", "clocale"].map ([·])) with
    | "literal" => return { s with quotes := .literal }
    | "shell" => return { s with quotes := .shell }
    | "shell-always" => return { s with quotes := .shellAlways }
    | "shell-escape" => return { s with quotes := .shellEscape }
    | "shell-escape-always" => return { s with quotes := .shellEscapeAlways }
    | "c" => return { s with quotes := .c }
    | "c-maybe" => return { s with quotes := .cMaybe }
    | "escape" => return { s with quotes := .escape }
    | _ => return { s with quotes := .locale }
  | "time-style" => return { s with timeForms := ← formsOf value }
  | "color" =>
    let _ ← if value = "" then pure "" else groupAmong "--color" value occasions
    return s
  | "hyperlink" =>
    let _ ← if value = "" then pure "" else groupAmong "--hyperlink" value occasions
    return s
  | _ => return s
where
  /-- The forms of times with all their parts. -/
  fullForms : Option (String × String) := some ("%Y-%m-%d %H:%M:%S.%N %z", "%Y-%m-%d %H:%M:%S.%N %z")
  /-- A number of columns. -/
  number? (text : String) : Option Nat :=
    if text ≠ "" && text.toList.all Char.isDigit then (decimal? text).map (min · (Nat.pow 10 9)) else none
  /-- The forms of times that are recent, and of others. -/
  formsOf (value : String) : Act (Option (String × String)) := do
    let style := if value.startsWith "posix-" then String.ofList (value.toList.drop 6) else value
    if value.startsWith "+" then
      match (String.ofList (value.toList.drop 1)).splitOn "\n" with
      | [form] => return some (form, form)
      | [old, recent] => return some (recent, old)
      | _ :: _ :: more => stop 2 ("invalid time style format " ++ cited ("\n".intercalate more))
      | [] => return none
    else
      match wordAmong ["full-iso", "long-iso", "iso", "locale"] style with
      | some "full-iso" => return fullForms
      | some "long-iso" => return some ("%Y-%m-%d %H:%M", "%Y-%m-%d %H:%M")
      | some "iso" => return some ("%m-%d %H:%M", "%Y-%m-%d ")
      | some _ => return none
      | none =>
        say ("invalid argument " ++ cited value ++ " for " ++ cited "time style")
        complain "Valid arguments are:"
        for w in ["full-iso", "long-iso", "iso", "locale"] do complain ("  - [posix-]" ++ w)
        complain "  - +FORMAT (e.g., +%H:%M) for a 'date'-style format"
        giveHint 2

/-- The style that options come to, in place of a usual one. -/
def ofOptions (usual : ListingStyle) (g : Given) : Act ListingStyle := do
  let s ← g.options.foldlM (fun s (option, value) => s.change option value) usual
  let ranked := g.options.any fun o => ["S", "t", "U", "v", "X", "f", "sort"].contains o.1
  let timed := g.options.any fun o => ["c", "u", "time"].contains o.1
  return if !ranked && timed && s.arrangement ≠ .long then { s with rank := .time } else s

/-- Whether a name is left out. -/
def omits (s : ListingStyle) (name : String) : Bool :=
  let fits (p : String) : Bool :=
    (!name.startsWith "." || p.startsWith ".") &&
      (Pattern.ofMarks .plain false (p.toList.map fun c => (c, false))).accepts false name.toList
  (s.hidden < 2 && name.startsWith "." && (s.hidden = 0 || name = "." || name = "..")) ||
    (s.hidden = 0 && s.hides.any fits) || s.ignored.any fits

end ListingStyle

end CrossBench.Tool
