import CrossBench.Text.Calendar
import CrossBench.Text.Changes
import CrossBench.Text.Regex
import CrossBench.Tool.Input

/-!
# Differences and their forms

Lines are compared in a form in which white space, capitals and tabs may not matter. Changes of which
all lines are without meaning can be passed over, and changes that are close together are told in one
piece.

Changes as commands that make one file of the other, in several languages, and as parts of both files
with some lines around them.
-/

namespace CrossBench.Tool.Difference

/-! ## What counts as a difference -/

/-- The form in which differences are told. -/
inductive Form where
  | plain
  | context
  | unified
  | editor
  /-- Like commands of an editor, from the first line on. -/
  | forward
  /-- Like the commands of a store of versions. -/
  | counted
  | columns
  /-- Both files in one, in formats for the groups of lines and for the lines. -/
  | merged
  deriving DecidableEq

/-- Formats for lines or groups of lines. -/
structure Formats where
  old : Option String := none
  new : Option String := none
  same : Option String := none
  changed : Option String := none

/-- How files are compared and differences are told. -/
structure Rules where
  form : Form
  /-- Whether capitals and small letters are the same. -/
  fold : Bool
  /-- Which white space does not matter: how many columns tabs take (1), what stands at the end of a line
  (2), how much there is (4), all (5). -/
  blanks : Nat
  /-- Whether empty lines do not matter. -/
  skipEmpty : Bool
  /-- Lines that do not matter. -/
  skipped : List Regex
  /-- Lines that stand above a part of a file. -/
  headings : List Regex
  thorough : Bool
  context : Nat
  /-- How many lines around the first and the last difference are looked at. -/
  horizon : Nat
  tabSize : Nat
  expandTabs : Bool
  /-- Whether a tab stands in front of lines. -/
  initialTab : Bool
  /-- Whether no blank is left in front of an empty line. -/
  bareEmpty : Bool
  coloured : Bool
  width : Nat
  /-- Whether only the left one of two same lines is shown. -/
  leftOnly : Bool
  /-- Whether same lines are not shown. -/
  changesOnly : Bool
  groups : Formats
  lines : Formats
  labels : List String
  zone : Zone
  /-- How times are written. -/
  times : String

/-- A file that is compared. -/
structure Side where
  name : String
  /-- The lines with their line ends, which the last may lack. -/
  lines : Array String
  time : Instant

namespace Side

/-- Some of the lines. -/
def part (s : Side) (start stop : Nat) : List String := (s.lines.extract start stop).toList

end Side

/-- Two files that are compared. -/
structure Pair where
  old : Side
  new : Side

/-- The lines of a text. -/
def linesOf (cs : List Char) : Array String :=
  ((cs.splitBy fun a _ => a != '\n').map String.ofList).toArray

/-- Whether a line has a line end. -/
def isWhole (line : String) : Bool := line.toList.getLast? = some '\n'

/-- A line without its line end. -/
def bare (line : String) : List Char :=
  let cs := line.toList
  if cs.getLast? = some '\n' then cs.dropLast else cs

namespace Rules

/-- A line with tabs as so many blanks; `place` is the column. -/
def withoutTabs (size : Nat) : Nat → List Char → List Char
  | _, [] => []
  | place, c :: rest =>
    if c = '\t' then
      let n := size - place % size
      List.replicate n ' ' ++ withoutTabs size (place + n) rest
    else if c = Char.ofNat 8 then c :: withoutTabs size (place - 1) rest
    else if c = '\r' then c :: withoutTabs size 0 rest
    else c :: withoutTabs size (place + 1) rest

/-- A line with one blank for each stretch of white space. -/
def withSingleBlanks (cs : List Char) : List Char :=
  ((cs.splitBy fun a b => isSpace a == isSpace b).flatMap fun part =>
    if part.any isSpace then [' '] else part)

/-- A line in the form in which lines are compared. -/
def compared (r : Rules) (line : String) : String :=
  let cs := bare line
  let trimmed := (cs.reverse.dropWhile isSpace).reverse
  let cs :=
    if r.blanks = 5 then cs.filter fun c => !isSpace c
    else if r.blanks = 4 then withSingleBlanks trimmed
    else
      let cs := if 2 ≤ r.blanks then trimmed else cs
      if r.blanks % 2 = 1 then withoutTabs r.tabSize 0 cs else cs
  let cs := if r.fold then cs.map Char.toLower else cs
  let mark := if isWhole line || 2 ≤ r.blanks then [] else [Char.ofNat 256]
  String.ofList (cs ++ mark)

/-- Whether a line does not matter. -/
def isIdle (r : Rules) (line : String) : Bool :=
  let cs := bare line
  (r.skipEmpty && (if 2 ≤ r.blanks then cs.all isSpace else cs.isEmpty))
    || r.skipped.any fun e =>
      let subject : Regex.Subject := ⟨cs.toArray, false, false, true⟩
      (Regex.find? subject e 0).isSome

/-- Whether all lines of some changes do not matter. -/
def isIdleHunk (r : Rules) (p : Pair) (hunk : List Change) : Bool :=
  (r.skipEmpty || !r.skipped.isEmpty)
    && hunk.all fun c =>
      (p.old.part c.start c.stop).all r.isIdle && (p.new.part c.newStart c.newStop).all r.isIdle

/-- How many of the first lines are the same. -/
def sameFront (a b : List String) : Nat := ((a.zip b).takeWhile fun p => p.1 = p.2).length

/-- The changes from one file to another. Lines at the ends that are the same are not looked at, some of
them apart. -/
def changes (r : Rules) (p : Pair) : List Change :=
  let (old, new) := (p.old.lines, p.new.lines)
  let front := sameFront old.toList new.toList - r.horizon
  let room := min old.size new.size - front
  let back := min (sameFront old.toList.reverse new.toList.reverse) room - r.horizon
  let body (s : Side) : List String := (s.part front (s.lines.size - back)).map r.compared
  (Changes.between r.thorough (body p.old) (body p.new)).map (Change.shift front)

/-- Changes that are told in one piece, since few lines lie between them. -/
def hunks (r : Rules) (p : Pair) (changes : List Change) : List (List Change) :=
  let marked := changes.map fun c => (c, r.isIdleHunk p [c])
  let parts := marked.splitBy fun (c, idle) (d, idleToo) =>
    d.start - c.stop < (if idle || idleToo then r.context else 2 * r.context + 1)
  (parts.map fun part => part.map (·.1)).filter fun hunk => !r.isIdleHunk p hunk

/-! ## Lines -/

/-- What a part of the output is, by which it is coloured. -/
inductive Part where
  | header
  | place
  | gone
  | come
  | other

/-- A text in the colour of a part. -/
def paint (r : Rules) (part : Part) (s : String) : String :=
  let code : Option String :=
    match part with
    | .header => some "1"
    | .place => some "36"
    | .gone => some "31"
    | .come => some "32"
    | .other => none
  match code with
  | some code => if r.coloured then "\x1b[" ++ code ++ "m" ++ s ++ "\x1b[0m" else s
  | none => s

/-- A line with its tabs made blanks; behind a carriage return it begins once more with `front`. -/
def expanded (size : Nat) (front : List Char) : Nat → List Char → List Char
  | _, [] => []
  | column, c :: rest =>
    if c = '\t' then
      let n := size - column % size
      List.replicate n ' ' ++ expanded size front (column + n) rest
    else if c = '\r' then
      (if rest ≠ [] && rest.head? ≠ some '\n' then c :: front else [c]) ++ expanded size front 0 rest
    else if c = Char.ofNat 8 then
      if column = 0 then expanded size front 0 rest else c :: expanded size front (column - 1) rest
    else c :: expanded size front (if ' ' ≤ c && c ≤ '~' then column + 1 else column) rest

/-- A line without its line end, behind a mark. -/
def content (r : Rules) (front : String) (line : String) : String :=
  let cs := bare line
  front ++ String.ofList (if r.expandTabs then expanded r.tabSize front.toList 0 cs else cs)

/-- What is said behind a line without a line end. -/
def unended : String := "\n\\ No newline at end of file\n"

/-- A line behind a mark, in the colour of a part. -/
def marked (r : Rules) (part : Part) (mark line : String) : String :=
  let bareLine := r.bareEmpty && line = "\n"
  let front :=
    if bareLine then (if mark = " " then "" else mark) else mark ++ (if r.initialTab then "\t" else " ")
  let text := r.content front line
  if isWhole line then r.paint part text ++ "\n" else r.paint part (text ++ unended)

/-- A line as it is. -/
def verbatim (r : Rules) (line : String) : String := r.content "" line ++ (if isWhole line then "\n" else "")

/-! ## Commands -/

/-- The numbers of the first and last of some lines; of no lines, that of the one in front of them. -/
def rangeText (separator : String) (start stop : Nat) : String :=
  if start + 1 < stop then toString (start + 1) ++ separator ++ toString stop else toString stop

/-- The letter of a change. -/
def letterOf (c : Change) : String :=
  if c.deleted = 0 then "a" else if c.inserted = 0 then "d" else "c"

/-- A change as a command that makes it, and the lines themselves. -/
def plainText (r : Rules) (p : Pair) (c : Change) : String :=
  r.paint .place (rangeText "," c.start c.stop ++ letterOf c ++ rangeText "," c.newStart c.newStop) ++ "\n"
    ++ String.join ((p.old.part c.start c.stop).map (r.marked .gone "<"))
    ++ (if letterOf c = "c" then "---\n" else "")
    ++ String.join ((p.new.part c.newStart c.newStop).map (r.marked .come ">"))

/-- Lines as what is typed into an editor. A line that would end them is mended afterwards. -/
def typed (r : Rules) : Bool → List String → String
  | inserting, [] => if inserting then ".\n" else ""
  | inserting, line :: rest =>
    (if inserting then "" else "a\n")
      ++ (if line = ".\n" then "..\n.\ns/.//\n" ++ typed r false rest
        else r.verbatim line ++ typed r true rest)

/-- A change as a command of an editor. -/
def editorText (r : Rules) (p : Pair) (c : Change) : String :=
  rangeText "," c.start c.stop ++ letterOf c ++ "\n"
    ++ (if c.inserted = 0 then "" else r.typed true (p.new.part c.newStart c.newStop))

/-- A change as a command with the letter in front. -/
def forwardText (r : Rules) (p : Pair) (c : Change) : String :=
  letterOf c ++ rangeText " " c.start c.stop ++ "\n"
    ++ (if c.inserted = 0 then ""
      else String.join ((p.new.part c.newStart c.newStop).map r.verbatim) ++ ".\n")

/-- A change as the number of lines that go and that come. -/
def countedText (r : Rules) (p : Pair) (c : Change) : String :=
  (if c.deleted = 0 then ""
    else "d" ++ toString (c.start + 1) ++ " " ++ toString c.deleted ++ "\n")
    ++ (if c.inserted = 0 then ""
      else "a" ++ toString c.stop ++ " " ++ toString c.inserted ++ "\n"
        ++ String.join ((p.new.part c.newStart c.newStop).map r.verbatim))

/-! ## Parts of files -/

/-- The lines that are shown of two files. -/
structure Window where
  start : Nat
  stop : Nat
  newStart : Nat
  newStop : Nat

/-- The lines that are shown for some changes. -/
def windowOf (r : Rules) (p : Pair) (hunk : List Change) : Window :=
  let first := hunk.headD ⟨0, 0, 0, 0⟩
  let last := hunk.getLastD first
  { start := first.start - r.context
    stop := min p.old.lines.size (last.stop + r.context)
    newStart := first.newStart - r.context
    newStop := min p.new.lines.size (last.newStop + r.context) }

/-- The heading that stands last above each part of a file. -/
def headingsOf (r : Rules) (p : Pair) (windows : List Window) : List (Option String) :=
  let isHeading (line : String) : Bool :=
    let subject : Regex.Subject := ⟨(bare line).toArray, false, false, true⟩
    r.headings.any fun e => (Regex.find? subject e 0).isSome
  if r.headings.isEmpty then windows.map fun _ => none
  else
    (windows.foldl (fun (found, searched, last) w =>
      let last := ((p.old.part searched w.start).reverse.find? isHeading).orElse fun _ => last
      (found ++ [last], w.start, last))
      (([] : List (Option String)), 0, (none : Option String))).1

/-- A heading as it is shown. -/
def headingText (heading : Option String) : String :=
  match heading with
  | none => ""
  | some line =>
    let cs := ((bare line).dropWhile isSpace).take 40
    " " ++ String.ofList (cs.reverse.dropWhile isSpace).reverse

/-- A part of both files in one column. -/
def unifiedText (r : Rules) (p : Pair) (hunk : List Change) (w : Window) (heading : Option String) :
    String :=
  let place (start stop : Nat) : String :=
    if stop = start + 1 then toString stop
    else toString (if start = stop then start else start + 1) ++ "," ++ toString (stop - start)
  let signed (part : Part) (sign line : String) : String :=
    let idle := r.bareEmpty && line = "\n"
    let front :=
      if sign = " " then (if idle then "" else if r.initialTab then "\t" else " ")
      else sign ++ (if r.initialTab && !idle then "\t" else "")
    let text := front ++ r.content "" line
    if isWhole line then r.paint part text ++ "\n" else r.paint part (text ++ unended)
  let (text, reached) := hunk.foldl (fun (text, reached) c =>
    (text ++ String.join ((p.old.part reached c.start).map (signed .other " "))
      ++ String.join ((p.old.part c.start c.stop).map (signed .gone "-"))
      ++ String.join ((p.new.part c.newStart c.newStop).map (signed .come "+")), c.stop)) ("", w.start)
  r.paint .place ("@@ -" ++ place w.start w.stop ++ " +" ++ place w.newStart w.newStop ++ " @@"
    ++ headingText heading) ++ "\n"
    ++ text ++ String.join ((p.old.part reached w.stop).map (signed .other " "))

/-- A part of both files, the old lines and then the new ones. -/
def contextText (r : Rules) (p : Pair) (hunk : List Change) (w : Window) (heading : Option String) :
    String :=
  let side (s : Side) (part : Part) (start stop : Nat) (range : Change → Nat × Nat) (sign : String) : String :=
    if hunk.all fun c => (range c).1 = (range c).2 then ""
    else
      let (text, reached) := hunk.foldl (fun (text, reached) c =>
        let sign := if c.deleted ≠ 0 && c.inserted ≠ 0 then "!" else sign
        (text ++ String.join ((s.part reached (range c).1).map (r.marked part " "))
          ++ String.join ((s.part (range c).1 (range c).2).map (r.marked part sign)), (range c).2)) ("", start)
      text ++ String.join ((s.part reached stop).map (r.marked part " "))
  "***************" ++ headingText heading ++ "\n"
    ++ r.paint .place ("*** " ++ rangeText "," w.start w.stop ++ " ****") ++ "\n"
    ++ side p.old .gone w.start w.stop (fun c => (c.start, c.stop)) "-"
    ++ r.paint .place ("--- " ++ rangeText "," w.newStart w.newStop ++ " ----") ++ "\n"
    ++ side p.new .come w.newStart w.newStop (fun c => (c.newStart, c.newStop)) "+"

/-- A name in double quotes if it has blanks or control characters. -/
def nameText (name : String) : String :=
  let shown (c : Char) : String :=
    match c with
    | '"' => "\\\""
    | '\\' => "\\\\"
    | '\n' => "\\n"
    | '\t' => "\\t"
    | '\r' => "\\r"
    | c =>
      if c = Char.ofNat 7 then "\\a"
      else if c = Char.ofNat 8 then "\\b"
      else if c = Char.ofNat 11 then "\\v"
      else if c = Char.ofNat 12 then "\\f"
      else if c < ' ' then "\\" ++ Shell.Quoting.octal c.toNat
      else String.singleton c
  let text := String.join (name.toList.map shown)
  if text = name && !name.toList.contains ' ' then name else "\"" ++ text ++ "\""

/-- The two lines above parts of files. -/
def headerText (r : Rules) (p : Pair) : String :=
  let line (mark : String) (i : Nat) (s : Side) : String :=
    r.paint .header (mark ++ " " ++ (r.labels[i]?).getD
      (nameText s.name ++ "\t" ++ Calendar.text r.zone s.time r.times)) ++ "\n"
  if r.form = .unified then line "---" 0 p.old ++ line "+++" 1 p.new
  else line "***" 0 p.old ++ line "---" 1 p.new

end Rules

end CrossBench.Tool.Difference
