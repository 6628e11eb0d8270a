import CrossBench.Shell.Print.Escape
import CrossBench.Text.Layout
import CrossBench.Tool.List.Style

/-!
# What is known of one file

`stat` tells what is known of files in a form that can be chosen. A form is text with directives in it:
a percent sign, flags, a width, a precision, and a letter for what is told.
-/

namespace CrossBench.Tool

open Shell Shell.Act

/-- A directive in a form: what stands between the percent sign and its letter. -/
structure Directive where
  flags : List Char
  width : Nat
  /-- The digits behind a point, if there is a point. -/
  precision : Option (List Char)

namespace Directive

/-- The directive at the beginning of a text, and what follows. -/
def read (cs : List Char) : Directive × List Char :=
  let flags := cs.takeWhile ("'-+ #0I".toList.contains ·)
  let rest := cs.drop flags.length
  let digits := rest.takeWhile Char.isDigit
  let rest := rest.drop digits.length
  let width := digits.foldl (fun n c => n * 10 + (c.toNat - 48)) 0
  match rest with
  | '.' :: more =>
    let ds := more.takeWhile Char.isDigit
    (⟨flags, width, some ds⟩, more.drop ds.length)
  | _ => (⟨flags, width, none⟩, rest)

/-- The number behind the point. -/
def places (d : Directive) : Option Nat :=
  d.precision.map fun ds => ds.foldl (fun n c => n * 10 + (c.toNat - 48)) 0

/-- A text in its field. -/
def laid (d : Directive) (text : String) (fill : Char) : String :=
  let cell : Cell := ⟨text, d.width, none⟩
  if d.flags.contains '-' then cell.left ' ' else cell.right fill

/-- A text, of which no more is shown than the directive says. -/
def text (d : Directive) (s : String) : String :=
  d.laid (match d.places with
    | some n => String.ofList (s.toList.take n)
    | none => s) ' '

/-- A number, with at least as many digits as the directive says. -/
def number (d : Directive) (mark digits : String) : String :=
  let mark := if d.flags.contains '#' then mark else ""
  let least := d.places.getD 0
  let digits := "".pushn '0' (least - digits.length) ++ digits
  if d.flags.contains '0' && !d.flags.contains '-' && d.places.isNone then
    mark ++ "".pushn '0' (d.width - mark.length - digits.length) ++ digits
  else d.laid (mark ++ digits) ' '

/-- A time in seconds, with as many places as the directive says. -/
def seconds (d : Directive) (t : Instant) : String :=
  let places := d.precision.map fun ds => if ds.isEmpty then 9 else (d.places.getD 0)
  let whole := toString t.seconds
  let nanos := toString (1000000000 + t.nanos)
  let shown :=
    match places with
    | none | some 0 => whole
    | some n =>
      whole ++ "." ++ String.ofList (((nanos.toList.drop 1) ++ List.replicate (n - 9) '0').take n)
  d.laid shown (if d.flags.contains '0' && !d.flags.contains '-' then '0' else ' ')

end Directive

/-- What is known of a file that is told of. -/
structure Known where
  zone : Zone
  tree : Tree
  file : String
  node : Node
  /-- Whether names are quoted even if they need not be. -/
  quotes : Bool

namespace Known

/-- What a letter of a form stands for; the letters are those of the description of `stat`. -/
def part (k : Known) (d : Directive) (letter : Char) : String :=
  let disk := k.tree.disk
  let time := disk.modified k.node
  let exact := Calendar.text k.zone time "%Y-%m-%d %H:%M:%S.%N %z"
  let name (s : String) : String := if k.quotes then quoted s else named s
  let kind : Nat :=
    match k.node with
    | .file _ => 0x8000
    | .directory .. => 0x4000
    | .link .. => 0xA000
    | .fifo .. => 0x1000
    | .device .. => 0x2000
  let count (n : Nat) : String := d.number "" (toString n)
  let hex (n : Nat) : String := d.number (if n = 0 then "" else "0x") (String.ofList (Nat.toDigits 16 n))
  match letter with
  | 'n' => d.text k.file
  | 'N' =>
    d.text (match k.node with
      | .link target _ => name k.file ++ " -> " ++ name (ofBytes target.bytes)
      | _ => name k.file)
  | 's' => count (sizeOf disk k.node)
  | 'a' => d.number "0" (Permission.digits 1 (disk.mode k.node))
  | 'A' => d.text (modeText disk k.node)
  | 'f' => hex (kind + disk.mode k.node)
  | 'F' => d.text (kindText disk k.node)
  | 'u' => count 0
  | 'g' => count 0
  | 'U' => d.text "root"
  | 'G' => d.text "root"
  | 'h' => count (disk.linkCount k.node)
  | 'i' => count (serialOf k.tree k.file k.node)
  | 'd' => count 65024
  | 'D' => hex 65024
  | 'b' => count (2 * blocksOf disk k.node)
  | 'B' => count 512
  | 'o' => count 4096
  | 'm' => d.text "/"
  | 't' => hex 0
  | 'T' => hex 0
  | 'r' => count 0
  | 'R' => hex 0
  | 'W' => d.seconds time
  | 'X' => d.seconds time
  | 'Y' => d.seconds time
  | 'Z' => d.seconds time
  | 'w' => d.text exact
  | 'x' => d.text exact
  | 'y' => d.text exact
  | 'z' => d.text exact
  | _ => "?"

/-- What is told by a form, and what is said about the form, the texts in front of it with it. Escapes
are undone if `escapes`. The answer is `none` behind a directive that is none. -/
def told (k : Known) (escapes : Bool) : Nat → List Char → List (String × String) × Option String
  | 0, _ => ([], some "")
  | _, [] => ([], some "")
  | fuel + 1, '%' :: rest =>
    let (d, after) := Directive.read rest
    let written := rest.take (rest.length - after.length)
    match after with
    | [] =>
      if written.isEmpty then ([], some "%")
      else ([("", cited (String.ofList ('%' :: written)) ++ ": invalid directive")], none)
    | '%' :: more =>
      if written.isEmpty then with_ "%" (told k escapes fuel more)
      else ([("", cited (String.ofList ('%' :: written ++ ['%'])) ++ ": invalid directive")], none)
    | letter :: more =>
      if letter = 'H' || letter = 'L' then
        match more with
        | 'd' :: more => with_ (d.number "" (if letter = 'H' then "254" else "0")) (told k escapes fuel more)
        | 'r' :: more => with_ (d.number "" "0") (told k escapes fuel more)
        | _ => with_ "?" (told k escapes fuel more)
      else if letter = 'C' then
        let why := "failed to get security context of " ++ quoted k.file ++ ": No data available"
        let (said, text) := told k escapes fuel more
        match said, text with
        | (front, other) :: others, text => (("", why) :: ("?" ++ front, other) :: others, text)
        | [], text => ([("", why)], text.map ("?" ++ ·))
      else with_ (k.part d letter) (told k escapes fuel more)
  | fuel + 1, '\\' :: rest =>
    if !escapes then with_ "\\" (told k escapes fuel rest)
    else
      match rest with
      | [] => ([("", "warning: backslash at end of format")], some "\\")
      | c :: more =>
        if '0' ≤ c && c ≤ '7' then
          let ds := (rest.takeWhile fun c => '0' ≤ c && c ≤ '7').take 3
          let n := ds.foldl (fun n c => n * 8 + (c.toNat - 48)) 0
          with_ (String.singleton (Char.ofNat (n % 256))) (told k escapes fuel (rest.drop ds.length))
        else
          let ds := (more.takeWhile fun c => Arithmetic.digitOf c < 16).take 2
          if c = 'x' && !ds.isEmpty then
            with_ (String.singleton (Char.ofNat (Arithmetic.ofDigits 16 ds)))
              (told k escapes fuel (more.drop ds.length))
          else
            match ([('a', 7), ('b', 8), ('e', 27), ('f', 12), ('n', 10), ('r', 13), ('t', 9), ('v', 11),
                ('"', 34), ('\\', 92)].find? fun p => p.1 = c) with
            | some (_, n) => with_ (String.singleton (Char.ofNat n)) (told k escapes fuel more)
            | none =>
              let (said, text) := with_ (String.singleton c) (told k escapes fuel more)
              (("", "warning: unrecognized escape '\\" ++ String.singleton c ++ "'") :: said, text)
  | fuel + 1, c :: rest => with_ (String.singleton c) (told k escapes fuel rest)
where
  /-- A text in front of what is told. -/
  with_ (s : String) : List (String × String) × Option String → List (String × String) × Option String
    | ([], text) => ([], text.map (s ++ ·))
    | ((front, why) :: others, text) => ((s ++ front, why) :: others, text)

/-- Tells of a file by a form, with something behind it; whether nothing was wrong with it. -/
def tell (k : Known) (escapes : Bool) (form ending : String) : Act Bool := do
  let (said, text) := k.told escapes (form.length + 1) form.toList
  let ok ← said.foldlM (fun ok (front, why) => do
    out front
    if text.isNone then stop 1 why
    else
      say why
      return ok && !why.startsWith "failed") true
  out (text.getD "" ++ ending)
  return ok

end Known

/-- The node that the first descriptor leads to. -/
def inputNode : Act (Option Node) := look fun pid k =>
  (k.opened? pid 0).bind fun (_, f) =>
    match f.channel with
    | .device d => some (.device d default)
    | .file number => some (.file number)
    | .directory location => (k.tree pid).at? location
    | .pipe number => some (.fifo number 0o600 default)

/-- Tells what is known of files. -/
def stat : Act Nat := do
  let g ← given
    { letters := "Lft", valued := "c", words := [("dereference", "L"), ("file-system", "f"), ("terse", "t")]
      valuedWords := [("format", "c"), ("printf", "printf"), ("cached", "cached")] }
  for v in g.values "cached" do
    let _ ← wordGiven "--cached" v ["default", "never", "always"]
  let files ← operands g "operand"
  let zone := (← get).zone
  let form := g.options.reverse.find? fun o => o.1 = "c" || o.1 = "printf"
  forAll files fun file => do
    let t ← tree
    let input ← inputNode
    let found :=
      match file, input with
      | "-", some node => Except.ok node
      | _, _ => t.find (pathOf file) (g.has "L")
    match found with
    | .error e =>
      say ("cannot statx " ++ quoted file ++ ": " ++ e.plainMessage)
      return false
    | .ok node =>
      let k : Known := ⟨zone, t, file, node, form.isSome⟩
      match form with
      | some ("c", form) => k.tell false form "\n"
      | some (_, form) => k.tell true form ""
      | none =>
        if g.has "t" then k.tell false "%n %s %b %f %u %g %D %i %h %t %T %X %Y %Z %W %o" "\n"
        else
          let arrow := if node.isLink then "%N" else "%n"
          k.tell false ("  File: " ++ arrow ++ "\n  Size: %-10s\tBlocks: %-10b IO Block: %-6o %F\n"
            ++ "Device: 254,0\tInode: %-11i Links: %h\n"
            ++ "Access: (" ++ Permission.digits 4 (t.disk.mode node)
            ++ "/%A)  Uid: (    0/    root)   Gid: (    0/    root)\n"
            ++ "Access: %x\nModify: %y\nChange: %z\n Birth: %w") "\n"

end CrossBench.Tool
