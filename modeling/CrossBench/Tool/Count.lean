import CrossBench.Text.Layout
import CrossBench.Text.Letters
import CrossBench.Text.Regex.Read
import CrossBench.Tool.Input

/-!
# Counts and numbered lines

`wc` counts the lines, words, characters and bytes of files, and finds their longest lines. A character
may take several bytes; those of them that have been read are kept until all are there. `nl` puts numbers in
front of the lines of files. Certain lines part a text into pages, each of which has a head, a body and a
foot; which of their lines are numbered is told for each of the three.
-/

namespace CrossBench.Tool

open Shell Shell.Act

/-- What is counted in a file. -/
structure Counts where
  lines : Nat := 0
  words : Nat := 0
  chars : Nat := 0
  bytes : Nat := 0
  /-- How long the longest line is. -/
  longest : Nat := 0
  /-- How long the last line is. -/
  place : Nat := 0
  inWord : Bool := false
  /-- The bytes of a character that has begun, the last one first. -/
  begun : List Char := []

namespace Counts

/-- The counts with one more character of a single byte, or with a byte that is no character. -/
def addByte (c : Counts) (b : UInt8) (isChar : Bool) : Counts :=
  let space := b == 32 || (9 ≤ b && b ≤ 13)
  let printable := 32 ≤ b && b < 127
  let place :=
    if b = 10 || b = 13 || b = 12 then 0
    else if b = 9 then (c.place / 8 + 1) * 8
    else if printable then c.place + 1
    else c.place
  { lines := c.lines + if b = 10 then 1 else 0
    words := c.words + if !space && printable && !c.inWord then 1 else 0
    chars := if isChar then c.chars + 1 else c.chars
    bytes := c.bytes + 1
    longest := max c.longest place
    place
    inWord := if space then false else c.inWord || printable
    begun := [] }

/-- The counts with one more character of several bytes, of which the last one is new. -/
def addLetter (c : Counts) (letter : Char) : Counts :=
  let space := isOfKind "space" letter || [0xA0, 0x2007, 0x202F, 0x2060].contains letter.toNat
  let printable := isOfKind "print" letter
  let place := if printable then c.place + Letters.cells letter else c.place
  { c with
    words := c.words + if printable && !space && !c.inWord then 1 else 0
    chars := c.chars + 1
    bytes := c.bytes + 1
    longest := max c.longest place
    place
    inWord := if printable then !space else c.inWord
    begun := [] }

/-- The counts with one more byte, where several may make up a character. -/
def addWide (c : Counts) (b : UInt8) : Counts :=
  let char := Char.ofNat b.toNat
  let start (c : Counts) : Counts :=
    if b < 128 then c.addByte b true
    else if Letters.following char = 0 then c.addByte b false
    else { c with begun := [char], bytes := c.bytes + 1 }
  match c.begun with
  | [] => start c
  | begun@(_ :: _) =>
    let first := begun.getLastD char
    let fits :=
      if begun.length = 1 then Letters.mayFollow first char else 0x80 ≤ b && b ≤ 0xBF
    if !fits then start { c with begun := [] }
    else if begun.length < Letters.following first then { c with begun := char :: begun, bytes := c.bytes + 1 }
    else c.addLetter (Letters.charOf (char :: begun).reverse)

/-- The counts of two files together. -/
def plus (a b : Counts) : Counts :=
  { lines := a.lines + b.lines, words := a.words + b.words, chars := a.chars + b.chars
    bytes := a.bytes + b.bytes, longest := max a.longest b.longest }

end Counts

/-- The files whose names a file lists, each ending with a zero, and whether the list is a file; a name that
is empty is complained about. -/
def listedFiles (source : String) : Act (List String × Bool) := do
  match ← contents source with
  | .error e => stop 1 ("cannot open " ++ quoted source ++ " for reading: " ++ e.plainMessage)
  | .ok bytes =>
    return ((linesBy (Char.ofNat 0) (charsOf bytes)).map String.ofList, source ≠ "-")

/-- Counts lines, words and bytes. -/
def wc : Act Nat := do
  let g ← given
    { letters := "clLmw"
      words := [("bytes", "c"), ("chars", "m"), ("lines", "l"), ("words", "w"), ("max-line-length", "L")]
      valuedWords := [("files0-from", "files0")] }
  let wanted (c : Char) : Bool := g.has (String.singleton c) || (!g.hasAny "clLmw" && "lwc".toList.contains c)
  let columns (c : Counts) : List Nat :=
    (if wanted 'l' then [c.lines] else []) ++ (if wanted 'w' then [c.words] else [])
      ++ (if wanted 'm' then [c.chars] else []) ++ (if wanted 'c' then [c.bytes] else [])
      ++ (if wanted 'L' then [c.longest] else [])
  let (files, isListed) ←
    match g.value? "files0", g.operands with
    | none, operands => pure (orInput operands, true)
    | some source, [] => listedFiles source
    | some _, extra :: _ => do
      say ("extra operand " ++ quoted extra)
      complain "file operands cannot be combined with --files0-from"
      giveHint 1
  let sizes : List (Option (Bool × Nat)) ← files.mapM fun name => look fun pid k =>
    if name = "-" then
      match k.opened? pid 0 with
      | some (_, f) =>
        match f.channel with
        | .file n => some (true, (k.disk.record n).data.size)
        | _ => some (false, 0)
      | none => none
    else
      match (k.tree pid).find (pathOf name) true with
      | .ok (.file n) => some (true, (k.disk.record n).data.size)
      | .ok _ => some (false, 0)
      | .error _ => none
  let known := sizes.filterMap id
  let sum := known.foldl (fun n s => n + s.2) 0
  let width :=
    if !isListed || (files.length = 1 && (columns {}).length = 1) then 1
    else max (toString sum).length (if known.any fun s => !s.1 then 7 else 1)
  let shown (c : Counts) (name : String) : String :=
    " ".intercalate ((columns c).map fun n => Cell.right ⟨toString n, width, none⟩ ' ') ++ name ++ "\n"
  let label (name : String) : String :=
    if g.operands.isEmpty && !g.has "files0" then ""
    else " " ++ if name.contains '\n' then named name else name
  let wide := (← get).isWide
  let add : Counts → UInt8 → Counts := if wide then Counts.addWide else fun c b => c.addByte b true
  let (status, total) ← files.zipIdx.foldlM (fun (status, total) (name, i) => do
    if name = "" && g.has "files0" then
      say (named ((g.value? "files0").getD "") ++ ":" ++ toString (i + 1) ++ ": invalid zero-length file name")
      return (1, total)
    match ← openInput name with
    | .error e =>
      say (unreadable name e)
      return (1, total)
    | .ok fd =>
      let (result, counts) ← repeating ({} : Counts) fun c => do
        match ← readSome fd blockSize with
        | .error e => return .inr (some e, c)
        | .ok bytes => return if bytes.isEmpty then .inr (none, c) else .inl (bytes.data.foldl add c)
      closeInput fd
      match result with
      | none =>
        out (shown counts (label name))
        return (status, total.plus counts)
      | some e =>
        say (unreadable name e)
        out (shown counts (label name))
        return (1, total.plus counts)) (0, ({} : Counts))
  if 1 < files.length then out (shown total " total")
  return status

/-! ## Numbered lines -/

/-- Which lines are numbered. -/
inductive Counted where
  | all
  | filled
  | none
  | fitting (r : Regex)

/-- A part of a page. -/
inductive PagePart where
  | head
  | body
  | foot

/-- How lines are numbered. -/
structure Numbering where
  head : Counted
  body : Counted
  foot : Counted
  start : Int
  step : Int
  /-- How many empty lines in a row count as one. -/
  joins : Nat
  /-- Whether the numbers start again on each page. -/
  restarts : Bool
  width : Nat
  form : String
  gap : String
  /-- What lines that part pages are made of. -/
  sign : List Char

namespace Numbering

/-- Which lines of a part are numbered. -/
def counted (n : Numbering) : PagePart → Counted
  | .head => n.head
  | .body => n.body
  | .foot => n.foot

/-- The part that begins behind a line, if one does. -/
def partAt? (n : Numbering) (line : List Char) : Option PagePart :=
  if n.sign = [] then .none
  else if line = n.sign ++ n.sign ++ n.sign then some .head
  else if line = n.sign ++ n.sign then some .body
  else if line = n.sign then some .foot
  else .none

/-- A number as it is printed. -/
def numeral (n : Numbering) (k : Int) : String :=
  if n.form = "ln" then Cell.left ⟨toString k, n.width, .none⟩ ' '
  else if n.form = "rz" then
    let digits := toString k.natAbs
    if k < 0 then "-" ++ Cell.right ⟨digits, n.width - 1, .none⟩ '0' else Cell.right ⟨digits, n.width, .none⟩ '0'
  else Cell.right ⟨toString k, n.width, .none⟩ ' '

/-- What is kept from line to line: the next number, the part of the page, and how many empty lines have
come in a row. -/
structure Place where
  number : Int
  part : PagePart
  blanks : Nat

/-- A line as it is printed, and the place behind it. -/
def line (n : Numbering) (p : Place) (cs : List Char) : List Char × Place :=
  match n.partAt? cs with
  | some part => (['\n'], { p with part, number := if n.restarts then n.start else p.number })
  | .none =>
    let with_ (p : Place) : List Char × Place :=
      ((n.numeral p.number ++ n.gap).toList ++ cs ++ ['\n'], { p with number := p.number + n.step })
    let without (p : Place) : List Char × Place :=
      (List.replicate (n.width + n.gap.length) ' ' ++ cs ++ ['\n'], p)
    match n.counted p.part with
    | .all =>
      if n.joins ≤ 1 then with_ p
      else if !cs.isEmpty || p.blanks + 1 = n.joins then with_ { p with blanks := 0 }
      else without { p with blanks := p.blanks + 1 }
    | .filled => if cs.isEmpty then without p else with_ p
    | .none => without p
    | .fitting r => if (r.find? ⟨cs.toArray, false, false, true⟩ 0).isSome then with_ p else without p

end Numbering

/-- The whole number that a text is. -/
def integerOf? (s : String) : Option Int :=
  match s.toList with
  | '-' :: cs => (decimal? (String.ofList cs)).map fun n => -(n : Int)
  | '+' :: cs => (decimal? (String.ofList cs)).map Int.ofNat
  | _ => (decimal? s).map Int.ofNat

/-- Prints files with numbers in front of their lines. -/
def nl : Act Nat := do
  let g ← given
    { letters := "p", valued := "bdfhilnsvw"
      words := [("no-renumber", "p")]
      valuedWords := [("body-numbering", "b"), ("header-numbering", "h"), ("footer-numbering", "f"),
        ("line-increment", "i"), ("number-format", "n"), ("number-separator", "s"),
        ("starting-line-number", "v"), ("number-width", "w"), ("section-delimiter", "d"),
        ("join-blank-lines", "l")] }
  let counted (letter what : String) (usual : Counted) : Act Counted := do
    match g.value? letter with
    | none => return usual
    | some text =>
      match text.toList with
      | 'a' :: _ => return .all
      | 't' :: _ => return .filled
      | 'n' :: _ => return .none
      | 'p' :: cs =>
        match Regex.parse .basicSearch cs with
        | .ok r => return .fitting r
        | .error _ => stop 1 "Invalid regular expression"
      | _ => misuse 1 ("invalid " ++ what ++ " numbering style: " ++ cited text)
  let integer (letter what : String) (usual : Int) : Act Int := do
    match g.value? letter with
    | none => return usual
    | some text =>
      match integerOf? text with
      | some n => return n
      | none => stop 1 ("invalid " ++ what ++ ": " ++ cited text)
  let positive (letter what : String) (usual : Nat) : Act Nat := do
    let n ← integer letter what usual
    if n < 1 then
      stop 1 ("invalid " ++ what ++ ": " ++ cited ((g.value? letter).getD "") ++ ": Numerical result out of range")
    else return n.toNat
  let head ← counted "h" "header" .none
  let body ← counted "b" "body" .filled
  let foot ← counted "f" "footer" .none
  let start ← integer "v" "starting line number" 1
  let step ← integer "i" "line number increment" 1
  let joins ← positive "l" "line number of blank lines" 1
  let width ← positive "w" "line number field width" 6
  let form := (g.value? "n").getD "rn"
  unless ["ln", "rn", "rz"].contains form do misuse 1 ("invalid line numbering format: " ++ cited form)
  let sign :=
    match ((g.value? "d").map String.toList).getD ['\\', ':'] with
    | [c] => [c, ':']
    | cs => cs
  let n : Numbering :=
    { head, body, foot, start, step, joins, width, form, sign
      restarts := !g.has "p"
      gap := (g.value? "s").getD "\t" }
  let first : Numbering.Place := ⟨start, .body, 0⟩
  let (status, _) ← (orInput g.operands).foldlM (fun (status, place) name => do
    match ← withInput name fun fd => foldLines fd place fun place cs => do
      let (shown, place) := n.line place cs
      outChars shown
      return (place, true) with
    | .ok place => return (status, place)
    | .error e =>
      say (unreadable name e)
      return (1, place)) (0, first)
  return status

end CrossBench.Tool
