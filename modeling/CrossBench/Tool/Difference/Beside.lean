import CrossBench.Tool.Difference.Form

/-!
# Two files in one text

Both files in two columns beside each other, and both files in one, in formats in which each line and
each group of lines is written.
-/

namespace CrossBench.Tool.Difference

namespace Rules

/-! ## Columns -/

/-- The width of each of two columns, and the place at which the second one begins. -/
def columns (r : Rules) : Nat × Nat :=
  let step := if r.expandTabs then 1 else r.tabSize
  let gutter := step + 3
  let middle := r.width / 2 + gutter / 2 + (if r.width % 2 = 1 && gutter % 2 = 1 then 1 else 0)
  let middle := middle - middle % step
  let half := if middle ≤ 3 || r.width ≤ middle then 0 else min (middle - 3) (r.width - middle)
  (half, if half = 0 then r.width else middle)

/-- White space from one column to another. -/
def blanksTo (r : Rules) : Nat → Nat → Nat → String
  | 0, _, _ => ""
  | fuel + 1, here, there =>
    let next := here + r.tabSize - here % r.tabSize
    if !r.expandTabs && next ≤ there then "\t" ++ blanksTo r fuel next there
    else String.ofList (List.replicate (there - here) ' ')

/-- What fits of a line into a column that begins at `indent`, and the place that it reaches. The line
itself is at `here`, what has been written at `written`. -/
def fitted (r : Rules) (indent limit : Nat) : List (List Char) → Nat → Nat → String × Nat
  | [], _, written => ("", written)
  | unit :: rest, here, written =>
    let add (s : String) (next : String × Nat) : String × Nat := (s ++ next.1, next.2)
    match unit with
    | ['\n'] => ("", written)
    | ['\t'] =>
      let n := r.tabSize - here % r.tabSize
      if here ≠ written then fitted r indent limit rest (here + n) written
      else if r.expandTabs then
        let stop := min limit (written + n)
        add (String.ofList (List.replicate (stop - written) ' ')) (fitted r indent limit rest (here + n) (max written stop))
      else if written + n < limit then add "\t" (fitted r indent limit rest (here + n) (written + n))
      else fitted r indent limit rest (here + n) written
    | ['\r'] => add ("\r" ++ r.blanksTo (indent + 1) 0 indent) (fitted r indent limit rest 0 0)
    | [c] =>
      if c = Char.ofNat 8 then
        if here ≠ 0 && here - 1 < limit then
          if written ≤ here - 1 then
            add (String.ofList (List.replicate (here - 1 - written) ' ')) (fitted r indent limit rest (here - 1) (here - 1))
          else add (String.singleton c) (fitted r indent limit rest (here - 1) (here - 1))
        else fitted r indent limit rest (here - 1) written
      else if c < ' ' || c = Char.ofNat 127 then
        if here ≤ limit then add (String.singleton c) (fitted r indent limit rest here here)
        else fitted r indent limit rest here written
      else if here < limit then add (String.singleton c) (fitted r indent limit rest (here + 1) (here + 1))
      else fitted r indent limit rest (here + 1) written
    | unit =>
      if here + 1 ≤ limit then add (String.ofList unit) (fitted r indent limit rest (here + 1) (here + 1))
      else fitted r indent limit rest (here + 1) written

/-- Two lines beside each other, with a sign between them. -/
def beside (r : Rules) (wide : Bool) (left : Option String) (sign : Char) (right : Option String) : String :=
  let (half, second) := r.columns
  let unitsOf (line : String) : List (List Char) := Shell.Quoting.unitsOf wide line
  let (text, column) := (left.map fun l => r.fitted 0 half (unitsOf l) 0 0).getD ("", 0)
  let whole := left.any isWhole
  let (text, column) :=
    if sign = ' ' then (text, column)
    else
      let place := (half + second - 1) / 2
      let sign :=
        if sign = '|' && whole ≠ right.any isWhole then (if whole then '/' else '\\') else sign
      (text ++ r.blanksTo (place + 1) column place ++ String.singleton sign, max column place + 1)
  let text :=
    match right with
    | none => text
    | some line =>
      if line = "\n" then text
      else text ++ r.blanksTo (second + 1) column second ++ (r.fitted second half (unitsOf line) 0 0).1
  let text := text ++ (if whole || right.any isWhole then "\n" else "")
  r.paint (if sign = '<' then .gone else if sign = '>' then .come else .other) text

/-- Lines of both files that are the same. -/
def besideSame (r : Rules) (wide : Bool) (p : Pair) (start stop newStart newStop : Nat) : String :=
  if r.changesOnly then ""
  else
    let left := p.old.part start stop
    let right := p.new.part newStart newStop
    if r.leftOnly then String.join (left.map fun l => r.beside wide (some l) '(' none)
    else
      String.join ((left.zip right).map fun (l, m) => r.beside wide (some l) ' ' (some m))
        ++ String.join ((right.drop left.length).map fun m => r.beside wide none ')' (some m))
        ++ String.join ((left.drop right.length).map fun l => r.beside wide (some l) '(' none)

/-- Both files in two columns. -/
def columnsText (r : Rules) (wide : Bool) (p : Pair) (changes : List Change) : String :=
  let (text, reached, newReached) := changes.foldl (fun (text, reached, newReached) c =>
    let left := p.old.part c.start c.stop
    let right := p.new.part c.newStart c.newStop
    (text ++ r.besideSame wide p reached c.start newReached c.newStart
      ++ String.join ((left.zip right).map fun (l, m) => r.beside wide (some l) '|' (some m))
      ++ String.join ((right.drop left.length).map fun m => r.beside wide none '>' (some m))
      ++ String.join ((left.drop right.length).map fun l => r.beside wide (some l) '<' none),
      c.stop, c.newStop)) ("", 0, 0)
  text ++ r.besideSame wide p reached p.old.lines.size newReached p.new.lines.size

/-! ## Formats -/

/-- Lines of one file that a format speaks of. -/
structure Group where
  side : Side
  start : Nat
  stop : Nat

/-- A number of a group that a letter means. -/
def Group.number? (g : Group) (letter : Char) : Option Nat :=
  match letter with
  | 'e' => some g.start
  | 'f' => some (g.start + 1)
  | 'l' => some g.stop
  | 'm' => some (g.stop + 1)
  | 'n' => some (g.stop - g.start)
  | _ => none

/-- A number of the one of two groups that a letter means. -/
def numberOf? (old new : Group) (letter : Char) : Option Nat :=
  if letter.isUpper then new.number? letter.toLower else old.number? letter

/-- A character in quotes, and what follows. -/
def quotedChar? : List Char → Option (Char × List Char)
  | '\\' :: rest =>
    let digits := rest.takeWhile fun c => '0' ≤ c && c ≤ '7'
    if (rest.drop digits.length).head? = some '\'' && 1 ≤ digits.length && digits.length ≤ 3 then
      some (Char.ofNat (digits.foldl (fun n c => n * 8 + (c.toNat - 48)) 0 % 256), rest.drop (digits.length + 1))
    else none
  | '\'' :: _ => none
  | c :: '\'' :: rest => some (c, rest)
  | _ => none

/-- A directive with a number or a character, and what follows; `number?` tells the number of a letter. -/
def directive? (number? : Char → Option Nat) (cs : List Char) : Option (String × List Char) :=
  let flags := cs.takeWhile fun c => c == '-' || c == '\'' || c == '0'
  let rest := cs.drop flags.length
  let width := rest.takeWhile Char.isDigit
  let rest := rest.drop width.length
  let digits := if rest.head? = some '.' then (rest.drop 1).takeWhile Char.isDigit else []
  let precise := rest.head? = some '.'
  let rest := if precise then rest.drop (digits.length + 1) else rest
  let value (ds : List Char) : Nat := ds.foldl (fun n c => n * 10 + (c.toNat - 48)) 0
  match rest with
  | 'c' :: '\'' :: rest => (quotedChar? rest).map fun (c, rest) => (String.singleton c, rest)
  | kind :: letter :: rest =>
    let base := if kind = 'd' then 10 else if kind = 'o' then 8 else if kind = 'x' || kind = 'X' then 16 else 0
    if base = 0 then none
    else
      (number? letter).map fun n =>
        let ds := Nat.toDigits base n
        let ds := if kind = 'X' then ds.map Char.toUpper else ds
        let ds := List.replicate (value digits - ds.length) '0' ++ ds
        let room := value width - ds.length
        let ds :=
          if flags.contains '-' then ds ++ List.replicate room ' '
          else if flags.contains '0' && !precise then List.replicate room '0' ++ ds
          else List.replicate room ' ' ++ ds
        (String.ofList ds, rest)
  | _ => none

/-- A line in a format; `number` is its number. -/
def lineText (r : Rules) (number : Nat) (line : String) : Nat → List Char → String
  | 0, _ => ""
  | _, [] => ""
  | fuel + 1, '%' :: c :: rest =>
    match c with
    | '%' => "%" ++ lineText r number line fuel rest
    | 'l' => r.content "" line ++ lineText r number line fuel rest
    | 'L' => r.verbatim line ++ lineText r number line fuel rest
    | _ =>
      match directive? (fun d => if d = 'n' then some number else none) (c :: rest) with
      | some (text, rest) => text ++ lineText r number line fuel rest
      | none => "%" ++ lineText r number line fuel (c :: rest)
  | fuel + 1, c :: rest => String.singleton c ++ lineText r number line fuel rest

/-- The lines of a group in a format. -/
def linesText (r : Rules) (format : Option String) (g : Group) : String :=
  let format := (format.getD "%l\n").toList
  String.join (((g.side.part g.start g.stop).zipIdx).map fun (line, i) =>
    r.lineText (g.start + i + 1) line (format.length + 1) format)

/-- Two groups in a format up to a character, and what follows; nothing is written if they are not
`shown`. -/
def groupText (r : Rules) (old new : Group) : Nat → Option Char → List Char → String × List Char
  | 0, _, rest => ("", rest)
  | _, _, [] => ("", [])
  | fuel + 1, stop, c :: rest =>
    let add (s : String) (next : String × List Char) : String × List Char := (s ++ next.1, next.2)
    if stop = some c then ("", c :: rest)
    else if c ≠ '%' then add (String.singleton c) (groupText r old new fuel stop rest)
    else
      match rest with
      | '%' :: rest => add "%" (groupText r old new fuel stop rest)
      | '<' :: rest => add (r.linesText r.lines.old old) (groupText r old new fuel stop rest)
      | '=' :: rest => add (r.linesText r.lines.same old) (groupText r old new fuel stop rest)
      | '>' :: rest => add (r.linesText r.lines.new new) (groupText r old new fuel stop rest)
      | '(' :: inner =>
        let operand (cs : List Char) : Option (Nat × List Char) :=
          let ds := cs.takeWhile Char.isDigit
          if ds ≠ [] then some (ds.foldl (fun n c => n * 10 + (c.toNat - 48)) 0, cs.drop ds.length)
          else
            match cs with
            | d :: cs => (numberOf? old new d).map fun n => (n, cs)
            | [] => none
        let parts : Option (Bool × List Char) :=
          match operand inner with
          | some (a, '=' :: cs) =>
            match operand cs with
            | some (b, '?' :: cs) => some (a == b, cs)
            | _ => none
          | _ => none
        match parts with
        | none => add "%" (groupText r old new fuel stop rest)
        | some (equal, cs) =>
          let (first, cs) := groupText r old new fuel (some ':') cs
          let (second, cs) := groupText r old new fuel (some ')') (cs.drop 1)
          add (if equal then first else second) (groupText r old new fuel stop (cs.drop 1))
      | rest =>
        match directive? (numberOf? old new) rest with
        | some (text, rest) => add text (groupText r old new fuel stop rest)
        | none => add "%" (groupText r old new fuel stop rest)

/-- Both files in one. -/
def mergedText (r : Rules) (p : Pair) (changes : List Change) : String :=
  let old := (r.groups.old.orElse fun _ => r.groups.changed).getD "%<"
  let new := (r.groups.new.orElse fun _ => r.groups.changed).getD "%>"
  let same := r.groups.same.getD "%="
  let changed := r.groups.changed.getD (old ++ new)
  let text (format : String) (start stop newStart newStop : Nat) : String :=
    (r.groupText ⟨p.old, start, stop⟩ ⟨p.new, newStart, newStop⟩ (format.length + 1) none format.toList).1
  let (shown, reached, newReached) := changes.foldl (fun (shown, reached, newReached) c =>
    let format := if c.deleted = 0 then new else if c.inserted = 0 then old else changed
    (shown
      ++ (if reached < c.start || newReached < c.newStart then text same reached c.start newReached c.newStart
        else "")
      ++ text format c.start c.stop c.newStart c.newStop, c.stop, c.newStop)) ("", 0, 0)
  shown ++ (if reached < p.old.lines.size then text same reached p.old.lines.size newReached p.new.lines.size
    else "")

/-- The differences between two files. -/
def telling (r : Rules) (wide : Bool) (p : Pair) (changes : List Change) : String :=
  let told := changes.filter fun c => !r.isIdleHunk p [c]
  let parts (text : List Change → Window → Option String → String) : String :=
    let hunks := r.hunks p changes
    let windows := hunks.map (r.windowOf p)
    let headings := r.headingsOf p windows
    r.headerText p
      ++ String.join ((hunks.zip (windows.zip headings)).map fun (h, w, heading) => text h w heading)
  match r.form with
  | .plain => String.join (told.map (r.plainText p))
  | .editor => String.join (told.reverse.map (r.editorText p))
  | .forward => String.join (told.map (r.forwardText p))
  | .counted => String.join (told.map (r.countedText p))
  | .context => parts (r.contextText p)
  | .unified => parts (r.unifiedText p)
  | .columns => r.columnsText wide p told
  | .merged => r.mergedText p told

end Rules

end CrossBench.Tool.Difference
