import CrossBench.Shell.Print.Format
import CrossBench.Text.Layout
import CrossBench.Text.Version
import CrossBench.Tool.Input
import Std.Data.HashMap

/-!
# Lines in order

The programs that put lines into an order, or that compare lines which are in order. `tsort` reads pairs of
words, the first of which has to come before the second, and puts all words into an order in which that is
so. Where words wait for each other in a circle it names the circle, forgets one of the pairs in it, and goes
on.
-/

namespace CrossBench.Tool

open Shell Shell.Act

/-! ## Keys -/

/-- A part of a line by which lines are put into order. -/
structure SortKey where
  /-- The first field and the first character in it, from 1 on. -/
  field : Nat
  char : Nat
  /-- The last field and the last character in it; the character is 0 for all of the field. -/
  last : Option (Nat × Nat)
  /-- The letters that say what counts. -/
  manner : List Char
  /-- Whether blanks in front do not count where the key begins and where it ends. -/
  skipsBlanks : Bool
  endSkipsBlanks : Bool

namespace SortKey

/-- A blank. -/
def isBlank (c : Char) : Bool := c == ' ' || c == '\t'

/-- A line without so many fields in front. With a separator that one is left out too, unless
`keepsLast`. -/
def dropFields (separator : Option Char) (keepsLast : Bool) : Nat → List Char → List Char
  | 0, cs => cs
  | n + 1, cs =>
    match separator with
    | some t =>
      let rest := cs.dropWhile (· != t)
      if n = 0 && keepsLast then rest else dropFields separator keepsLast n (rest.drop 1)
    | none => dropFields separator keepsLast n ((cs.dropWhile isBlank).dropWhile fun c => !isBlank c)

/-- The part of a line that a key is. -/
def part (k : SortKey) (separator : Option Char) (line : List Char) : List Char :=
  let front := dropFields separator false (k.field - 1) line
  let front := (if k.skipsBlanks then front.dropWhile isBlank else front).drop (k.char - 1)
  match k.last with
  | none => front
  | some (field, char) =>
    let behind :=
      if char = 0 then dropFields separator true field line
      else
        let rest := dropFields separator false (field - 1) line
        (if k.endSkipsBlanks then rest.dropWhile isBlank else rest).drop char
    front.take (front.length - behind.length)

/-- The number in front of a text, as an integer and the places of its fraction. -/
def numberOf (cs : List Char) : Int × Nat :=
  let cs := cs.dropWhile isBlank
  let negative := cs.head? == some '-'
  let cs := if negative then cs.drop 1 else cs
  let whole := cs.takeWhile Char.isDigit
  let fraction :=
    match cs.drop whole.length with
    | '.' :: rest => rest.takeWhile Char.isDigit
    | _ => []
  let n : Int := ((whole ++ fraction).foldl (fun n c => n * 10 + (c.toNat - 48)) 0 : Nat)
  (if negative then -n else n, fraction.length)

/-- The order of numbers. -/
def compareNumbers (a b : Int × Nat) : Ordering :=
  compare (a.1 * Nat.pow 10 b.2) (b.1 * Nat.pow 10 a.2)

/-- How large the letter behind a number makes it. -/
def scaleOf (cs : List Char) : Nat :=
  let cs := (cs.dropWhile fun c => isBlank c || c == '-').dropWhile fun c => c.isDigit || c == '.'
  match cs with
  | c :: _ => ("KMGTPEZY".toList.findIdx? (· == c.toUpper)).elim 0 (· + 1)
  | [] => 0

/-- The order of texts. -/
def compareTexts (a b : List Char) : Ordering :=
  if a < b then .lt else if b < a then .gt else .eq

/-- The number of the month that a text begins with; 0 if there is none. -/
def monthOf (cs : List Char) : Nat :=
  let name := ((cs.dropWhile isBlank).take 3).map Char.toUpper
  (["JAN", "FEB", "MAR", "APR", "MAY", "JUN", "JUL", "AUG", "SEP", "OCT", "NOV", "DEC"].findIdx?
    fun m => m.toList = name).elim 0 (· + 1)

/-- A number that may be no finite one: its rank among such, and the number. -/
def generalOf (cs : List Char) : Nat × Int × Nat :=
  match leadingNumber? 64 cs with
  | none => (0, 0, 1)
  | some l =>
    match l.magnitude with
    | .nan => (1, 0, 1)
    | .infinite => (if l.negative then 2 else 4, 0, 1)
    | .quotient num den => (3, if l.negative then -(num : Int) else num, den)

/-- A number that is made of a text. -/
def scattered (cs : List Char) : Nat :=
  cs.foldl (fun h c => (h * 1103515245 + c.toNat * 12345 + 97) % 2147483647) 17

/-- The order of two parts of lines. -/
def compareParts (k : SortKey) (a b : List Char) : Ordering :=
  let has (c : Char) : Bool := k.manner.contains c
  let folded (cs : List Char) : List Char :=
    let cs := if has 'd' then cs.filter fun c => c.isAlphanum || isBlank c else cs
    let cs := if has 'i' then cs.filter Quoting.isPrintable else cs
    if has 'f' then cs.map Char.toUpper else cs
  let order :=
    if has 'n' then compareNumbers (numberOf a) (numberOf b)
    else if has 'g' then
      let (r, x, p) := generalOf a
      let (s, y, q) := generalOf b
      (compare r s).then (compare (x * q) (y * p))
    else if has 'h' then
      let x := numberOf a
      let y := numberOf b
      let scale (n : Int × Nat) (cs : List Char) : Int :=
        if n.1 < 0 then -(scaleOf cs : Int) else scaleOf cs
      (compare (x.1.sign) (y.1.sign)).then
        ((compare (scale x a) (scale y b)).then (compareNumbers x y))
    else if has 'M' then compare (monthOf a) (monthOf b)
    else if has 'V' then Version.order a b
    else if has 'R' then (compare (scattered a) (scattered b)).then (compareTexts a b)
    else compareTexts (folded a) (folded b)
  if has 'r' then order.swap else order

/-- The letters behind a place in a key. -/
def orderLetters : List Char := "bdfghiMnRrV".toList

/-- A number in a key. -/
def takeNumber (cs : List Char) : Option (Nat × List Char) :=
  let ds := cs.takeWhile Char.isDigit
  if ds = [] then none else some (ds.foldl (fun n c => n * 10 + (c.toNat - 48)) 0, cs.drop ds.length)

/-- Reads a key. -/
def parse (text : String) : Except String SortKey := do
  let wrong (why : String) : Except String SortKey :=
    .error (why ++ ": invalid field specification " ++ cited text)
  let some (field, rest) := takeNumber text.toList
    | .error ("invalid number at field start: invalid count at start of " ++ cited text)
  if field = 0 then wrong "field number is zero"
  else
    let start : Except String (Nat × List Char) :=
      match rest with
      | '.' :: more =>
        match takeNumber more with
        | some r => .ok r
        | none =>
          .error ("invalid number after '.': invalid count at start of " ++ cited (String.ofList more))
      | rest => .ok (1, rest)
    let (char, rest) ← start
    if char = 0 then wrong "character offset is zero"
    else
      let letters := rest.takeWhile orderLetters.contains
      match rest.drop letters.length with
      | [] => return ⟨field, char, none, letters.filter (· != 'b'), letters.contains 'b', false⟩
      | ',' :: more =>
        match takeNumber more with
        | none =>
          .error ("invalid number after ',': invalid count at start of " ++ cited (String.ofList more))
        | some (lastField, rest) =>
          if lastField = 0 then wrong "field number is zero"
          else
            let (lastChar, rest) ←
              match rest with
              | '.' :: more =>
                match takeNumber more with
                | some r => Except.ok r
                | none => .error ("invalid number after '.': invalid count at start of "
                    ++ cited (String.ofList more))
              | rest => .ok (0, rest)
            let more := rest.takeWhile orderLetters.contains
            if rest.length ≠ more.length then wrong "stray character in field spec"
            else
              return ⟨field, char, some (lastField, lastChar), (letters ++ more).filter (· != 'b'),
                letters.contains 'b', more.contains 'b'⟩
      | _ => wrong "stray character in field spec"

end SortKey

/-- How lines are put into order. -/
structure Sorting where
  keys : List SortKey
  separator : Option Char
  /-- Whether lines with equal keys keep their places. -/
  stable : Bool
  reversed : Bool

namespace Sorting

/-- A line with the parts that its keys are. -/
abbrev Keyed := List Char × List (List Char)

/-- A line with its keys. -/
def keyed (s : Sorting) (line : List Char) : Keyed := (line, s.keys.map fun k => k.part s.separator line)

/-- The order of the keys of two lines. -/
def compareKeys (s : Sorting) (a b : Keyed) : Ordering :=
  (s.keys.zip (a.2.zip b.2)).foldl (fun o (k, x, y) => o.then (k.compareParts x y)) .eq

/-- The order of two lines. -/
def compareLines (s : Sorting) (a b : Keyed) : Ordering :=
  (s.compareKeys a b).then
    (if s.stable then .eq
      else if s.reversed then (SortKey.compareTexts a.1 b.1).swap
      else SortKey.compareTexts a.1 b.1)

/-- Whether a line may stand in front of another. -/
def inOrder (s : Sorting) (a b : Keyed) : Bool := s.compareLines a b != .gt

end Sorting

/-- The letters of the manners of a key that cannot be together, if there are any. -/
def SortKey.conflict? (k : SortKey) : Option String :=
  let has (c : Char) : Bool := k.manner.contains c
  let ignores := has 'd' || has 'i'
  let kinds := (['n', 'g', 'h', 'M'].filter has).length + if has 'V' || has 'R' || ignores then 1 else 0
  if 1 < kinds then
    some (String.ofList ("dfghiMnRV".toList.filter fun c => has c && !(c = 'i' && has 'd')))
  else none

/-- The words of a call in which keys that are told by a plus sign and a hyphen are told by an option. The
first number of such a key counts from zero. -/
def modernKeys : Nat → List String → List String
  | 0, words => words
  | _, [] => []
  | _, "--" :: rest => "--" :: rest
  | fuel + 1, a :: rest =>
    match a.toList with
    | '+' :: cs =>
      match SortKey.takeNumber cs with
      | none => a :: modernKeys fuel rest
      | some (field, more) =>
        let (char, more) : Nat × List Char :=
          match more with
          | '.' :: ds => (SortKey.takeNumber ds).getD (0, more)
          | _ => (0, more)
        if !more.all SortKey.orderLetters.contains then a :: modernKeys fuel rest
        else
          let start := toString (field + 1) ++ "." ++ toString (char + 1) ++ String.ofList more
          match rest with
          | b :: rest' =>
            match b.toList with
            | '-' :: ds =>
              match SortKey.takeNumber ds with
              | none => "-k" :: start :: modernKeys fuel rest
              | some (last, more) =>
                let (lastChar, more) : Nat × List Char :=
                  match more with
                  | '.' :: ds => (SortKey.takeNumber ds).getD (0, more)
                  | _ => (0, more)
                let stop := if lastChar = 0 then toString last else toString (last + 1) ++ "." ++ toString lastChar
                "-k" :: (start ++ "," ++ stop ++ String.ofList more) :: modernKeys fuel rest'
            | _ => "-k" :: start :: modernKeys fuel rest
          | [] => ["-k", start]
    | _ => a :: modernKeys fuel rest

/-- The files that a file names, each name ending with a zero. -/
def namedFiles (g : Given) : Act (List String) := do
  match g.value? "files" with
  | none => return orInput g.operands
  | some source =>
    match g.operands with
    | [] => pure ()
    | extra :: _ =>
      say ("extra operand " ++ quoted extra)
      complain "file operands cannot be combined with --files0-from"
      giveHint 2
    match ← contents source with
    | .error e => stop 2 ("open failed: " ++ unreadable source e)
    | .ok bytes =>
      let names := (linesBy (Char.ofNat 0) (charsOf bytes)).map String.ofList
      if names.isEmpty then stop 2 ("no input from " ++ cited source)
      match names.zipIdx.find? fun n => n.1 = "" || (source = "-" && n.1 = "-") with
      | none => return names
      | some (n, i) =>
        if n = "" then stop 2 (named source ++ ":" ++ toString (i + 1) ++ ": invalid zero-length file name")
        else stop 2 ("when reading file names from standard input, no file name of " ++ cited n ++ " allowed")

/-- Puts lines into order. -/
def sort : Act Nat := do
  modify fun s => { s with arguments := modernKeys (s.arguments.length + 1) s.arguments }
  let g ← given
    { letters := "bcCdfghiMmnRrsuVz", valued := "koStTy"
      words := [("ignore-leading-blanks", "b"), ("dictionary-order", "d"), ("ignore-case", "f"),
        ("general-numeric-sort", "g"), ("human-numeric-sort", "h"), ("ignore-nonprinting", "i"),
        ("month-sort", "M"), ("merge", "m"), ("numeric-sort", "n"), ("random-sort", "R"),
        ("reverse", "r"), ("stable", "s"), ("unique", "u"), ("version-sort", "V"),
        ("zero-terminated", "z"), ("debug", "debug")]
      valuedWords := [("key", "k"), ("output", "o"), ("buffer-size", "S"), ("field-separator", "t"),
        ("temporary-directory", "T"), ("parallel", "parallel"), ("batch-size", "batch"),
        ("sort", "sort"), ("compress-program", "compress"), ("random-source", "source"),
        ("files0-from", "files")]
      freeWords := [("check", "c")], usage := 2 }
  let separator : Option Char ←
    match g.value? "t" with
    | none => pure none
    | some "" => stop 2 "empty tab"
    | some "\\0" => pure (some (Char.ofNat 0))
    | some t => if t.length = 1 then pure t.toList.head? else stop 2 ("multi-character tab " ++ cited t)
  let named : List Char ←
    match g.value? "sort" with
    | none => pure []
    | some value =>
      let kinds := ["general-numeric", "human-numeric", "month", "numeric", "random", "version"]
      let kind ← wordGiven "--sort" value kinds
      pure ((kinds.zip ['g', 'h', 'M', 'n', 'R', 'V']).lookup kind).toList
  let check ←
    match g.value? "c" with
    | none | some "" => pure "diagnose-first"
    | some value => wordGiven "--check" value ["quiet|silent", "diagnose-first"]
  if g.has "c" && g.has "C" then stop 2 ("options '-cC' are incompatible")
  match g.value? "parallel" with
  | none => pure ()
  | some n =>
    match decimal? n with
    | none => stop 2 ("invalid --parallel argument '" ++ n ++ "'")
    | some 0 => stop 2 "number in parallel must be nonzero"
    | some _ => pure ()
  match g.value? "S" with
  | none => pure ()
  | some n =>
    let letters := n.toList.dropWhile Char.isDigit
    if letters.length = n.length || 1 < letters.length || !letters.all "%bEGKkMmPTtYZ".toList.contains then
      stop 2 ("invalid -S argument '" ++ n ++ "'")
  match g.value? "batch" with
  | none => pure ()
  | some n =>
    match decimal? n with
    | none => stop 2 ("invalid --batch-size argument '" ++ n ++ "'")
    | some k =>
      if k < 2 then
        say ("invalid --batch-size argument " ++ cited n)
        stop 2 ("minimum --batch-size argument is " ++ cited "2")
  let everywhere := named ++ "dfghiMnRV".toList.filter fun c => g.has (String.singleton c)
  let reversed := g.has "r"
  let keys ← (g.values "k").mapM fun text => do
    match SortKey.parse text with
    | .ok k => pure k
    | .error why => stop 2 why
  let inherit (k : SortKey) : SortKey :=
    if k.manner = [] && !k.skipsBlanks && !k.endSkipsBlanks then
      { k with
        manner := if reversed then 'r' :: everywhere else everywhere
        skipsBlanks := g.has "b"
        endSkipsBlanks := g.has "b" }
    else k
  let whole : SortKey :=
    ⟨1, 1, none, if reversed then 'r' :: everywhere else everywhere, g.has "b", false⟩
  let keys := if keys.isEmpty then [whole] else keys.map inherit
  let s : Sorting := ⟨keys, separator, g.has "s" || g.has "u", reversed⟩
  match keys.findSome? SortKey.conflict? with
  | some letters => stop 2 ("options '-" ++ letters ++ "' are incompatible")
  | none => pure ()
  let mark := lineMark (g.has "z")
  let files ← namedFiles g
  let checks := g.last? "cC"
  if checks.isSome && 1 < files.length then
    stop 2 ("extra operand " ++ cited (files.getD 1 "") ++ " not allowed with -c")
  if checks.isSome && g.has "o" then
    stop 2 ("options '-" ++ String.ofList checks.toList ++ "o' are incompatible")
  let inputs ← files.mapM fun name => do
    match ← openInput name with
    | .error e => stop 2 ("cannot read: " ++ unreadable name e)
    | .ok fd =>
      match ← readAll fd with
      | .error e => stop 2 ("read failed: " ++ unreadable name e)
      | .ok bytes =>
        closeInput fd
        pure ((linesBy mark (charsOf bytes)).map s.keyed)
  match checks with
  | some letter =>
    let lines := inputs.flatten
    let pairs := lines.zip (lines.drop 1)
    let bad := pairs.zipIdx.find? fun ((a, b), _) =>
      match s.compareLines a b with
      | .gt => true
      | .eq => g.has "u"
      | .lt => false
    match bad with
    | none => return 0
    | some ((_, b), i) =>
      if letter = 'c' && check = "diagnose-first" then
        say (files.headD "-" ++ ":" ++ toString (i + 2) ++ ": disorder: " ++ String.ofList b.1)
      return 1
  | none =>
    let sorted :=
      if g.has "m" then inputs.foldl (fun a b => List.merge a b s.inOrder) []
      else inputs.flatten.mergeSort s.inOrder
    let kept :=
      if g.has "u" then
        (sorted.foldl (fun (kept : List Sorting.Keyed) l =>
          match kept with
          | last :: _ => if s.compareKeys last l == .eq then kept else l :: kept
          | [] => [l]) []).reverse
      else sorted
    let lines := kept.map (·.1)
    match g.value? "o" with
    | none =>
      outLines mark lines
      return 0
    | some name =>
      let fd ← freeFrom firstFile
      match ← openAt fd (pathOf name) .writing 0o666 with
      | .error e => stop 2 ("open failed: " ++ unreadable name e)
      | .ok () =>
        match ← Act.write fd (packedChars (lines.flatMap (· ++ [mark]))) with
        | .ok () => return 0
        | .error e => stop 2 ("write failed: " ++ unreadable name e)

/-! ## Runs of lines -/

/-- The options of a call in which numbers without a letter say what is skipped: fields behind a hyphen, and
characters behind a plus sign. -/
def oldSkips : List String → List String
  | [] => []
  | "--" :: rest => "--" :: rest
  | a :: rest =>
    match a.toList with
    | '-' :: cs =>
      if cs ≠ [] && cs.all Char.isDigit then ("-f" ++ String.ofList cs) :: oldSkips rest
      else
        match rest with
        | value :: rest =>
          if ["-f", "-s", "-w"].contains a then a :: value :: oldSkips rest else a :: oldSkips (value :: rest)
        | [] => [a]
    | '+' :: cs => if cs ≠ [] && cs.all Char.isDigit then ("-s" ++ String.ofList cs) :: oldSkips rest else a :: oldSkips rest
    | _ => a :: oldSkips rest

/-- How runs of equal lines are printed. -/
structure Runs where
  /-- Whether a run is told by its first line and its length. -/
  counts : Bool
  /-- Whether runs of one line are left out. -/
  repeated : Bool
  /-- Whether runs of several lines are left out. -/
  single : Bool
  /-- Whether all lines of a run of several are printed, and where empty lines stand between the runs. -/
  all : Option String
  /-- Whether all lines are printed, and where empty lines stand between the runs. -/
  groups : Option String

/-- How a run is printed, if something has been printed in front of it or nothing. -/
def Runs.shown (r : Runs) (mark : Char) (started : Bool) (lines : List (List Char)) : Option (List Char) :=
  let n := lines.length
  let whole := lines.flatMap (· ++ [mark])
  match r.groups, r.all with
  | some place, _ =>
    let front :=
      match place with
      | "prepend" => true
      | "separate" => started
      | "both" => !started
      | _ => false
    some ((if front then [mark] else []) ++ whole ++ if place = "append" || place = "both" then [mark] else [])
  | none, some place =>
    if n ≤ 1 then none
    else some ((if place = "prepend" || place = "separate" && started then [mark] else []) ++ whole)
  | none, none =>
    if (r.repeated && n ≤ 1) || (r.single && 1 < n) then none
    else
      let count := if r.counts then (Cell.right ⟨toString n, 7, none⟩ ' ' ++ " ").toList else []
      some (count ++ lines.headD [] ++ [mark])

/-- Prints runs of equal lines as one. -/
def uniq : Act Nat := do
  modify fun s => { s with arguments := oldSkips s.arguments }
  let g ← given
    { letters := "cdDiuz", valued := "fsw"
      words := [("count", "c"), ("repeated", "d"), ("ignore-case", "i"), ("unique", "u"),
        ("zero-terminated", "z")]
      valuedWords := [("skip-fields", "f"), ("skip-chars", "s"), ("check-chars", "w")]
      freeWords := [("all-repeated", "D"), ("group", "group")] }
  let number (letter what : String) : Act (Option Nat) := do
    match g.value? letter with
    | none => return none
    | some text =>
      match decimal? text with
      | some n => return some n
      | none => stop 1 (text ++ ": invalid number of " ++ what)
  let fields ← number "f" "fields to skip"
  let chars ← number "s" "bytes to skip"
  let most ← number "w" "bytes to compare"
  let all ←
    match g.value? "D" with
    | none => pure none
    | some "" => pure (some "none")
    | some word => pure (some (← wordGiven "--all-repeated" word ["none", "prepend", "separate"]))
  let groups ←
    match g.value? "group" with
    | none => pure none
    | some "" => pure (some "separate")
    | some word => pure (some (← wordGiven "--group" word ["prepend", "append", "separate", "both"]))
  if 2 < g.operands.length then misuse 1 ("extra operand " ++ cited (g.operands.getD 2 ""))
  if groups.isSome && g.hasAny "cdDu" then misuse 1 "--group is mutually exclusive with -c/-d/-D/-u"
  if g.has "c" && g.has "D" then misuse 1 "printing all duplicated lines and repeat counts is meaningless"
  let rec skipFields : Nat → List Char → List Char
    | 0, cs => cs
    | n + 1, cs => skipFields n ((cs.dropWhile SortKey.isBlank).dropWhile fun c => !SortKey.isBlank c)
  let key (cs : List Char) : List Char :=
    let cs := (skipFields (fields.getD 0) cs).drop (chars.getD 0)
    let cs := match most with
      | some n => cs.take n
      | none => cs
    if g.has "i" then cs.map Char.toLower else cs
  let mark := lineMark (g.has "z")
  let name := g.operands.headD "-"
  let runs : Runs := ⟨g.has "c", g.has "d", g.has "u", all, groups⟩
  match ← openInput name with
  | .error e => stop 1 (unreadable name e)
  | .ok fd =>
    let output : Nat ←
      match g.operands[1]? with
      | none => pure 1
      | some "-" => pure 1
      | some file => do
        let fd ← freeFrom firstFile
        match ← openAt fd (pathOf file) .writing 0o666 with
        | .ok () => pure fd
        | .error e => stop 1 (unreadable file e)
    let print (started : Bool) (run : List (List Char)) : Act Bool := do
      match if run.isEmpty then none else runs.shown mark started run.reverse with
      | none => return started
      | some cs =>
        if output = 1 then outChars cs
        else
          let _ ← Act.write output (packedChars cs)
        return true
    let result ← foldLinesBy (lineEnd (g.has "z")) fd (([] : List (List Char)), false)
      fun (run, started) line => do
        match run with
        | [] => return (([line], started), true)
        | last :: _ =>
          if key last = key line then return ((line :: run, started), true)
          else
            let started ← print started run
            return (([line], started), true)
    match result with
    | .error e => stop 1 ("error reading " ++ quoted name ++ ": " ++ e.plainMessage)
    | .ok (run, started) =>
      let _ ← print started run
      return 0

/-! ## What comes before what -/

/-- Words, and which of them come before which. -/
structure Precedence where
  /-- The words, in their order. -/
  words : Array (List Char)
  /-- The words that each word comes before, of which the last that was read is the first. -/
  after : Array (List Nat)
  /-- How many pairs each word still waits for. -/
  waits : Array Nat
  /-- The words that have been put out. -/
  done : Array Bool

namespace Precedence

/-- What is told while words are put into an order. -/
inductive Event where
  | word (w : List Char)
  | circle (ws : List (List Char))

/-- The words of some pairs, with the pairs of two different words. -/
def ofPairs (pairs : List (List Char × List Char)) : Precedence :=
  let all := pairs.flatMap fun p => [p.1, p.2]
  let words := ((all.mergeSort fun a b => SortKey.compareTexts a b != .gt).eraseReps).toArray
  let places : Std.HashMap String Nat :=
    (List.range words.size).foldl (fun m i => m.insert (String.ofList (words.getD i [])) i) ∅
  pairs.foldl (fun p (a, b) =>
    if a = b then p
    else
      let i := places.getD (String.ofList a) 0
      let j := places.getD (String.ofList b) 0
      { p with after := p.after.modify i (j :: ·), waits := p.waits.modify j (· + 1) })
    ⟨words, Array.replicate words.size [], Array.replicate words.size 0, Array.replicate words.size false⟩

/-- The places of all words. -/
def places (p : Precedence) : List Nat := List.range p.words.size

/-- Whether a word waits for another. -/
def isWaiting (p : Precedence) (i : Nat) : Bool := 0 < p.waits.getD i 0

/-- A pair no longer holds its second word back. -/
def release (p : Precedence) (i : Nat) : Precedence := { p with waits := p.waits.modify i (· - 1) }

/-- Puts out the words of a queue, and behind them those that then wait for none. The words that have been
put out stand in front of `told`, the last one first. -/
def drain : Nat → Precedence → List Nat → List Nat → List Event → Precedence × List Event
  | 0, p, _, _, told => (p, told)
  | _ + 1, p, [], [], told => (p, told)
  | n + 1, p, [], late, told => drain n p late.reverse [] told
  | n + 1, p, i :: queue, late, told =>
    let (p, late) := (p.after.getD i []).foldl (fun (p, late) j =>
      let p := p.release j
      (p, if p.isWaiting j then late else j :: late)) (p, late)
    drain n { p with done := p.done.setIfInBounds i true } queue late (.word (p.words.getD i []) :: told)

/-- A search for a circle: where it has come to, and for each word it has been at the word behind it. -/
structure Trail where
  head : Option Nat
  next : Array (Option Nat)

/-- The words of a trail up to one of them. -/
def Trail.upTo (t : Trail) (stop : Nat) : Nat → Nat → List Nat
  | 0, _ => []
  | n + 1, i =>
    if i = stop then [i]
    else i :: (((t.next.getD i none).map (t.upTo stop n)).getD [])

/-- Goes through words and puts each that comes before the head of the trail in front of it, until one of
them is on the trail already: then the trail up to there is a circle. -/
def seek (p : Precedence) : List Nat → Trail → Trail ⊕ List Nat
  | [], t => .inl t
  | k :: rest, t =>
    if p.isWaiting k then
      match t.head with
      | none => seek p rest { t with head := some k }
      | some head =>
        if (p.after.getD k []).contains head then
          if (t.next.getD k none).isSome then .inr (t.upTo k (p.words.size + 1) head)
          else seek p rest ⟨some k, t.next.setIfInBounds k (some head)⟩
        else seek p rest t
    else seek p rest t

/-- A circle, if one is found by going through all words some times. -/
def circle? (p : Precedence) : Nat → Trail → Option (List Nat)
  | 0, _ => none
  | n + 1, t =>
    match p.seek p.places t with
    | .inr found => some found
    | .inl t => circle? p n t

/-- Forgets the pair that closes a circle: that of its last word and its first. -/
def forget (p : Precedence) (circle : List Nat) : Precedence :=
  match circle, circle.getLast? with
  | head :: _, some last => { p with after := p.after.modify last (·.erase head) }.release head
  | _, _ => p

/-- Puts out all words, the last one first. Each round but the last forgets a pair. -/
def arrange : Nat → Precedence → List Event → List Event
  | 0, _, told => told
  | n + 1, p, told =>
    let ready := p.places.filter fun i => !p.isWaiting i && !p.done.getD i true
    let (p, told) := p.drain (2 * p.words.size + 2) ready [] told
    if p.done.all id then told
    else
      match p.circle? (2 * p.words.size + 2) ⟨none, Array.replicate p.words.size none⟩ with
      | none => told
      | some circle => arrange n (p.forget circle) (.circle (circle.map fun i => p.words.getD i []) :: told)

/-- The words in an order in which each comes behind those it waits for, with the circles that stood in
the way. -/
def events (p : Precedence) : List Event :=
  (arrange (p.after.foldl (fun n l => n + l.length) 1) p []).reverse

end Precedence

/-- Puts the words that pairs of words relate into an order in which the first of each pair comes
first. -/
def tsort : Act Nat := do
  let g ← given {}
  match g.operands with
  | _ :: extra :: _ => misuse 1 ("extra operand " ++ cited extra)
  | _ => pure ()
  let name := g.operands.headD "-"
  match ← contents name with
  | .error e =>
    if e = .isDirectory then stop 1 (named name ++ ": read error: " ++ e.plainMessage)
    else stop 1 (unreadable name e)
  | .ok bytes =>
    let parts (c : Char) : Bool := c == ' ' || c == '\t' || c == '\n'
    let words := (charsOf bytes).splitBy fun a b => parts a == parts b
    let words := (words.filter fun w => !w.any parts).toArray
    if words.size % 2 = 1 then
      stop 1 (named name ++ ": input contains an odd number of tokens")
    let pairs := (List.range (words.size / 2)).map fun i => (words.getD (2 * i) [], words.getD (2 * i + 1) [])
    let events := (Precedence.ofPairs pairs).events
    events.forM fun e => do
      match e with
      | .word w => out (String.ofList w ++ "\n")
      | .circle ws =>
        say (named name ++ ": input contains a loop:")
        ws.forM fun w => say (String.ofList w)
    return if events.any fun e => e matches .circle _ then 1 else 0

end CrossBench.Tool
