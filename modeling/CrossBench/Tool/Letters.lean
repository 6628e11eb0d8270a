import CrossBench.Shell.Word
import CrossBench.Text.Letters
import CrossBench.Tool.Input

/-!
# Characters and columns

The programs that replace characters, and that choose, join or shift the columns of lines. `expand` replaces
tabs by blanks and `unexpand` blanks by tabs. The places at which tabs end can be told one by one; behind the
last of them they may go on at equal distances.
-/

namespace CrossBench.Tool

open Shell Shell.Act

/-! ## Sets of characters -/

/-- A part of a set of characters. -/
inductive SetPart where
  | chars (cs : List Char)
  /-- A class of characters, by its name. -/
  | kind (name : String)
  /-- All characters that count as the same as one. -/
  | same (c : Char)
  /-- A character so many times; as often as there is room if that is 0. -/
  | repeated (c : Char) (n : Nat)

/-- The characters from 0 to 255. -/
def allChars : List Char := (List.range 256).map Char.ofNat

/-- The characters of a part. -/
def SetPart.members (room : Nat) : SetPart → List Char
  | .chars cs => cs
  | .kind name => (allChars.take 128).filter (isOfKind name)
  | .same c => [c]
  | .repeated c n => List.replicate (if n = 0 then room else n) c

/-- A character in front of a set, with escapes undone. -/
def takeSetChar : List Char → Option (Char × Bool × List Char)
  | [] => none
  | '\\' :: c :: rest =>
    let named : Option Char :=
      match c with
      | 'a' => some (Char.ofNat 7)
      | 'b' => some (Char.ofNat 8)
      | 'f' => some (Char.ofNat 12)
      | 'n' => some '\n'
      | 'r' => some '\r'
      | 't' => some '\t'
      | 'v' => some (Char.ofNat 11)
      | '\\' => some '\\'
      | _ => none
    match named with
    | some d => some (d, true, rest)
    | none =>
      let ds := ((c :: rest).take 3).takeWhile Lexer.isOctalDigit
      let ds := if 255 < Lexer.digitsValue 8 ds then ds.take 2 else ds
      if ds = [] then some (c, true, rest)
      else some (Char.ofNat (Lexer.digitsValue 8 ds), true, (c :: rest).drop ds.length)
  | c :: rest => some (c, false, rest)

/-- Reads a set of characters. -/
def readSet : Nat → List Char → Except String (List SetPart)
  | 0, _ => .ok []
  | _, [] => .ok []
  | fuel + 1, cs =>
    match cs with
    | '[' :: ':' :: rest =>
      let name := rest.takeWhile (· != ':')
      match rest.drop name.length with
      | ':' :: ']' :: after =>
        let name := String.ofList name
        if name = "" then .error "missing character class name '[::]'"
        else if kindNames.contains name then (readSet fuel after).map (.kind name :: ·)
        else .error ("invalid character class " ++ cited name)
      | _ => single fuel cs
    | '[' :: '=' :: c :: '=' :: ']' :: after => (readSet fuel after).map (.same c :: ·)
    | '[' :: '=' :: rest =>
      let name := rest.takeWhile (· != '=')
      match rest.drop name.length with
      | '=' :: ']' :: _ =>
        if name = [] then .error "missing equivalence class character '[==]'"
        else .error (String.ofList name ++ ": equivalence class operand must be a single character")
      | _ => single fuel cs
    | '[' :: rest =>
      match takeSetChar rest with
      | some (c, _, '*' :: more) =>
        let ds := more.takeWhile Char.isDigit
        match more.drop ds.length with
        | ']' :: after =>
          let base := if ds.head? = some '0' then 8 else 10
          (readSet fuel after).map (.repeated c (Lexer.digitsValue base ds) :: ·)
        | _ =>
          let count := more.takeWhile (· != ']')
          if count.length = more.length then single fuel cs
          else
            .error ("invalid repeat count " ++ cited (String.ofList count) ++ " in [c*n] construct")
      | _ => single fuel cs
    | cs => single fuel cs
where
  /-- Reads a character, or a range of them. -/
  single (fuel : Nat) (cs : List Char) : Except String (List SetPart) :=
    match takeSetChar cs with
    | none => .ok []
    | some (a, _, '-' :: rest) =>
      match takeSetChar rest with
      | some (b, _, after) =>
        if b < a then
          let shown (c : Char) : String :=
            if ' ' ≤ c && c ≤ '~' then String.singleton c
            else
              let n := c.toNat
              "\\" ++ toString (n / 64) ++ toString (n / 8 % 8) ++ toString (n % 8)
          .error ("range-endpoints of '" ++ shown a ++ "-" ++ shown b ++ "' are in reverse collating sequence order")
        else
          (readSet fuel after).map
            (.chars ((List.range (b.toNat + 1 - a.toNat)).map fun i => Char.ofNat (a.toNat + i)) :: ·)
      | none => .ok [.chars [a, '-']]
    | some (a, _, rest) => (readSet fuel rest).map (.chars [a] :: ·)

/-- The characters of a set that is to have at least so many. -/
def setMembers (wanted : Nat) (parts : List SetPart) : List Char :=
  let fixed := (parts.flatMap (·.members 0)).length
  parts.flatMap (·.members (wanted - fixed))

/-- What is odd about a set of characters. -/
def setNotes : List Char → List String
  | '\\' :: [] => ["an unescaped backslash at end of string is not portable"]
  | '\\' :: a :: b :: c :: rest =>
    let digits := [a, b, c]
    (if digits.all Lexer.isOctalDigit && 255 < Lexer.digitsValue 8 digits then
      ["the ambiguous octal escape \\" ++ String.ofList digits ++ " is being\n\tinterpreted as the 2-byte sequence \\0"
        ++ String.ofList [a, b] ++ ", " ++ String.singleton c]
    else []) ++ setNotes (b :: c :: rest)
  | '\\' :: _ :: rest => setNotes rest
  | _ :: rest => setNotes rest
  | [] => []

/-- A unit in which two sets are compared: a character, or all letters of one case. -/
inductive SetUnit where
  | char
  | letters (count : Nat)

/-- The units of a set. -/
def unitsOf (room : Nat) (parts : List SetPart) : List SetUnit :=
  parts.flatMap fun p =>
    match p with
    | .kind name =>
      let count := (p.members room).length
      if name = "upper" || name = "lower" then [.letters count] else List.replicate count .char
    | p => List.replicate (p.members room).length .char

/-- Whether each class of letters in the second set has one in the first set at its place. -/
def areAligned : Nat → List SetUnit → List SetUnit → Bool
  | 0, _, _ => true
  | _, _, [] => true
  | fuel + 1, .letters _ :: first, .letters _ :: second => areAligned fuel first second
  | _, _, .letters _ :: _ => false
  | _, [], _ => true
  | fuel + 1, .char :: first, .char :: second => areAligned fuel first second
  | fuel + 1, .letters n :: first, .char :: second =>
    areAligned fuel (List.replicate (n - 1) .char ++ first) second

/-- Replaces, squeezes or deletes characters. -/
def tr : Act Nat := do
  let g ← given
    { letters := "cCdst", anywhere := false
      words := [("complement", "c"), ("delete", "d"), ("squeeze-repeats", "s"), ("truncate-set1", "t")] }
  let deletes := g.has "d"
  let squeezes := g.has "s"
  let complements := g.hasAny "cC"
  match g.operands with
  | [] => misuse 1 "missing operand"
  | [a] =>
    if deletes == squeezes then
      say ("missing operand after " ++ cited a)
      complain (if squeezes then "Two strings must be given when both deleting and squeezing repeats."
        else "Two strings must be given when translating.")
      giveHint 1
  | [_, b] =>
    if deletes && !squeezes then
      say ("extra operand " ++ cited b)
      complain "Only one string may be given when deleting without squeezing repeats."
      giveHint 1
  | _ :: b :: c :: _ => misuse 1 ("extra operand " ++ cited (if deletes && !squeezes then b else c))
  let set (i : Nat) : Act (List SetPart) := do
    let text := g.operands.getD i ""
    (setNotes text.toList).forM fun note => say ("warning: " ++ note)
    match readSet (text.length + 1) text.toList with
    | .ok parts => return parts
    | .error why => stop 1 why
  let first ← set 0
  let second ← set 1
  let source := setMembers 0 first
  let source := if complements then allChars.filter fun c => !source.contains c else source
  let translates := !deletes && 1 < g.operands.length
  let target := setMembers source.length second
  let fills (p : SetPart) : Bool :=
    match p with
    | .repeated _ 0 => true
    | _ => false
  if first.any fills then stop 1 "the [c*] repeat construct may not appear in string1"
  if 1 < (second.filter fills).length then stop 1 "only one [c*] repeat construct may appear in string2"
  if translates then
    if second.any fun p => match p with
        | .same _ => true
        | _ => false then
      stop 1 "[=c=] expressions may not appear in string2 when translating"
    if second.any fun p => match p with
        | .kind name => name != "upper" && name != "lower"
        | _ => false then
      stop 1 "when translating, the only character classes that may appear in\nstring2 are 'upper' and 'lower'"
    let room := source.length - (setMembers 0 second).length
    if !complements && !areAligned 1000 (unitsOf 0 first) (unitsOf room second) then
      stop 1 "misaligned [:upper:] and/or [:lower:] construct"
    if target.length < source.length && !g.has "t" then
      if target.isEmpty then stop 1 "when not truncating set1, string2 must be non-empty"
      if (second.getLast?.map fun p => match p with
          | .kind _ => true
          | _ => false) = some true then
        stop 1 ("when translating with string1 longer than string2,\nthe latter string must not end with a "
          ++ "character class")
    let complex := first.any fun p => match p with
      | .kind _ => true
      | _ => false
    if complements && complex && 1 < target.eraseDups.length then
      stop 1 ("when translating with complemented character classes,\n"
        ++ "string2 must map all characters in the domain to one")
  else if second.any fills then
    stop 1 "the [c*] construct may appear in string2 only when translating"
  let source := if g.has "t" && translates then source.take target.length else source
  let map : Array Char := (source.zipIdx).foldl (fun (m : Array Char) (c, i) =>
    m.setIfInBounds c.toNat ((target[i]?).getD (target.getLastD c))) allChars.toArray
  let removed := source
  let repeats :=
    if !squeezes then []
    else if translates || deletes then target
    else source
  let isRemoved : Array Bool := (allChars.map removed.contains).toArray
  let isRepeat : Array Bool := (allChars.map repeats.contains).toArray
  let result ← foldBlocks 0 (none : Option Char) fun last bytes => do
    let (cs, last) := (charsOf bytes).foldl (fun (cs, last) c =>
      if deletes && isRemoved.getD c.toNat false then (cs, last)
      else
        let d := if translates then map.getD c.toNat c else c
        if isRepeat.getD d.toNat false && last == some d then (cs, last) else (d :: cs, some d))
      (([] : List Char), last)
    outChars cs.reverse
    return (last, true)
  match result with
  | .ok _ => return 0
  | .error e => stop 1 ("read error: " ++ e.plainMessage)

/-! ## Columns -/

/-- The ranges that a list of numbers and ranges means; `none` stands for no end. -/
def rangesOf (fields : Bool) (text : String) : Except String (List (Nat × Option Nat)) :=
  let what := if fields then "field value " else "byte/character position "
  let zero :=
    if fields then "fields are numbered from 1" else "byte/character positions are numbered from 1"
  let parts := (text.splitOn ",").flatMap fun p => (p.splitOn " ").flatMap (·.splitOn "\t")
  parts.mapM fun p =>
    let whole (s : String) : Except String Nat :=
      match decimal? s with
      | some n =>
        if 18446744073709551615 ≤ n then
          .error ((if fields then "field number " else "byte/character offset ") ++ cited s ++ " is too large")
        else .ok n
      | none => .error ("invalid " ++ what ++ cited s)
    let number (s : String) : Except String Nat := do
      let n ← whole s
      if n = 0 then .error zero else .ok n
    match p.splitOn "-" with
    | [""] => .error zero
    | [n] => (number n).map fun n => (n, some n)
    | ["", ""] => .error "invalid range with no endpoint: -"
    | ["", b] => (number b).map fun b => (1, some b)
    | [a, ""] => (number a).map fun a => (a, none)
    | [a, b] => do
      let a ← number a
      let b ← whole b
      if b < a then .error "invalid decreasing range" else .ok (a, some b)
    | _ => .error ("invalid " ++ what ++ cited p)

/-- Prints parts of lines. -/
def cut : Act Nat := do
  let g ← given
    { letters := "nsz", valued := "bcdf"
      words := [("only-delimited", "s"), ("complement", "complement"), ("zero-terminated", "z")]
      valuedWords := [("bytes", "b"), ("characters", "c"), ("delimiter", "d"), ("fields", "f"),
        ("output-delimiter", "output")] }
  let lists := g.options.filter fun o => o.1 = "b" || o.1 = "c" || o.1 = "f"
  match g.value? "d" with
  | some d => if 1 < d.length then misuse 1 "the delimiter must be a single character"
  | none => pure ()
  let (kind, text) ←
    match lists with
    | [] => misuse 1 "you must specify a list of bytes, characters, or fields"
    | [l] => pure l
    | _ => misuse 1 "only one list may be specified"
  let fields := kind = "f"
  if g.has "d" && !fields then
    misuse 1 "an input delimiter may be specified only when operating on fields"
  if g.has "s" && !fields then
    misuse 1 "suppressing non-delimited lines makes sense\n\tonly when operating on fields"
  let ranges ←
    match rangesOf fields text with
    | .ok r => pure r
    | .error why => misuse 1 why
  let chosen (i : Nat) : Bool :=
    (ranges.any fun r => r.1 ≤ i && r.2.all (i ≤ ·)) != g.has "complement"
  let divider := (((g.value? "d").getD "\t").toList.head?).getD (Char.ofNat 0)
  let gap := ((g.value? "output").map String.toList).getD [divider]
  let mark := lineMark (g.has "z")
  eachInput unreadable g.operands fun _ fd => do
    let result ← foldLinesBy (lineEnd (g.has "z")) fd () fun _ line => do
      if fields then
        if !line.contains divider then
          unless g.has "s" do outChars (line ++ [mark])
        else
          let parts := (line.splitOn divider).zipIdx.filter fun p => chosen (p.2 + 1)
          outChars (gap.intercalate (parts.map (·.1)) ++ [mark])
      else
        let kept := line.zipIdx.filter fun p => chosen (p.2 + 1)
        let pieces :=
          match g.value? "output" with
          | none => kept.map (·.1)
          | some _ =>
            let starts (i : Nat) : Bool :=
              !chosen i || (ranges.any (fun r => r.1 = i + 1) && !(ranges.any fun r => r.1 ≤ i && r.2.all (i + 1 ≤ ·)))
            kept.zipIdx.flatMap fun ((c, i), n) => if n ≠ 0 && starts i then gap ++ [c] else [c]
        outChars (pieces ++ [mark])
      return ((), true)
    return result

/-- A list of separators with escapes undone; an escaped zero is none. -/
def separatorsOf : List Char → List (List Char)
  | '\\' :: '0' :: rest => [] :: separatorsOf rest
  | '\\' :: 'n' :: rest => ['\n'] :: separatorsOf rest
  | '\\' :: 't' :: rest => ['\t'] :: separatorsOf rest
  | '\\' :: c :: rest => [c] :: separatorsOf rest
  | c :: rest => [c] :: separatorsOf rest
  | [] => []

/-- Prints the lines of files side by side. -/
def paste : Act Nat := do
  let g ← given
    { letters := "sz", valued := "d", words := [("serial", "s"), ("zero-terminated", "z")]
      valuedWords := [("delimiters", "d")] }
  let mark := lineMark (g.has "z")
  let text := (g.value? "d").getD "\t"
  if ((text.toList.reverse.takeWhile (· == '\\')).length) % 2 = 1 then
    stop 1 ("delimiter list ends with an unescaped backslash: " ++ text)
  let gaps := separatorsOf text.toList
  let gaps := if gaps.isEmpty then [[]] else gaps
  let gapAt (i : Nat) : List Char := gaps.getD (i % gaps.length) []
  let files := orInput g.operands
  if g.has "s" then
    eachInput unreadable files fun _ fd => do
      match ← readAll fd with
      | .error e => return .error e
      | .ok bytes =>
        let lines := linesBy mark (charsOf bytes)
        let pieces := lines.zipIdx.flatMap fun (l, i) => if i = 0 then l else gapAt (i - 1) ++ l
        outChars (pieces ++ [mark])
        return .ok ()
  else
    let fds ← files.mapM fun name => do
      match ← openInput name with
      | .ok fd => pure fd
      | .error e => stop 1 (unreadable name e)
    let named := files.zip fds
    repeating 0 fun status => do
      let (line, status) ← named.foldlM (fun ((line, status) : List (Option (List Char)) × Nat) (name, fd) => do
        match ← readTo fd (lineEnd (g.has "z")) with
        | .error e =>
          say (unreadable name e)
          return (line ++ [none], 1)
        | .ok bytes =>
          if bytes.isEmpty then return (line ++ [none], status)
          else
            let cs := charsOf bytes
            return (line ++ [some (if cs.getLast? = some mark then cs.dropLast else cs)], status)) ([], status)
      if line.all Option.isNone then return .inr status
      else
        let pieces := line.zipIdx.flatMap fun (l, i) =>
          if i = 0 then l.getD [] else gapAt (i - 1) ++ l.getD []
        outChars (pieces ++ [mark])
        return .inl status

/-! ## Widths -/

/-- The column behind a character. -/
def columnAfter (place : Nat) (c : Char) : Nat :=
  if c = Char.ofNat 8 then place - 1
  else if c = '\r' then 0
  else if c = '\t' then (place / 8 + 1) * 8
  else place + 1

/-- A line cut into lines of at most so many columns. -/
def folded (width : Nat) (inBytes atSpaces : Bool) : Nat → List Char → List (List Char)
  | 0, _ => []
  | fuel + 1, cs =>
    let (taken, _) := cs.foldl (fun (r : Nat × Option Nat) c =>
      match r.2 with
      | none => r
      | some place =>
        let next := if inBytes then place + 1 else columnAfter place c
        if width < next then (r.1, none) else (r.1 + 1, some next)) (0, some 0)
    let taken := max taken 1
    if cs.length ≤ taken then [cs]
    else
      let front := cs.take taken
      let blank := (front.reverse.dropWhile fun c => c != ' ' && c != '\t').length
      let taken := if atSpaces && blank ≠ 0 then blank else taken
      cs.take taken :: folded width inBytes atSpaces fuel (cs.drop taken)

/-- Cuts lines that are too long. -/
def fold : Act Nat := do
  let arguments := (← get).arguments.map fun a =>
    match a.toList with
    | '-' :: c :: _ => if c.isDigit then "-w" ++ String.ofList (a.toList.drop 1) else a
    | _ => a
  modify fun s => { s with arguments }
  let g ← given
    { letters := "bs", valued := "w", words := [("bytes", "b"), ("spaces", "s")]
      valuedWords := [("width", "w")] }
  let width ←
    match g.value? "w" with
    | none => pure 80
    | some text =>
      let wrong := "invalid number of columns: " ++ cited text
      match decimal? text with
      | some 0 => stop 1 (wrong ++ ": Numerical result out of range")
      | some n =>
        if 18446744073709551615 < n then stop 1 (wrong ++ ": Value too large for defined data type") else pure n
      | none => stop 1 wrong
  eachInput unreadable g.operands fun _ fd => do
    match ← readAll fd with
    | .error e => return .error e
    | .ok bytes =>
      let parts := (charsOf bytes).splitBy fun a _ => a != '\n'
      parts.forM fun part => do
        let whole := part.getLast? = some '\n'
        let line := if whole then part.dropLast else part
        let lines := folded width (g.has "b") (g.has "s") (line.length + 1) line
        outChars (['\n'].intercalate lines ++ if whole then ['\n'] else [])
      return .ok ()

/-! ## Tabs and blanks -/

/-- The places at which tabs end. -/
structure TabStops where
  places : List Nat
  /-- All multiples of this number behind the last place, if it is not 0. -/
  multiple : Nat
  /-- All places at this distance from each other behind the last place, if it is not 0. -/
  distance : Nat

/-- The next place at which a tab ends behind a column, if there is one. -/
def TabStops.next? (s : TabStops) (column : Nat) : Option Nat :=
  match s.places with
  | [n] => if s.multiple = 0 && s.distance = 0 then some ((column / n + 1) * n) else rest
  | _ => rest
where
  /-- The next place among the places, or behind them. -/
  rest : Option Nat :=
    match s.places.find? (column < ·) with
    | some n => some n
    | none =>
      let last := s.places.getLastD 0
      if s.multiple ≠ 0 then some ((column / s.multiple + 1) * s.multiple)
      else if s.distance ≠ 0 then some (column + (s.distance - (column - last) % s.distance))
      else none

/-- Reads the places at which tabs end, onto those that are known. -/
def readStops (s : TabStops) (text : String) : Except String TabStops :=
  let words := ((text.splitOn ",").flatMap (·.splitOn " ")).flatMap (·.splitOn "\t")
  (words.filter (· ≠ "")).foldlM (fun (s : TabStops) w =>
    let (sign, ds) : Char × List Char :=
      match w.toList with
      | '/' :: ds => ('/', ds)
      | '+' :: ds => ('+', ds)
      | ds => (' ', ds)
    let digits := ds.takeWhile Char.isDigit
    match ds.drop digits.length with
    | '/' :: more => .error ("'/' specifier not at start of number: " ++ cited (String.ofList ('/' :: more)))
    | '+' :: more => .error ("'+' specifier not at start of number: " ++ cited (String.ofList ('+' :: more)))
    | c :: more => .error ("tab size contains invalid character(s): " ++ cited (String.ofList (c :: more)))
    | [] =>
      let n := digits.foldl (fun n c => n * 10 + (c.toNat - 48)) 0
      if digits = [] then .ok s
      else if 18446744073709551615 < n then
        .error ("tab stop is too large " ++ cited (String.ofList digits))
      else if sign = '/' then
        if s.multiple ≠ 0 then .error "'/' specifier only allowed with the last value" else .ok { s with multiple := n }
      else if sign = '+' then
        if s.distance ≠ 0 then .error "'+' specifier only allowed with the last value" else .ok { s with distance := n }
      else .ok { s with places := s.places ++ [n] }) s

/-- The places at which tabs end by the options of a call. -/
def tabStops (g : Given) : Act TabStops := do
  let texts := g.options.filterMap fun o =>
    if o.1 = "t" then some o.2 else if o.1.all Char.isDigit then some (o.1 ++ o.2) else none
  let s ← texts.foldlM (fun s text => do
    match readStops s text with
    | .ok s => return s
    | .error why => stop 1 why) (⟨[], 0, 0⟩ : TabStops)
  if s.places.contains 0 then stop 1 "tab size cannot be 0"
  if (s.places.zip (s.places.drop 1)).any fun p => p.2 ≤ p.1 then stop 1 "tab sizes must be ascending"
  if s.multiple ≠ 0 && s.distance ≠ 0 then stop 1 "'/' specifier is mutually exclusive with '+'"
  return if s.places.isEmpty && s.multiple = 0 && s.distance = 0 then { s with places := [8] } else s

/-- Replaces tabs in each of some files, line by line. -/
def replaceIn (files : List String) (replaced : List Char → List Char) : Act Nat :=
  eachInput unreadable files fun _ fd => do
    match ← readAll fd with
    | .error e => return .error e
    | .ok bytes =>
      let parts := (charsOf bytes).splitBy fun a _ => a != '\n'
      parts.forM fun part =>
        if part.getLast? = some '\n' then outChars (replaced part.dropLast ++ ['\n'])
        else outChars (replaced part)
      return .ok ()

/-- Replaces tabs by blanks. -/
def expand : Act Nat := do
  let g ← given
    { letters := "i", valued := "t", free := "0123456789", words := [("initial", "i")]
      valuedWords := [("tabs", "t")] }
  let stops ← tabStops g
  replaceIn g.operands fun line =>
    let (cs, _, _) := line.foldl (fun (cs, place, front) c =>
      if c = '\t' && (front || !g.has "i") then
        let next := (stops.next? place).getD (place + 1)
        (List.replicate (next - place) ' ' ++ cs, next, front)
      else
        let place := if c = Char.ofNat 8 then place - 1 else place + 1
        (c :: cs, place, front && (c == ' ' || c == '\t'))) (([] : List Char), 0, true)
    cs.reverse

/-- A line in which blanks are being replaced. -/
structure Tabbing where
  /-- What has been put out, the last character first. -/
  done : List Char := []
  column : Nat := 0
  /-- Whether blanks are still replaced. -/
  active : Bool := true
  /-- Blanks that may still become a tab, the last one first. -/
  pending : List Char := []
  /-- Whether the character in front was a blank. -/
  afterBlank : Bool := true
  /-- Whether the first of these blanks stands just in front of a place at which a tab ends. -/
  single : Bool := false

namespace Tabbing

/-- Puts out the blanks that have been waiting, and a character. -/
def put (t : Tabbing) (all : Bool) (c : Char) (blank : Bool) : Tabbing :=
  let pending :=
    if 1 < t.pending.length && t.single then t.pending.dropLast ++ ['\t'] else t.pending
  { t with
    done := c :: (pending ++ t.done), pending := [], single := if t.pending.isEmpty then t.single else false
    afterBlank := blank, active := t.active && (all || blank) }

/-- Takes one more character. -/
def add (stops : TabStops) (all : Bool) (t : Tabbing) (c : Char) : Tabbing :=
  if !t.active then { t with done := c :: t.done }
  else if c = ' ' || c = '\t' then
    match stops.next? t.column with
    | none => { t with active := false }.put all c true
    | some next =>
      let kept (t : Tabbing) (waiting : List Char) : Tabbing :=
        { t with pending := if t.single then waiting.drop (waiting.length - 1) else [] }
      let tabbed : List Char := if t.pending.isEmpty then [] else t.pending.dropLast ++ ['\t']
      if c = '\t' then (kept { t with column := next } tabbed).put all '\t' true
      else
        let column := t.column + 1
        if t.afterBlank && column = next then
          (kept { t with column } tabbed).put all '\t' true
        else
          { t with
            column, pending := ' ' :: t.pending, afterBlank := true
            single := t.single || decide (column = next) }
  else
    let column := if c = Char.ofNat 8 then t.column - 1 else t.column + 1
    { t with column }.put all c false

/-- The whole line. -/
def whole (t : Tabbing) (all : Bool) : List Char :=
  if t.pending.isEmpty then t.done.reverse else ((t.put all '\n' false).done.drop 1).reverse

end Tabbing

/-- Replaces blanks by tabs. -/
def unexpand : Act Nat := do
  let g ← given
    { letters := "a", valued := "t", free := "0123456789"
      words := [("all", "a"), ("first-only", "first")], valuedWords := [("tabs", "t")] }
  let stops ← tabStops g
  let all := (g.has "a" || g.has "t") && !g.has "first"
  replaceIn g.operands fun line => (line.foldl (Tabbing.add stops all) {}).whole all

end CrossBench.Tool
