import CrossBench.Shell.Pattern
import CrossBench.Text.Regex.Backtrack
import CrossBench.Tool.Input
import CrossBench.Tool.Make

/-!
# Looking for lines

`grep` prints the lines in which an expression matches something, with lines around them if that is
wanted. Files that hold bytes which are no text are only said to match.

Expressions of several styles are read, and matches of any of them are looked for in a line. Some
expressions are accepted with a warning: signs of repetition that stand behind nothing.
-/

namespace CrossBench.Tool

/-! ## What is looked for -/

/-- What is looked for in lines. -/
structure Sought where
  expressions : List Regex
  fold : Bool
  /-- Whether a match has to be a whole word, or a whole line. -/
  words : Bool
  whole : Bool
  /-- Whether a match is what is preferred instead of what is longest. -/
  prefers : Bool
  /-- Whether a character may take several bytes. -/
  wide : Bool

namespace Sought

/-- The match of an expression that begins at a place. -/
def matchAt? (s : Sought) (subject : Regex.Subject) (place : Nat) (r : Regex) : Option (Nat × Nat) :=
  let fits (m : Nat × Nat) : Bool :=
    (!s.whole || (m.1 = 0 && m.2 = subject.text.size)) &&
      (!s.words || (!subject.wordBefore m.1 && !subject.wordBehind m.2))
  let found := ((r.advance subject [⟨place, []⟩]).map fun e =>
    let m := Regex.matchOf place e
    (m.start, m.stop)).filter fits
  match found with
  | [] => none
  | first :: rest =>
    some (if s.prefers then first
      else rest.foldl (fun best m => if best.2 < m.2 then m else best) first)

/-- The first match from a place on. -/
def find? (s : Sought) (subject : Regex.Subject) : Nat → Nat → Option (Nat × Nat)
  | 0, _ => none
  | n + 1, place =>
    match s.expressions.filterMap (s.matchAt? subject place) with
    | [] => find? s subject n (place + 1)
    | first :: rest => some (rest.foldl (fun best m => if best.2 < m.2 then m else best) first)

/-- A line as a text in which matches are looked for. -/
def subject (s : Sought) (line : List Char) : Regex.Subject := ⟨line.toArray, s.fold, false, !s.wide⟩

/-- Whether there is a match in a line. -/
def occurs (s : Sought) (line : List Char) : Bool :=
  (s.find? (s.subject line) (line.length + 1) 0).isSome

/-- All matches in a line that have characters, one behind the other. -/
def matchesFrom (s : Sought) (subject : Regex.Subject) : Nat → Nat → List (Nat × Nat)
  | 0, _ => []
  | fuel + 1, place =>
    match s.find? subject (subject.text.size + 1 - place) place with
    | none => []
    | some (start, stop) =>
      if start < stop then (start, stop) :: matchesFrom s subject fuel stop
      else matchesFrom s subject fuel (max place stop + 1)

/-- All matches in a line that have characters. -/
def allIn (s : Sought) (line : List Char) : List (Nat × Nat) :=
  s.matchesFrom (s.subject line) (line.length + 1) 0

/-! ## Reading expressions -/

/-- What stands behind a list in brackets, of which the opening one has been taken. -/
def behindList (cs : List Char) : List Char :=
  let cs := if cs.head? == some '^' then cs.drop 1 else cs
  let cs := if cs.head? == some ']' then cs.drop 1 else cs
  let rec go : Nat → List Char → List Char
    | 0, cs => cs
    | _, [] => []
    | _, ']' :: rest => rest
    | n + 1, '[' :: k :: rest =>
      if k = ':' ∨ k = '.' ∨ k = '=' then
        let inside := rest.takeWhile (· != k)
        go n ((rest.drop inside.length).drop 2)
      else go n (k :: rest)
    | n + 1, _ :: rest => go n rest
  go cs.length cs

/-- Whether a list in brackets looks like the name of a kind that is not in brackets of its own. -/
def isBareKind (cs : List Char) : Bool :=
  let rest := behindList cs
  let inside := (cs.take (cs.length - rest.length)).dropLast
  let inside := if inside.head? == some '^' then inside.drop 1 else inside
  1 < inside.length && inside.head? == some ':' && inside.getLast? == some ':' &&
    inside.any (· != ':') && !inside.any (fun c => c == '[' || c == '-')

/-- What is said about an extended expression that is accepted; an error for one that is not after all.
`starts` says that nothing stands in front yet. -/
def warnings (extended : Bool) : Nat → Bool → List Char → Except String (List String)
  | 0, _, _ => .ok []
  | _, _, [] => .ok []
  | fuel + 1, starts, c :: rest =>
    let sign (shown : String) (starts : Bool) (rest : List Char) : Except String (List String) :=
      (warnings extended fuel starts rest).map fun more =>
        if starts then ("warning: " ++ shown ++ " at start of expression") :: more else more
    match c with
    | '\\' =>
      match rest with
      | d :: rest => warnings extended fuel (starts && "<>bB\x60'".toList.contains d) rest
      | [] => .ok []
    | '[' =>
      if isBareKind rest then .error "character class syntax is [[:space:]], not [:space:]"
      else warnings extended fuel false (behindList rest)
    | c =>
      if !extended then warnings extended fuel false rest
      else if c = '(' || c = '|' then warnings extended fuel true rest
      else if c = '^' || c = '$' then warnings extended fuel starts rest
      else if c = '*' || c = '+' || c = '?' then
        if starts then sign (String.singleton c) true rest else warnings extended fuel false rest
      else if c = '\x7b' then
        match Regex.counts .extendedSearch rest with
        | .ok (some (_, _, after)) =>
          if starts then
            (sign "\x7b...\x7d" true []).bind fun first =>
              (warnings extended fuel false after).map (first ++ ·)
          else warnings extended fuel false after
        | _ => warnings extended fuel false rest
      else warnings extended fuel false rest

end Sought

/-! ## Looking for it -/

open Shell Shell.Act

/-- The colours of what is shown. -/
structure Colours where
  selected : String := "01;31"
  context : String := "01;31"
  file : String := "35"
  line : String := "32"
  place : String := "32"
  sign : String := "36"

namespace Colours

/-- The colours with one of them changed, as a parameter has it. -/
def change (c : Colours) (item : String) : Colours :=
  match item.splitOn "=" with
  | ["mt", v] => { c with selected := v, context := v }
  | ["ms", v] => { c with selected := v }
  | ["mc", v] => { c with context := v }
  | ["fn", v] => { c with file := v }
  | ["ln", v] => { c with line := v }
  | ["bn", v] => { c with place := v }
  | ["se", v] => { c with sign := v }
  | _ => c

end Colours

/-- A text in a colour. -/
def coloured (colour text : List Char) : List Char :=
  if colour = [] then text
  else
    let escape := Char.ofNat 27
    escape :: '[' :: (colour ++ 'm' :: escape :: '[' :: 'K' :: text ++ [escape, '[', 'm', escape, '[', 'K'])

/-- How found lines are shown. -/
structure Findings where
  given : Given
  sought : Sought
  named : Bool
  /-- How many lines are shown around those that are found, if any are. -/
  before : Option Nat
  behind : Option Nat
  most : Option Nat
  /-- What stands between groups of lines. -/
  separator : Option String
  colours : Option Colours
  /-- Whether all files are texts, and whether those that are none are left out. -/
  asText : Bool
  withoutBinary : Bool

namespace Findings

/-- Whether an option has been given. -/
def has (f : Findings) (letter : String) : Bool := f.given.has letter

/-- Whether lines are not shown. -/
def isSilent (f : Findings) : Bool := f.given.hasAny "clLq"

/-- Whether one line that is found is enough. -/
def endsAtFirst (f : Findings) : Bool := f.given.hasAny "lLq"

/-- A text in one of the colours. -/
def tint (f : Findings) (colour : Colours → String) (text : String) : List Char :=
  coloured ((f.colours.map fun c => (colour c).toList).getD []) text.toList

/-- What stands in front of a line of which so many bytes are shown; `width` is that of numbers. -/
def front (f : Findings) (name : String) (width number place size : Nat) (sign : String) :
    List Char :=
  let sep := f.tint (·.sign) sign
  let padded (n : Nat) : String := ("".pushn ' ' (width - (toString n).length)) ++ toString n
  (if f.named then f.tint (·.file) name ++ (if f.has "Z" then ['\x00'] else sep) else [])
    ++ (if f.has "n" then f.tint (·.line) (padded number) ++ sep else [])
    ++ (if f.has "b" then f.tint (·.place) (padded place) ++ sep else [])
    ++ (if f.has "T" && (f.named || f.has "n" || f.has "b") && 0 < size then ['\t'] else [])

end Findings

/-- What has been found in a file so far. -/
structure Finding where
  number : Nat := 0
  place : Nat := 0
  count : Nat := 0
  /-- The lines just in front that have not been shown, with their numbers and places; the last first. -/
  kept : List (Nat × Nat × List Char) := []
  /-- How many more lines are shown. -/
  left : Nat := 0
  /-- The number of the last line that has been shown. -/
  shown : Option Nat := none
  /-- Whether lines of any file have been shown. -/
  used : Bool
  /-- Whether the file is no text, and whether a line could not be shown since it is none. -/
  binary : Bool := false
  stray : Bool := false
  /-- The width of numbers. -/
  width : Nat := 0

/-- Shows a line; whether that was possible. -/
def showLine (f : Findings) (name : String) (t : Finding) (number place : Nat) (line : List Char)
    (selected : Bool) : Act Bool := do
  let mark := lineMark (f.has "z")
  let inverted := f.has "v"
  let fits := selected != inverted
  let strays (cs : List Char) : Bool :=
    !f.asText && f.sought.wide && cs.any fun c => Letters.strayBase ≤ c.toNat
  let colour := fun (c : Colours) => if selected then c.selected else c.context
  let text := line.toArray
  if f.has "o" then
    if !fits then return true
    else
      let sign := if inverted then "-" else ":"
      (f.sought.allIn line).foldlM (fun fine (start, stop) => do
        if !fine then return false
        else
          let found := (text.extract start stop).toList
          if strays found then return false
          else
            let bytes := Letters.narrow found
            let before := (Letters.narrow (text.extract 0 start).toList).length
            outChars (f.front name t.width number (place + before) bytes.length sign
              ++ coloured ((f.colours.map fun c => (colour c).toList).getD []) bytes ++ [mark])
            return true) true
  else if strays line then return false
  else
    let front := f.front name t.width number place line.length (if selected then ":" else "-")
    let shown :=
      match f.colours with
      | none => line
      | some c =>
        if !fits then line
        else
          let (done, last) := (f.sought.allIn line).foldl (fun (done, last) (start, stop) =>
            (done ++ (text.extract last start).toList
              ++ coloured (colour c).toList (text.extract start stop).toList, stop)) (([] : List Char), 0)
          done ++ (text.extract last text.size).toList
    outChars (front ++ Letters.narrow shown ++ [mark])
    return true

/-- Looks at one line; whether to go on. -/
def searchLine (f : Findings) (name : String) (t : Finding) (bytes : List Char) :
    Act (Finding × Bool) := do
  let line := Letters.decode f.sought.wide bytes
  let number := t.number + 1
  let next := { t with number, place := t.place + bytes.length + 1 }
  let exhausted := f.most.any (· ≤ t.count)
  if !exhausted && f.sought.occurs line != f.has "v" then
    let count := t.count + 1
    let next := { next with count }
    let done := f.most == some count
    if f.isSilent then return (next, !f.endsAtFirst && !done)
    else if t.binary then return (next, false)
    else
      let first := (t.kept.getLast?.map (·.1)).getD number
      if (f.before.isSome || f.behind.isSome) && t.used && t.shown.all (· + 1 < first) then
        if let some s := f.separator then outChars (f.tint (·.sign) s ++ ['\n'])
      let fine ← t.kept.reverse.foldlM (fun fine (n, p, l) => do
        return (← showLine f name t n p l false) && fine) true
      let fine := (← showLine f name t number t.place line true) && fine
      let left := f.behind.getD 0
      let stray := t.stray || !fine
      return ({ next with kept := [], left, shown := some number, used := true, stray }, !done || 0 < left)
  else if 0 < t.left then
    let fine ← showLine f name t number t.place line false
    let left := t.left - 1
    let stray := t.stray || !fine
    return ({ next with left, shown := some number, stray }, !(exhausted && left = 0))
  else
    let kept := ((number, t.place, line) :: t.kept).take (f.before.getD 0)
    return ({ next with kept }, !exhausted)

/-- The number and the content of the regular file that a descriptor leads to. -/
def fileAt (fd : Nat) : Act (Option (Nat × ByteArray)) := look fun pid k =>
  match k.opened? pid fd with
  | some (_, o) =>
    match o.channel with
    | .file n => some (n, (k.disk.record n).data)
    | _ => none
  | none => none

/-- Looks for lines in an open file. -/
def searchFile (f : Findings) (name : String) (used : Bool) (fd : Nat) :
    Act (Except IoError Finding) := do
  let zero := f.has "z"
  let file ← fileAt fd
  let checked := !f.asText && !zero
  let digits (size : Nat) : Nat := (toString size).length
  let width :=
    if !f.has "T" then 0
    else
      match file with
      | some (_, data) => digits (data.size + if f.has "n" then 1 else 0)
      | none => 19
  let binary := checked && file.any fun (_, data) => data.data.contains 0
  let start : Finding := { used, binary, width }
  if binary && f.withoutBinary then return .ok start
  else
    let result ← foldLinesBy (lineEnd zero) fd start fun t bytes => do
      if checked && bytes.contains '\x00' then
        if f.withoutBinary then return ({ t with count := 0 }, false)
        else
          (linesBy '\x00' bytes).foldlM (fun (t, more) part => do
            if more then searchLine f name { t with binary := true } part else return (t, more)) (t, true)
      else searchLine f name t bytes
    if fd = 0 && file.isSome then
      if let .ok t := result then
        if f.has "q" || f.most.all (t.count < ·) then
          let _ ← readAll fd
    if let .ok t := result then
      if !f.isSilent && (t.stray || (t.binary && 0 < t.count)) then say (name ++ ": binary file matches")
    return result

/-- The files below a directory, in the order of its entries; also the directories that may not be read.
Directories of some names are left out, and links are followed if that is wanted. -/
def filesBelow (t : Tree) (skips : String → Bool) (follows : Bool) : Nat → String → List String
  | 0, _ => []
  | depth + 1, path =>
    match t.find (pathOf path) true with
    | .ok (.directory es mode time) =>
      if !t.allows (.directory es mode time) 4 then [path]
      else es.flatMap fun e =>
        let name := ofBytes e.1
        let inside := pathIn path name
        match e.2 with
        | .directory .. => if skips name then [] else filesBelow t skips follows depth inside
        | .file _ => [inside]
        | _ =>
          if !follows then []
          else
            match t.find (pathOf inside) true with
            | .ok (.directory ..) => if skips name then [] else filesBelow t skips follows depth inside
            | .ok (.file _) => [inside]
            | _ => []
    | _ => []

/-- Whether a name fits a pattern. -/
def fitsPattern (pattern name : String) : Bool :=
  (Pattern.ofMarks .plain false (pattern.toList.map fun c => (c, false))).accepts false name.toList

/-- The options of a search. -/
def searchGrammar : Grammar :=
  { letters := "0123456789EFGPVacbHhiIlLnoqRrsTUvwxyZz", valued := "ABCDdefm"
    words := [("extended-regexp", "E"), ("fixed-strings", "F"), ("fixed-regexp", "F"),
      ("basic-regexp", "G"), ("perl-regexp", "P"), ("ignore-case", "i"),
      ("no-ignore-case", "no-ignore-case"), ("word-regexp", "w"), ("line-regexp", "x"),
      ("null-data", "z"), ("no-messages", "s"), ("invert-match", "v"), ("byte-offset", "b"),
      ("line-number", "n"), ("line-buffered", "buffered"), ("with-filename", "H"),
      ("no-filename", "h"), ("only-matching", "o"), ("quiet", "q"), ("silent", "q"), ("text", "a"),
      ("recursive", "r"), ("dereference-recursive", "R"), ("files-with-matches", "l"),
      ("files-without-match", "L"), ("count", "c"), ("initial-tab", "T"), ("null", "Z"),
      ("binary", "U"), ("no-group-separator", "no-group-separator")]
    valuedWords := [("regexp", "e"), ("file", "f"), ("max-count", "m"), ("label", "label"),
      ("after-context", "A"), ("before-context", "B"), ("context", "C"), ("include", "include"),
      ("exclude", "exclude"), ("exclude-dir", "exclude-dir"), ("exclude-from", "exclude-from"),
      ("binary-files", "binary-files"), ("directories", "d"), ("devices", "D"),
      ("group-separator", "group-separator")]
    freeWords := [("color", "color"), ("colour", "color")]
    usage := 2, synopsis := "[OPTION]... PATTERNS [FILE]..." }

/-- A text that is looked for, and where it has been read: in a file, on a line. -/
abbrev Wanted := String × Option (String × Nat)

/-- The expressions for the texts that are looked for, in a style. -/
def expressionsOf (style : Char) (fold wide : Bool) (texts : List Wanted) : Act (List Regex) := do
  let decoded (text : String) : List Char := Letters.decode wide text.toList
  if style = 'P' then
    match texts with
    | [(text, _)] =>
      match Regex.Backtrack.parse fold (decoded text) with
      | .ok r => return [r]
      | .error why => stop 2 why
    | [] => return []
    | _ => stop 2 "the -P option only supports a single pattern"
  else if style = 'F' then return texts.map fun t => Regex.literal (decoded t.1)
  else
    let known : Regex.Style := if style = 'G' then .basicSearch else .extendedSearch
    let (rs, failed) ← texts.foldlM (fun (rs, failed) (text, origin) => do
      match Regex.parse known (decoded text) with
      | .ok r => return (r :: rs, failed)
      | .error why =>
        let front :=
          match origin with
          | some (name, line) => name ++ ":" ++ toString line ++ ": "
          | none => ""
        say (front ++ why)
        return (rs, true)) (([] : List Regex), false)
    if failed then gone 2
    texts.forM fun (text, _) => do
      match Sought.warnings (style = 'E') (text.length + 1) true (decoded text) with
      | .ok warnings => warnings.forM say
      | .error why => stop 2 why
    return rs.reverse

/-- The texts that are looked for, and the files. -/
def wantedOf (g : Given) : Act (List Wanted × List String) := do
  if g.has "e" || g.has "f" then
    let texts ← (g.options.filter fun o => o.1 = "e" || o.1 = "f").mapM fun (kind, value) => do
      if kind = "e" then pure ((value.splitOn "\n").map fun t => (t, none))
      else
        match ← contents value with
        | .ok bytes =>
          pure ((linesBy '\n' (charsOf bytes)).zipIdx.map fun (t, i) =>
            (String.ofList t, some (value, i + 1)))
        | .error e => stop 2 (unreadable value e)
    let all : List Wanted := texts.flatten
    return ((all.foldl (fun kept t => if kept.any (·.1 = t.1) then kept else t :: kept) []).reverse,
      g.operands)
  else
    match g.operands with
    | [] =>
      complain ("Usage: " ++ (← get).title ++ " [OPTION]... PATTERNS [FILE]...")
      giveHint 2
    | p :: files => return ((p.splitOn "\n").eraseDups.map (·, none), files)

/-- How many lines are shown in front of those that are found (`"B"`) or behind them (`"A"`). A number
by itself says both. -/
def contextOf (g : Given) (letter : String) : Act (Option Nat) := do
  let number (text : String) : Act Nat := do
    match decimal? text with
    | some n => return n
    | none => stop 2 (text ++ ": invalid context length argument")
  match g.value? letter with
  | some text => return some (← number text)
  | none =>
    let (context, _) ← g.options.foldlM (fun (context, digits) (name, value) => do
      if name = "C" then return (some (← number value), false)
      else
        match decimal? name with
        | some d => return (some ((if digits then context.getD 0 else 0) * 10 + d), true)
        | none => return (context, false)) ((none, false) : Option Nat × Bool)
    return context

/-- Looks for lines. -/
def grepWith (style : Option Char) : Act Nat := do
  let g ← given searchGrammar
  let chosen := (g.options.filter fun o => ["E", "F", "G", "P"].contains o.1).map (·.1)
  if 1 < chosen.eraseDups.length then stop 2 "conflicting matchers specified"
  let style := style.getD ((g.last? "EFGP").getD 'G')
  let before ← contextOf g "B"
  let behind ← contextOf g "A"
  let most : Option Nat ←
    match g.value? "m" with
    | none => pure none
    | some text =>
      match decimal? text with
      | some n => pure (some n)
      | none =>
        match text.toList with
        | '-' :: rest =>
          if (decimal? (String.ofList rest)).isSome then pure none else stop 2 "invalid max count"
        | _ => stop 2 "invalid max count"
  let reading := (g.value? "d").getD "read"
  unless ["read", "recurse", "skip"].contains reading do
    say ("invalid argument " ++ cited reading ++ " for " ++ cited "--directories")
    let s ← get
    complain "Valid arguments are:"
    for w in ["read", "recurse", "skip"] do
      complain ("  - " ++ Shell.Quoting.localized s.isWide (cited w))
    complain ("Usage: " ++ s.title ++ " [OPTION]... PATTERNS [FILE]...")
    giveHint 1
  let kind := ((g.options.reverse.find? fun o => ["a", "I", "binary-files"].contains o.1).map fun o =>
    if o.1 = "a" then "text" else if o.1 = "I" then "without-match" else o.2).getD "binary"
  unless ["text", "without-match", "binary"].contains kind do stop 2 "unknown binary-files type"
  let (texts, files) ← wantedOf g
  let s ← get
  let wide := s.isWide
  let fold := (g.options.reverse.find? fun o => ["i", "y", "no-ignore-case"].contains o.1).any
    fun o => o.1 ≠ "no-ignore-case"
  let expressions ← expressionsOf style fold wide texts
  let recursive := g.hasAny "rR" || reading = "recurse"
  let bare := files.isEmpty
  let files := if bare then (if recursive then ["."] else ["-"]) else files
  let t ← tree
  let others ← (g.values "exclude-from").mapM fun name => do
    match ← contents name with
    | .ok bytes => pure ((linesBy '\n' (charsOf bytes)).map String.ofList)
    | .error e => stop 2 (unreadable name e)
  let wanted (path : String) : Bool :=
    let name := lastName path
    let included := g.values "include"
    (included.isEmpty || included.any (fitsPattern · name)) &&
      !((g.values "exclude" ++ others.flatten).any (fitsPattern · name))
  let skips (name : String) : Bool := (g.values "exclude-dir").any (fitsPattern · name)
  let all := files.flatMap fun name =>
    if recursive && t.isDirectory (pathOf name) then
      let trimmed := if name.endsWith "/" then ofBytes (pathOf name).trimSlashes.bytes else name
      let found := (filesBelow t skips (g.has "R") depthLimit trimmed).filter wanted
      if bare then found.map fun p => String.ofList (p.toList.drop 2) else found
    else if name = "-" || wanted name || t.isDirectory (pathOf name) then [name]
    else []
  let named := match g.last? "Hh" with
    | some 'H' => true
    | some _ => false
    | none => 1 < files.length || (recursive && files.any fun n => t.isDirectory (pathOf n))
  let colours : Option Colours :=
    if g.value? "color" == some "always" then
      some (((s.environment.lookup "GREP_COLORS").getD "").splitOn ":" |>.foldl Colours.change {})
    else none
  let f : Findings :=
    { given := g, named, before, behind, most, colours
      sought := ⟨expressions, fold, g.has "w", g.has "x", style = 'P', wide⟩
      separator := if g.has "no-group-separator" then none else some ((g.value? "group-separator").getD "--")
      asText := kind = "text", withoutBinary := kind = "without-match" }
  if most = some 0 then return 1
  let own ← fileAt 1
  let (found, failed, _) ← all.foldlM (fun (found, failed, used) name => do
    if found && g.has "q" then return (found, failed, used)
    else
      let label := if name = "-" then (g.value? "label").getD "(standard input)" else name
      let fault (why : String) : Act (Bool × Bool × Bool) := do
        unless g.has "s" do say (label ++ ": " ++ why)
        return (found, true, used)
      let result ← withInput name fun fd => do
        let file ← fileAt fd
        if !f.isSilent && most ≠ some 1 && (file.map (·.1)).any (fun n => own.any (·.1 = n)) then
          return .ok none
        else return (← searchFile f label used fd).map some
      match result with
      | .error e =>
        if e = .isDirectory && reading = "skip" then return (found, failed, used)
        else fault e.plainMessage
      | .ok none => fault "input file is also the output"
      | .ok (some t) =>
        let ending := if g.has "Z" then "\x00" else "\n"
        let shown := f.tint (·.file) label
        unless g.has "q" do
          if g.has "l" then
            if 0 < t.count then outChars (shown ++ ending.toList)
          else if g.has "L" then
            if t.count = 0 then outChars (shown ++ ending.toList)
          else if g.has "c" then
            let front :=
              if named then shown ++ (if g.has "Z" then ['\x00'] else f.tint (·.sign) ":") else []
            outChars (front ++ (toString t.count ++ "\n").toList)
        return (found || 0 < t.count, failed, t.used)) (false, false, false)
  return if failed && !(found && g.has "q") then 2 else if found then 0 else 1

/-- Looks for lines by basic expressions, or as options say. -/
def grep : Act Nat := grepWith none

/-- Looks for lines by extended expressions. -/
def egrep : Act Nat := grepWith (some 'E')

/-- Looks for lines by texts. -/
def fgrep : Act Nat := grepWith (some 'F')

end CrossBench.Tool
