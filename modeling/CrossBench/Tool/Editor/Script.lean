import CrossBench.Shell.Word
import CrossBench.Text.Regex.Read

/-!
# Scripts of the line editor

A script is a list of commands, each with a guard that says for which lines it is meant. Commands in
braces stand between two commands of the list: the first one knows how many there are, so that all of
them can be left out.
-/

namespace CrossBench.Tool.Editor

/-- A regular expression with its flags. -/
structure Expression where
  regex : Regex
  fold : Bool
  lines : Bool

/-- What lines are meant. `none` stands for the expression that has been used last. -/
inductive Address where
  | line (n : Nat)
  /-- A line, and each line so many behind it. -/
  | every (first gap : Nat)
  | last
  | fitting (e : Option Expression)

/-- Where a range of lines ends. -/
inductive RangeEnd where
  | at_ (a : Address)
  /-- So many lines later. -/
  | plus (n : Nat)
  /-- At the next multiple of a number. -/
  | multiple (n : Nat)

/-- For which lines a command is meant. -/
structure Guard where
  first : Option Address
  second : Option RangeEnd
  /-- Whether the range begins in front of the first line. -/
  early : Bool
  negated : Bool

/-- A part of what is put in for a match. -/
inductive Piece where
  | text (cs : List Char)
  | group (n : Nat)
  /-- From here on capitals (`'U'`) or small letters (`'L'`), or so for one letter (`'u'`, `'l'`), or as
  they are (`'E'`). -/
  | casing (c : Char)

/-- What a substitution does. -/
structure Substitution where
  expression : Option Expression
  pieces : List Piece
  /-- Whether all matches are replaced from that number on, or only that one. -/
  every : Bool
  number : Nat
  /-- Whether the outcome is printed, and run as a command: before that, or afterwards. -/
  prints : Option Bool
  runs : Bool
  file : Option String

/-- A command. -/
inductive Command where
  /-- The beginning of commands in braces, of which there are so many. -/
  | block (count : Nat)
  /-- The end of commands in braces, or a label. -/
  | nothing
  /-- A command that is only a letter. -/
  | letter (c : Char)
  /-- Lines that are put in (`'i'`), put behind (`'a'`) or put in place (`'c'`). -/
  | lines (c : Char) (text : List Char)
  /-- Going on elsewhere: always (`'b'`), after a substitution (`'t'`) or without one (`'T'`). -/
  | branch (c : Char) (label : String)
  /-- The end, with an exit code. -/
  | quit (silent : Bool) (status : Nat)
  | list (width : Option Nat)
  /-- A command of a shell, whose output is printed; the empty one is the line itself, which its output
  takes the place of. -/
  | run (command : List Char)
  /-- A file that is read or written. -/
  | file (c : Char) (name : String)
  | substitute (s : Substitution)
  | exchange (source target : List Char)

/-- A command with its guard, and the label that it is. -/
structure Instruction where
  guard : Guard
  command : Command
  label : Option String

/-- What reads a script. An error tells how much of the script was left. -/
abbrev Parse := StateT (List Char) (Except (Option Nat × String))

namespace Parse

/-- Gives up. -/
def fail {α : Type} (why : String) : Parse α := do throw (some (← get).length, why)

/-- Gives up without saying where. -/
def failAnywhere {α : Type} (why : String) : Parse α := throw (none, why)

/-- The next character. -/
def next? : Parse (Option Char) := do
  match ← get with
  | [] => return none
  | c :: rest =>
    set rest
    return some c

/-- The characters in front that are so. -/
def takeWhile (p : Char → Bool) : Parse (List Char) := do
  let cs ← get
  let front := cs.takeWhile p
  set (cs.drop front.length)
  return front

/-- A blank. -/
def isBlank (c : Char) : Bool := c == ' ' || c == '\t'

/-- White space. -/
def isSpace (c : Char) : Bool := c == ' ' || ('\t' ≤ c && c ≤ '\r')

/-- Skips blanks. -/
def skipBlanks : Parse Unit := do let _ ← takeWhile isBlank

/-- The next character that is no blank. -/
def nextVisible? : Parse (Option Char) := do
  skipBlanks
  next?

/-- The number in front, which is 0 if there is none. -/
def number : Parse Nat := do
  let ds ← takeWhile Char.isDigit
  return ds.foldl (fun n c => n * 10 + (c.toNat - 48)) 0

/-- Takes a character if it is in front, behind blanks. -/
def accept (c : Char) : Parse Bool := do
  skipBlanks
  match ← get with
  | d :: rest =>
    if c = d then
      set rest
      return true
    else return false
  | [] => return false

/-- What stands in front of a mark, and what follows. A mark behind a backslash does not count, and in
an expression one in a list of characters does not either. -/
def delimited (mark : Char) (expression : Bool) : Nat → List Char → List Char →
    Option (List Char × List Char)
  | 0, _, _ => none
  | _, [], _ => none
  | fuel + 1, c :: rest, taken =>
    if c = mark then some (taken.reverse, rest)
    else if c = '\n' then none
    else if c = '\\' then
      match rest with
      | d :: rest =>
        if d = 'n' && expression && mark ≠ 'n' then delimited mark expression fuel rest ('\n' :: taken)
        else if d = '\n' || (d = mark && (expression || d != '&')) then
          delimited mark expression fuel rest (d :: taken)
        else delimited mark expression fuel rest (d :: '\\' :: taken)
      | [] => none
    else if c = '[' && expression then
      match listEnd rest with
      | some (inside, rest) => delimited mark expression fuel rest (inside.reverse ++ '[' :: taken)
      | none => none
    else delimited mark expression fuel rest (c :: taken)
where
  /-- The rest of a list in brackets and what follows, if it ends. -/
  listEnd (cs : List Char) : Option (List Char × List Char) :=
    let front : List Char :=
      match cs with
      | '^' :: ']' :: _ => ['^', ']']
      | '^' :: _ => ['^']
      | ']' :: _ => [']']
      | _ => []
    let rest := cs.drop front.length
    let rec go : Nat → List Char → List Char → Option (List Char × List Char)
      | 0, _, _ => none
      | _, [], _ => none
      | _, ']' :: rest, taken => some ((']' :: taken).reverse, rest)
      | fuel + 1, '[' :: k :: rest, taken =>
        if k = ':' || k = '.' || k = '=' then
          let inside := rest.takeWhile (· != k)
          match rest.drop inside.length with
          | _ :: ']' :: more => go fuel more (']' :: k :: (inside.reverse ++ k :: '[' :: taken))
          | _ => go fuel (k :: rest) ('[' :: taken)
        else go fuel (k :: rest) ('[' :: taken)
      | fuel + 1, '\\' :: 'n' :: rest, taken => go fuel rest ('\n' :: taken)
      | fuel + 1, c :: rest, taken => go fuel rest (c :: taken)
    (go (rest.length + 1) rest []).map fun (inside, after) => (front ++ inside, after)

/-- Takes what stands in front of a mark, or gives up at the end of the line. -/
def upTo (mark : Char) (expression : Bool) (why : String) : Parse (List Char) := do
  let cs ← get
  match delimited mark expression (cs.length + 1) cs [] with
  | some (text, rest) =>
    set rest
    return text
  | none =>
    set (cs.drop (cs.takeWhile (· != '\n')).length)
    fail why

/-- Where the characters stand that escapes are put for, so that they do not mean anything. -/
inductive Place where
  | expression
  | replacement
  | exchange
  deriving DecidableEq

/-- A character that an escape spells, in a form in which it stands for itself. -/
def spelled (place : Place) (c : Char) : List Char :=
  let special : Bool :=
    match place with
    | .expression => "$*.[\\]^".toList.contains c
    | .replacement => c == '&' || c == '\\' || c == '\n'
    | .exchange => c == '\\'
  if special then ['\\', c] else [c]

/-- A text in which escapes for single characters are undone. -/
def unescaped (place : Place) : Nat → List Char → List Char
  | 0, cs => cs
  | fuel + 1, '\\' :: c :: rest =>
    let go (found : List Char) (rest : List Char) : List Char := found ++ unescaped place fuel rest
    let code (base count : Nat) (isDigit : Char → Bool) : List Char :=
      let ds := (rest.take count).takeWhile isDigit
      if ds = [] then go ['\\', c] rest
      else go (spelled place (Shell.Lexer.charOf base ds)) (rest.drop ds.length)
    match c with
    | 'a' => go [Char.ofNat 7] rest
    | 'f' => go [Char.ofNat 12] rest
    | 'r' => go ['\r'] rest
    | 't' => go ['\t'] rest
    | 'v' => go [Char.ofNat 11] rest
    | 'd' => code 10 3 Char.isDigit
    | 'o' => code 8 3 Shell.Lexer.isOctalDigit
    | 'x' => code 16 2 Shell.Lexer.isHexDigit
    | 'c' =>
      match rest with
      | [] => ['\\', '\\']
      | d :: rest => go (spelled place (Char.ofNat (d.toUpper.toNat ^^^ 64))) rest
    | c => go ['\\', c] rest
  | fuel + 1, c :: rest => c :: unescaped place fuel rest
  | _, [] => []

/-- An expression with flags; the empty one is the one that has been used last. -/
def expressionOf (style : Regex.Style) (text : List Char) (fold lines : Bool) :
    Parse (Option Expression) := do
  if text = [] then
    if fold || lines then fail "cannot specify modifiers on empty regexp" else return none
  else
    match Regex.parse style (unescaped .expression (text.length + 1) text) with
    | .ok regex => return some ⟨regex, fold, lines⟩
    | .error why => fail why

/-- The letters behind an expression that stands as an address. -/
def addressFlags : Nat → List Char → Parse (List Char)
  | 0, found => return found
  | fuel + 1, found => do
    skipBlanks
    match ← get with
    | 'I' :: rest =>
      set rest
      addressFlags fuel ('I' :: found)
    | 'M' :: rest =>
      set rest
      addressFlags fuel ('M' :: found)
    | _ => return found

/-- An address, if the character that has been taken begins one: it may be one that only ends a
range. -/
def address? (style : Regex.Style) : Option Char → Parse (Option RangeEnd) := fun
  | none => return none
  | some c => do
    let between (mark : Char) : Parse (Option RangeEnd) := do
      let text ← upTo mark true "unterminated address regex"
      let flags ← addressFlags ((← get).length + 1) []
      return some (.at_ (.fitting (← expressionOf style text (flags.contains 'I') (flags.contains 'M'))))
    if c = '/' then between '/'
    else if c = '\\' then
      match ← next? with
      | some mark => between mark
      | none => fail "unterminated address regex"
    else if c = '$' then return some (.at_ .last)
    else if c = '+' then
      skipBlanks
      return some (.plus (← number))
    else if c = '~' then
      skipBlanks
      return some (.multiple (← number))
    else if c.isDigit then
      modify (c :: ·)
      let n ← number
      if ← accept '~' then
        skipBlanks
        let gap ← number
        return some (.at_ (if gap = 0 then .line n else .every n gap))
      else return some (.at_ (.line n))
    else return none

/-- The guard of a command that begins with a character, and the letter of the command. -/
def guard (style : Regex.Style) (c : Char) : Parse (Guard × Option Char) := do
  let (first, second, early, letter) ←
    match ← address? style (some c) with
    | none => pure (none, none, false, some c)
    | some (.at_ a) =>
      let letter ← nextVisible?
      let (second, letter) ←
        if letter = some ',' then do
          match ← address? style (← nextVisible?) with
          | none => fail "unexpected \x60,'"
          | b => pure (b, ← nextVisible?)
        else pure (none, letter)
      let early :=
        match a with
        | .line 0 => true
        | _ => false
      let fits :=
        match second with
        | some (.at_ (.fitting _)) => true
        | _ => false
      if early && !fits then fail "invalid usage of line address 0"
      pure (some a, second, early, letter)
    | some _ => fail "invalid usage of +N or ~N as first address"
  if letter = some '!' then
    let letter ← nextVisible?
    if letter = some '!' then fail "multiple \x60!'s"
    return (⟨first, second, early, true⟩, letter)
  else return (⟨first, second, early, false⟩, letter)

/-- The end of a command. -/
def ending : Parse Unit := do
  skipBlanks
  match ← get with
  | [] => return
  | '\x7d' :: _ => return
  | '#' :: _ => return
  | c :: rest =>
    set rest
    unless c = '\n' || c = ';' do fail "extra characters after command"

/-- The rest of the line, as the name of a file. -/
def fileName : Parse String := do
  skipBlanks
  let name ← takeWhile (· != '\n')
  let _ ← next?
  if name = [] then fail "missing filename in r/R/w/W commands"
  return String.ofList (Letters.narrow name)

/-- The lines of a text, of which each but the last ends with a backslash. -/
def textLines : Nat → List Char → List Char × List Char
  | 0, cs => ([], cs)
  | _, [] => ([], [])
  | _, '\n' :: rest => ([], rest)
  | fuel + 1, '\\' :: c :: rest =>
    let (text, after) := textLines fuel rest
    (c :: text, after)
  | _, ['\\'] => ([], [])
  | fuel + 1, c :: rest =>
    let (text, after) := textLines fuel rest
    (c :: text, after)

/-- The text of a command that puts lines in; nothing if it ends behind a backslash. -/
def text : Parse (List Char) := do
  skipBlanks
  match ← get with
  | [] => fail "expected \\ after \x60a', \x60c' or \x60i'"
  | ['\\'] =>
    set ([] : List Char)
    return []
  | '\\' :: rest =>
    match rest.dropWhile isBlank with
    | '\n' :: rest => set rest
    | _ => set rest
  | _ => pure ()
  let cs ← get
  let (lines, rest) := textLines (cs.length + 1) cs
  set rest
  return lines ++ ['\n']

/-- What is put in for a match. -/
def piecesOf : Nat → List Char → List Char → List Piece
  | 0, _, _ => []
  | _, [], taken => [.text taken.reverse]
  | fuel + 1, '&' :: rest, taken => .text taken.reverse :: .group 0 :: piecesOf fuel rest []
  | fuel + 1, '\\' :: c :: rest, taken =>
    if c.isDigit then .text taken.reverse :: .group (c.toNat - 48) :: piecesOf fuel rest []
    else if "ULulE".toList.contains c then
      .text taken.reverse :: .casing c :: piecesOf fuel rest []
    else if c = 'n' then piecesOf fuel rest ('\n' :: taken)
    else piecesOf fuel rest (c :: taken)
  | fuel + 1, c :: rest, taken => piecesOf fuel rest (c :: taken)

/-- What the letters behind a substitution say. -/
structure Flags where
  fold : Bool := false
  lines : Bool := false
  every : Bool := false
  runs : Bool := false
  prints : Option Bool := none
  number : Option Nat := none
  file : Option String := none

/-- The flags of a substitution, taken one after the other. -/
def flags : Nat → Flags → Parse Flags
  | 0, f => return f
  | fuel + 1, f => do
    skipBlanks
    match ← get with
    | [] => return f
    | c :: rest =>
      if c = '\x7d' || c = '#' then return f
      else if c.isDigit then
        let n ← number
        if f.number.isSome then fail "multiple number options to \x60s' command"
        else if n = 0 then fail "number option to \x60s' command may not be zero"
        else flags fuel { f with number := some n }
      else
        set rest
        match c with
        | 'i' => flags fuel { f with fold := true }
        | 'I' => flags fuel { f with fold := true }
        | 'm' => flags fuel { f with lines := true }
        | 'M' => flags fuel { f with lines := true }
        | 'e' => flags fuel { f with runs := true }
        | 'p' =>
          if f.prints.isSome then fail "multiple \x60p' options to \x60s' command"
          else flags fuel { f with prints := some f.runs }
        | 'g' =>
          if f.every then fail "multiple \x60g' options to \x60s' command"
          else flags fuel { f with every := true }
        | 'w' => return { f with file := some (← fileName) }
        | '\n' => return f
        | ';' => return f
        | _ => fail "unknown option to \x60s'"

/-- The rest of a substitution. -/
def substitution (style : Regex.Style) : Parse Substitution := do
  let why := "unterminated \x60s' command"
  match ← next? with
  | none => fail why
  | some mark =>
    if mark = '\n' || mark = '\\' then fail why
    let text ← upTo mark true why
    let by_ ← upTo mark false why
    let f ← flags ((← get).length + 1) {}
    let by_ := unescaped .replacement (by_.length + 1) by_
    let pieces := piecesOf (by_.length + 1) by_ []
    let highest := pieces.foldl (fun n p =>
      match p with
      | .group m => max n m
      | _ => n) 0
    let expression ← expressionOf style text f.fold f.lines
    match expression with
    | some e =>
      if e.regex.groupCount < highest then
        fail ("invalid reference \\" ++ toString highest ++ " on \x60s' command's RHS")
    | none => pure ()
    return ⟨expression, pieces, f.every, f.number.getD 1, f.prints, f.runs, f.file⟩

/-- The characters of an exchange. -/
def exchanged : List Char → List Char
  | '\\' :: '\\' :: rest => '\\' :: exchanged rest
  | '\\' :: 'n' :: rest => '\n' :: exchanged rest
  | c :: rest => c :: exchanged rest
  | [] => []

/-- The rest of an exchange of characters. -/
def exchange : Parse Command := do
  let why := "unterminated \x60y' command"
  match ← next? with
  | none => fail why
  | some mark =>
    let source ← upTo mark false why
    let target ← upTo mark false why
    let source := exchanged (unescaped .exchange (source.length + 1) source)
    let target := exchanged (unescaped .exchange (target.length + 1) target)
    if source.length ≠ target.length then fail "strings for \x60y' command are different lengths"
    ending
    return .exchange source target

/-- The name of a label. -/
def label : Parse String := do
  skipBlanks
  let name ← takeWhile fun c => !(isSpace c || c == ';' || c == '\x7d')
  return String.ofList name

/-- Whether one version is later than another one, number by number. -/
def isLater (a b : String) : Bool :=
  let numbers (s : String) : List Nat := (s.splitOn ".").map fun n => n.toNat?.getD 0
  let rec go : List Nat → List Nat → Bool
    | x :: xs, y :: ys => if x = y then go xs ys else y < x
    | _ :: _, [] => true
    | [], _ => false
  go (numbers a) (numbers b)

/-- Reads commands up to the end of the script, or of the braces that they are in. -/
def instructions (style : Regex.Style) : Nat → Nat → Parse (List Instruction)
  | 0, _ => return []
  | fuel + 1, depth => do
    let _ ← takeWhile fun c => isSpace c || c == ';'
    match ← next? with
    | none => if depth = 0 then return [] else failAnywhere "unmatched \x60\x7b'"
    | some c =>
      let (g, letter) ← guard style c
      let rest : Parse (List Instruction) := instructions style fuel depth
      let with_ (c : Command) : Parse (List Instruction) := do return ⟨g, c, none⟩ :: (← rest)
      match letter with
      | none => fail "missing command"
      | some '#' =>
        if g.first.isSome then fail "comments don't accept any addresses"
        let _ ← takeWhile (· != '\n')
        rest
      | some 'v' =>
        let version ← label
        if isLater version "4.9" then fail "expected newer version of sed"
        rest
      | some '\x7b' =>
        let inside ← instructions style fuel (depth + 1)
        return ⟨g, .block inside.length, none⟩ :: (inside ++ (← rest))
      | some '\x7d' =>
        if depth = 0 then fail "unexpected \x60\x7d'"
        if g.first.isSome then fail "\x7d doesn't want any addresses"
        ending
        return [⟨⟨none, none, false, false⟩, .nothing, none⟩]
      | some ':' =>
        if g.first.isSome then fail ": doesn't want any addresses"
        let name ← label
        if name = "" then fail "\":\" lacks a label"
        return ⟨⟨none, none, false, false⟩, .nothing, some name⟩ :: (← rest)
      | some 's' => with_ (.substitute (← substitution style))
      | some 'y' => with_ (← exchange)
      | some 'e' =>
        skipBlanks
        let command ← takeWhile (· != '\n')
        with_ (.run command)
      | some c =>
        if c = 'a' || c = 'i' || c = 'c' then with_ (.lines c (← text))
        else if c = 'b' || c = 't' || c = 'T' then with_ (.branch c (← label))
        else if c = 'r' || c = 'R' || c = 'w' || c = 'W' then with_ (.file c (← fileName))
        else if c = 'q' || c = 'Q' then
          if g.second.isSome then fail "command only uses one address"
          skipBlanks
          let status ← number
          ending
          with_ (.quit (c = 'Q') status)
        else if c = 'l' || c = 'L' then
          skipBlanks
          let digits := ((← get).takeWhile Char.isDigit).isEmpty
          let width ← number
          ending
          with_ (if c = 'L' then .letter 'L' else .list (if digits then none else some width))
        else if "=dDgGhHnNpPxzF".toList.contains c then
          ending
          with_ (.letter c)
        else fail ("unknown command: \x60" ++ String.singleton c ++ "'")

end Parse

/-- Reads a script. An error tells where it is. -/
def parse (style : Regex.Style) (script : List Char) : Except (Nat × String) (List Instruction) :=
  match Parse.instructions style (script.length + 2) 0 script with
  | .ok (is, _) => .ok is
  | .error (some left, why) => .error (script.length - left, why)
  | .error (none, why) => .error (0, why)

end CrossBench.Tool.Editor
