import CrossBench.Tool.Records.Number
import CrossBench.Tool.Records.Pattern
import CrossBench.Tool.Records.Syntax
import Std.Data.HashMap

/-!
# The words of programs for records

A program is taken apart word by word, as it is read. What some signs mean depends on what has been
read before: a slash divides behind a value and begins an expression elsewhere, a sign for greater leads
what is printed into a file, and in front of a closing brace a semicolon may be left out.
-/

namespace CrossBench.Tool.Records

/-- A word of a program. -/
inductive Token where
  | number (x : Float) (written : String)
  | text (s written : String)
  | regex (source : String)
  | name (s : String)
  /-- The name of a function. -/
  | routine (s : String)
  | builtin (s : String)
  | field (n : Nat)
  /-- The number of fields. -/
  | fieldCount
  /-- Signs and the words that are reserved. -/
  | sign (s : String)
  /-- Where what is printed goes. -/
  | sink (s : Sink)
  /-- Where a record comes from. -/
  | origin
  | newline
  | semicolon
  /-- A semicolon that has been left out in front of a closing brace. -/
  | omitted
  | ending
  | strange (c : Char)
  /-- A value that has been read already. -/
  | whole (e : Expr) (p : Option Place)

namespace Token

/-- Whether a slash behind a word divides. -/
def isValue : Token → Bool
  | number .. => true
  | text .. => true
  | regex _ => true
  | name _ => true
  | field _ => true
  | fieldCount => true
  | sign s => [")", "]", "getline"].contains s
  | _ => false

/-- Whether a semicolon may be left out behind a word: it ends a statement. -/
def isClosed : Token → Bool
  | newline => true
  | semicolon => true
  | omitted => true
  | sign s => s = "\x7d"
  | _ => false

/-- A word as it is cited. -/
def cited : Token → String
  | number _ w => w
  | text _ w => w
  | regex s => "/" ++ s ++ "/"
  | name s => s
  | routine s => s
  | builtin s => s
  | field _ => "$"
  | fieldCount => "$"
  | sign s => s
  | sink .file => ">"
  | sink .append => ">>"
  | sink .command => "|"
  | origin => "<"
  | newline => "end of line"
  | semicolon => ";"
  | omitted => "\x7d"
  | ending => "end of file"
  | strange c => String.singleton c
  | whole .. => ")"

end Token

/-- What a name of the program stands for. -/
inductive Kind where
  | variable
  | table
  | routine
  deriving DecidableEq

/-- The function that is being read. -/
structure Head where
  name : String
  /-- The parameters, and what they are known to stand for. -/
  parameters : List (String × Option Kind)

/-- A program while it is read. -/
structure Parsing where
  rest : List Char
  /-- The line that has been reached. -/
  reached : Nat
  /-- The line of the last word. -/
  line : Nat
  /-- The last word. -/
  last : Option Token
  /-- Words that have been read, but belong to what follows. -/
  held : List Token
  braces : Nat
  parentheses : Nat
  /-- Whether the arguments of a statement that prints are being read. -/
  printing : Bool
  /-- Whether a place for a record is being read. -/
  fetching : Bool
  kinds : Std.HashMap String Kind
  head : Option Head
  routines : List (String × Routine)
  /-- The functions that are called, how many arguments they get, and the lines. -/
  calls : List (String × Nat × Nat)
  ranges : Nat
  loops : Nat
  /-- Whether what is read is done before the first or behind the last record. -/
  outside : Bool
  /-- What is wrong, the latest first. -/
  faults : List String
  /-- How many words must be read before the next wrong one is told. -/
  quiet : Nat

/-- Why reading stops: at a wrong word, or for good. -/
inductive Halt where
  | wrong
  | final

/-- What reads a part of a program. -/
abbrev Parse := ExceptT Halt (StateM Parsing)

/-- How many faults are told. -/
def mostFaults : Nat := 5

/-- Notes that something is wrong. -/
def blame (why : String) : Parse Unit := do
  modify fun p => { p with faults := why :: p.faults }
  let p ← get
  if mostFaults ≤ p.faults.length then throw .final

/-- Notes that something is wrong in the line of the last word. -/
def fault (why : String) : Parse Unit := do
  let p ← get
  blame ("line " ++ toString p.line ++ ": " ++ why)

/-- What words that end statements are in place of a parenthesis. -/
def endsStatement : Token → Bool
  | .newline => true
  | .semicolon => true
  | .omitted => true
  | .sign s => s = "\x7d"
  | _ => false

/-- Refuses a word. -/
def refuse {α : Type} (t : Token) : Parse α := do
  let p ← get
  if p.quiet = 0 then
    match t with
    | .strange c =>
      let shown := if ' ' < c && c.toNat < 127 then "'" ++ String.singleton c ++ "'"
        else
          let ds := String.ofList (Nat.toDigits 16 c.toNat)
          "0x" ++ (if ds.length < 2 then "0" ++ ds else ds)
      blame (toString p.line ++ ": unexpected character " ++ shown)
    | .regex s => fault ("syntax error at or near /" ++ s ++ "/")
    | t =>
      if 0 < p.parentheses && endsStatement t then fault ("missing ) near " ++ t.cited)
      else
        match t with
        | .ending =>
          if 0 < p.braces then fault "missing \x7d near end of file"
          else fault "syntax error at or near end of file"
        | t => fault ("syntax error at or near " ++ t.cited)
  throw .wrong

/-- The words that are reserved. -/
def reserved : List String :=
  ["BEGIN", "END", "function", "do", "while", "for", "break", "continue", "if", "else", "in", "delete",
    "exit", "next", "nextfile", "return", "print", "printf", "getline", "split", "match", "sub", "gsub"]

/-- The functions that every program has, with the least and the greatest number of arguments. -/
def builtins : List (String × Nat × Nat) :=
  [("length", 0, 1), ("index", 2, 2), ("substr", 2, 3), ("sprintf", 1, 255), ("sin", 1, 1), ("cos", 1, 1),
    ("atan2", 2, 2), ("exp", 1, 1), ("log", 1, 1), ("int", 1, 1), ("sqrt", 1, 1), ("rand", 0, 0),
    ("srand", 0, 1), ("close", 1, 1), ("system", 1, 1), ("toupper", 1, 1), ("tolower", 1, 1),
    ("fflush", 0, 1), ("systime", 0, 0), ("mktime", 1, 1), ("strftime", 0, 3)]

/-- The names that mean something from the beginning. -/
def knownNames : List (String × Kind) :=
  (["NR", "FNR", "ARGC", "FILENAME", "OFS", "ORS", "RLENGTH", "RSTART", "SUBSEP", "FS", "RS", "CONVFMT",
    "OFMT"].map fun n => (n, Kind.variable)) ++ [("ENVIRON", .table), ("ARGV", .table)]

/-- A program that has not been read yet. -/
def Parsing.ofText (text : List Char) : Parsing where
  rest := text
  reached := 1
  line := 1
  last := none
  held := []
  braces := 0
  parentheses := 0
  printing := false
  fetching := false
  kinds := .ofList knownNames
  head := none
  routines := []
  calls := []
  ranges := 0
  loops := 0
  outside := false
  faults := []
  quiet := 0

/-! ## Taking the text apart -/

/-- White space within a line. -/
def isGap (c : Char) : Bool := c == ' ' || (c != '\n' && '\t' ≤ c && c ≤ '\r')

/-- Sets what is left of the text. -/
def leave (rest : List Char) : Parse Unit := modify fun p => { p with rest }

/-- A text without its empty lines and comments in front, and how many lines those were. -/
def skipLines : Nat → List Char → Nat × List Char
  | 0, cs => (0, cs)
  | _, [] => (0, [])
  | n + 1, c :: rest =>
    if c = '#' then skipLines n (rest.dropWhile (· != '\n'))
    else if c = '\n' then
      let (lines, rest) := skipLines n rest
      (lines + 1, rest)
    else if isGap c then skipLines n rest
    else if c = '\\' then
      match rest.dropWhile isGap with
      | '\n' :: more =>
        let (lines, rest) := skipLines (n - (rest.length - more.length)) more
        (lines + 1, rest)
      | _ => (0, c :: rest)
    else (0, c :: rest)

/-- Goes on behind empty lines. -/
def eatLines : Parse Unit := modify fun p =>
  let (lines, rest) := skipLines (p.rest.length + 1) p.rest
  { p with rest, reached := p.reached + lines }

/-- Goes on behind a semicolon, if there is one in the line. -/
def eatSemicolon : Parse Unit := modify fun p =>
  match p.rest.dropWhile isGap with
  | ';' :: rest => { p with rest }
  | rest => { p with rest }

/-- The beginning of a text that is cited because it does not end. -/
def beginning (cs : List Char) : String := String.ofList (cs.take 10)

/-- A string behind its quote: its characters with their escapes, how many lines it takes, and what
follows. -/
def quotedText : Nat → List Char → List Char → Nat → Option (List Char × Nat × List Char)
  | 0, _, _, _ => none
  | _, [], _, _ => none
  | n + 1, c :: rest, taken, lines =>
    match c, rest with
    | '"', _ => some (taken.reverse, lines, rest)
    | '\n', _ => none
    | '\\', '\n' :: more => quotedText n more taken (lines + 1)
    | '\\', d :: more => quotedText n more (d :: '\\' :: taken) lines
    | c, rest => quotedText n rest (c :: taken) lines

/-- An expression behind its slash, and what follows. In a list in brackets a slash means nothing. -/
def slashedText : Nat → Nat → Bool → List Char → List Char → Option (List Char × List Char)
  | 0, _, _, _, _ => none
  | _, _, _, [], _ => none
  | n + 1, depth, fresh, c :: rest, taken =>
    match c, rest with
    | '\n', _ => none
    | '/', _ => if depth = 0 then some (taken.reverse, rest) else slashedText n depth false rest ('/' :: taken)
    | '\\', '/' :: more => slashedText n depth false more ('/' :: taken)
    | '\\', d :: more => slashedText n depth false more (d :: '\\' :: taken)
    | '[', _ =>
      if depth = 0 then
        let (sign, rest) : List Char × List Char :=
          match rest with
          | '^' :: rest => (['^'], rest)
          | rest => ([], rest)
        slashedText n 1 true rest (sign ++ '[' :: taken)
      else if rest.head? == some ':' then slashedText n 2 false rest ('[' :: taken)
      else slashedText n depth false rest ('[' :: taken)
    | ']', _ =>
      if depth = 1 && fresh then slashedText n 1 false rest (']' :: taken)
      else if depth = 2 then slashedText n 1 false rest (']' :: taken)
      else slashedText n 0 false rest (']' :: taken)
    | c, rest => slashedText n depth false rest (c :: taken)

/-- The digits of a decimal number in front, and what follows. -/
def decimalText (cs : List Char) : List Char × List Char :=
  let whole := cs.takeWhile Char.isDigit
  let rest := cs.drop whole.length
  let (point, rest) : List Char × List Char :=
    match rest with
    | '.' :: more =>
      let f := more.takeWhile Char.isDigit
      ('.' :: f, more.drop f.length)
    | rest => ([], rest)
  let exponent : List Char :=
    match rest with
    | e :: more =>
      if e = 'e' || e = 'E' then
        let sign := more.take (if more.head? == some '-' || more.head? == some '+' then 1 else 0)
        let ds := (more.drop sign.length).takeWhile Char.isDigit
        if ds.isEmpty then [] else e :: (sign ++ ds)
      else []
    | [] => []
  (whole ++ point ++ exponent, rest.drop exponent.length)

/-- The kind of a name, as far as it is known. -/
def Parsing.kindOf (p : Parsing) (name : String) : Option (Option Kind) :=
  match p.head.bind fun h => h.parameters.lookup name with
  | some kind => some kind
  | none => (p.kinds[name]?).map some

/-- What a name is that stands in the text; `rest` follows it. -/
def nameToken (s : String) (rest : List Char) : Parse Token := do
  let p ← get
  let own := (p.head.bind fun h => h.parameters.lookup s).isSome
  if own then return .name s
  else if reserved.contains s then return .sign s
  else if s = "NF" then return .fieldCount
  else if builtins.any fun b => b.1 = s then
    if s = "length" && (rest.dropWhile isGap).head? != some '(' then return .sign s
    else return .builtin s
  else
    match p.kinds[s]? with
    | some .routine => return .routine s
    | some _ => return .name s
    | none =>
      if rest.head? == some '(' then
        modify fun p => { p with kinds := p.kinds.insert s .routine }
        return .routine s
      else return .name s

/-- The signs of several characters, and those of one character. -/
def signs : List String :=
  ["++", "--", "+=", "-=", "*=", "/=", "%=", "^=", "==", "!=", "!~", "<=", ">=", "&&", "||", "+", "-",
    "*", "%", "^", "=", "!", "<", ">", "~", "?", ":", "[", "]", ","]

/-- The sign in front of a text. -/
def signOf? (cs : List Char) : Option String :=
  signs.find? fun s => s.toList.isPrefixOf cs

/-- Takes an expression behind its slash. -/
def slashed (rest : List Char) : Parse Token := do
  match slashedText (rest.length + 1) 0 false rest [] with
  | some (source, rest) =>
    leave rest
    return .regex (String.ofList source)
  | none =>
    fault ("runaway regular expression /" ++ beginning (rest.takeWhile (· != '\n')) ++ " ...")
    throw .final

/-- Takes a field behind its dollar sign, if that is a number. -/
def dollar (rest : List Char) : Parse Token := do
  let digits := rest.dropWhile isGap
  let (ds, after) := decimalText digits
  if ds.any Char.isDigit && (digits.head?.any fun c => c.isDigit || c == '.') then
    leave after
    return .field (clamped 0 (Nat.pow 2 31) (leading ds).1).toNat
  else
    leave digits
    return .sign "$"

/-- Takes the next word from the text. -/
def nextToken : Nat → Parse Token
  | 0 => return .ending
  | n + 1 => do
    let p ← get
    match p.rest with
    | [] => return .ending
    | c :: rest =>
      if isGap c then
        leave (rest.dropWhile isGap)
        nextToken n
      else
        match c with
        | '#' =>
          leave (rest.dropWhile (· != '\n'))
          nextToken n
        | '\\' =>
          match rest.dropWhile isGap with
          | '\n' :: more =>
            set { p with rest := more, reached := p.reached + 1, line := p.reached + 1 }
            nextToken n
          | [] =>
            leave []
            return .ending
          | more =>
            leave more
            return .strange '\\'
        | '\n' =>
          set { p with rest, reached := p.reached + 1 }
          eatLines
          return .newline
        | ';' =>
          leave rest
          eatLines
          return .semicolon
        | '\x7b' =>
          set { p with rest, braces := p.braces + 1 }
          eatLines
          return .sign "\x7b"
        | '\x7d' =>
          if p.braces = 0 then
            leave rest
            fault "extra '\x7d'"
            eatSemicolon
            nextToken n
          else if p.last.any Token.isClosed then
            set { p with rest, braces := p.braces - 1 }
            if p.braces = 1 then eatSemicolon
            eatLines
            return .sign "\x7d"
          else return .omitted
        | '(' =>
          set { p with rest, parentheses := p.parentheses + 1 }
          return .sign "("
        | ')' =>
          if p.parentheses = 0 then
            leave rest
            fault "extra ')'"
            nextToken n
          else
            set { p with rest, parentheses := p.parentheses - 1 }
            return .sign ")"
        | '"' =>
          match quotedText (rest.length + 1) rest [] 0 with
          | some (written, lines, rest) =>
            set { p with rest, reached := p.reached + lines }
            let written := String.ofList written
            return .text (unescape written) written
          | none =>
            fault ("runaway string constant \"" ++ beginning (rest.takeWhile (· != '\n')) ++ " ...")
            throw .final
        | '/' =>
          if p.last.any Token.isValue then
            match rest with
            | '=' :: more =>
              leave more
              return .sign "/="
            | rest =>
              leave rest
              return .sign "/"
          else slashed rest
        | '$' => dollar rest
        | '>' =>
          if p.printing && p.parentheses = 0 then
            set { p with rest := if rest.head? == some '>' then rest.drop 1 else rest, printing := false }
            return .sink (if rest.head? == some '>' then .append else .file)
          else if rest.head? == some '=' then
            leave (rest.drop 1)
            return .sign ">="
          else
            leave rest
            return .sign ">"
        | '<' =>
          if rest.head? == some '=' then
            leave (rest.drop 1)
            return .sign "<="
          else if p.fetching then
            set { p with rest, fetching := false }
            return .origin
          else
            leave rest
            return .sign "<"
        | '|' =>
          if rest.head? == some '|' then
            leave (rest.drop 1)
            eatLines
            return .sign "||"
          else if p.printing && p.parentheses = 0 then
            set { p with rest, printing := false }
            return .sink .command
          else
            leave rest
            return .sign "|"
        | c =>
          if c.isDigit || (c = '.' && rest.head?.any Char.isDigit) then
            let (ds, after) := decimalText (c :: rest)
            leave after
            let x := (leading ds).1
            if x.isInf then fault (String.ofList ds ++ " : decimal overflow")
            return .number x (String.ofList ds)
          else if c.isAlpha || c = '_' then
            let s := (c :: rest).takeWhile fun c => c.isAlphanum || c == '_'
            let after := (c :: rest).drop s.length
            leave after
            nameToken (String.ofList s) after
          else
            match signOf? (c :: rest) with
            | some s =>
              leave ((c :: rest).drop s.length)
              if s = "&&" || s = "," then eatLines
              return .sign s
            | none =>
              leave rest
              return .strange c

/-- Looks at the next word. -/
def peek : Parse Token := do
  let p ← get
  match p.held with
  | t :: _ => return t
  | [] =>
    modify fun p => { p with line := p.reached }
    let t ← nextToken (p.rest.length + 2)
    modify fun p => { p with held := [t], last := some t }
    return t

/-- Takes the next word. -/
def fetch : Parse Token := do
  let t ← peek
  modify fun p => { p with held := p.held.drop 1, quiet := p.quiet - 1 }
  return t

/-- Gives a word back. -/
def unfetch (t : Token) : Parse Unit := modify fun p => { p with held := t :: p.held }

/-- Refuses a word that has been taken. -/
def refuseTaken {α : Type} (t : Token) : Parse α := do
  unfetch t
  refuse t

/-- Whether the next word is a sign. -/
def sees (s : String) : Parse Bool := do
  match ← peek with
  | .sign t => return s = t
  | _ => return false

/-- Takes a sign if it is the next word. -/
def takes (s : String) : Parse Bool := do
  if ← sees s then
    let _ ← fetch
    return true
  else return false

/-- Takes a sign that must be there. -/
def expect (s : String) : Parse Unit := do
  unless ← takes s do refuse (← peek)

end CrossBench.Tool.Records
