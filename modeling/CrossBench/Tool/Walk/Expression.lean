import CrossBench.Files.Resolve
import CrossBench.Text.Calendar
import CrossBench.Text.Layout
import CrossBench.Text.Regex
import CrossBench.Tool.List.Style

/-!
# Expressions about files

An expression is made of parts, each of which holds for a file or does not; some of them also do
something. Parts are joined by signs of different strength, and parts with no sign between them must
both hold.

A form says how facts about a file are put into words. In it a percent sign and a letter stand for a
fact, and a backslash and a letter for a character; all else stands for itself.
-/

namespace CrossBench.Tool.Walk

open Shell

/-! ## Forms -/

/-- A file that has been come upon. -/
structure Visit where
  path : String
  /-- The path that has been asked for. -/
  origin : String
  depth : Nat
  node : Node

/-- How wide a fact is told. -/
structure Shape where
  flags : List Char
  width : Nat
  precision : Option Nat

/-- A piece of a form. -/
inductive Piece where
  | text (s : String)
  /-- The fact of a letter. -/
  | fact (letter : Char) (shape : Shape)
  /-- The time of a file, in the way of a letter. -/
  | time (letter : Char) (shape : Shape)

/-- The letters of facts. -/
def factLetters : List Char := "abcdDfFgGhHiklmMnpPsStuUyY".toList

/-- The character that a letter behind a backslash stands for. -/
def escaped? : Char → Option Char
  | 'a' => some (Char.ofNat 7)
  | 'b' => some (Char.ofNat 8)
  | 'f' => some (Char.ofNat 12)
  | 'n' => some '\n'
  | 'r' => some '\r'
  | 't' => some '\t'
  | 'v' => some (Char.ofNat 11)
  | '\\' => some '\\'
  | _ => none

/-- Reads a form. What is wrong with it but does not matter is told beside it. -/
def readForm : Nat → List Char → Except String (List String × List Piece)
  | 0, _ => .ok ([], [])
  | _, [] => .ok ([], [])
  | fuel + 1, '\\' :: rest =>
    let next (p : Piece) (rest : List Char) : Except String (List String × List Piece) :=
      (readForm fuel rest).map fun (notes, ps) => (notes, p :: ps)
    match rest with
    | [] => .ok (["warning: escape \x60\\' followed by nothing at all"], [.text "\\"])
    | 'c' :: _ => .ok ([], [])
    | c :: after =>
      let digits := (rest.take 3).takeWhile fun c => '0' ≤ c && c ≤ '7'
      if digits ≠ [] then
        let n := digits.foldl (fun n d => n * 8 + (d.toNat - 48)) 0
        next (.text (String.singleton (Char.ofNat (n % 256)))) (rest.drop digits.length)
      else
        match escaped? c with
        | some d => next (.text (String.singleton d)) after
        | none =>
          (next (.text ("\\" ++ String.singleton c)) after).map fun (notes, ps) =>
            (("warning: unrecognized escape \x60\\" ++ String.singleton c ++ "'") :: notes, ps)
  | fuel + 1, '%' :: rest =>
    let next (note : Option String) (p : Piece) (rest : List Char) :
        Except String (List String × List Piece) :=
      (readForm fuel rest).map fun (notes, ps) => (note.toList ++ notes, p :: ps)
    let flags := rest.takeWhile fun c => "-#0+ ".toList.contains c
    let digits := (rest.drop flags.length).takeWhile Char.isDigit
    let rest' := rest.drop (flags.length + digits.length)
    let number (ds : List Char) : Nat := ds.foldl (fun n c => n * 10 + (c.toNat - 48)) 0
    let (precision, rest') : Option Nat × List Char :=
      match rest' with
      | '.' :: more =>
        let ds := more.takeWhile Char.isDigit
        (some (number ds), more.drop ds.length)
      | _ => (none, rest')
    let shape : Shape := ⟨flags, number digits, precision⟩
    let whole := "%" ++ String.ofList (rest.take (rest.length - rest'.length))
    match rest', rest with
    | _, [] => .error "error: % at end of format string"
    | _, '%' :: more => next none (.text "%") more
    | [], _ => .error "error: the format directive \x60%\x00' is reserved for future use"
    | c :: more, _ =>
      if ['(', '[', '\x7b'].contains c then
        .error ("error: the format directive \x60%" ++ String.singleton c ++ "' is reserved for future use")
      else if ['A', 'B', 'C', 'T'].contains c then
        match more with
        | [] =>
          next (some ("warning: format directive \x60%" ++ String.singleton c
            ++ "' should be followed by another character")) (.text (whole ++ String.singleton c)) []
        | k :: more => next none (.time k shape) more
      else if factLetters.contains c then next none (.fact c shape) more
      else
        next (some ("warning: unrecognized format directive \x60%" ++ String.singleton c ++ "'"))
          (.text (whole ++ String.singleton c)) more
  | fuel + 1, rest@(_ :: _) =>
    let plain := rest.takeWhile fun c => c != '\\' && c != '%'
    (readForm fuel (rest.drop plain.length)).map fun (notes, ps) => (notes, .text (String.ofList plain) :: ps)

/-- The letter for a kind of node. -/
def typeLetter : Node → Char
  | .file _ => 'f'
  | node => kindLetter node

/-- The letter for what a node is or leads to: `L` if it leads round in a circle, `N` if to nothing. -/
def goalLetter (t : Tree) (v : Visit) : Char :=
  match v.node with
  | .link .. =>
    match t.find (pathOf v.path) true with
    | .ok node => typeLetter node
    | .error e => if e = .linkLoop then 'L' else 'N'
  | node => typeLetter node

/-- The path from the place that has been asked for. -/
def Visit.below (v : Visit) : String :=
  String.ofList ((v.path.toList.drop v.origin.length).dropWhile (· == '/'))

/-- A fact about a file. -/
def factText (zone : Zone) (t : Tree) (v : Visit) : Char → String
  | 'p' => v.path
  | 'f' => baseOf v.path
  | 'h' =>
    let cs := v.path.toList
    if !cs.contains '/' then "."
    else if cs.all (· == '/') then ""
    else String.ofList ((((cs.reverse.dropWhile (· == '/')).dropWhile (· != '/')).drop 1).reverse)
  | 'P' => v.below
  | 'H' => v.origin
  | 's' => toString (sizeOf t.disk v.node)
  | 'y' => String.singleton (typeLetter v.node)
  | 'Y' => String.singleton (goalLetter t v)
  | 'd' => toString v.depth
  | 'm' => Permission.digits 1 (t.disk.mode v.node)
  | 'M' => modeText t.disk v.node
  | 'n' => toString (t.disk.linkCount v.node)
  | 'i' => toString (serialOf t v.path v.node)
  | 'u' => "root"
  | 'g' => "root"
  | 'U' => "0"
  | 'G' => "0"
  | 'k' => toString (blocksOf t.disk v.node)
  | 'b' => toString (2 * blocksOf t.disk v.node)
  | 'D' => "65024"
  | 'F' => "overlay"
  | 'S' =>
    let size := sizeOf t.disk v.node
    toString (if size = 0 then 1 else blocksOf t.disk v.node * 1024 / size)
  | 'l' =>
    match v.node with
    | .link target _ => ofBytes target.bytes
    | _ => ""
  | _ => Calendar.text zone (t.disk.modified v.node) "%a %b %e %H:%M:%S.%N0 %Y"

/-- The letters that say how a time is told. -/
def timeLetters : List Char := "aAbBcCdDeFgGhHIjklmMnpPrRstuUVwWxyYzZ%".toList

/-- A time in the way of a letter. -/
def timeText (zone : Zone) (time : Instant) : Char → String
  | '@' => toString time.seconds ++ "." ++ Calendar.text zone time "%N" ++ "0"
  | '+' => Calendar.text zone time "%Y-%m-%d+%H:%M:%S.%N0"
  | 'S' => Calendar.text zone time "%S.%N0"
  | 'T' => Calendar.text zone time "%T.%N0"
  | 'X' => Calendar.text zone time "%T.%N0"
  | c =>
    let spelled := "%" ++ String.singleton c
    if timeLetters.contains c then Calendar.text zone time spelled else spelled

/-- A text in a shape. A number may be filled with zeros. -/
def Shape.fit (s : Shape) (isNumber : Bool) (text : String) : String :=
  let text := if isNumber && s.flags.contains '+' then "+" ++ text else text
  let cell : Cell := ⟨text, s.width, if isNumber then none else s.precision⟩
  if s.flags.contains '-' then cell.left ' '
  else cell.right (if isNumber && s.flags.contains '0' then '0' else ' ')

/-- What a form says about a file. -/
def formatted (zone : Zone) (t : Tree) (v : Visit) (pieces : List Piece) : String :=
  String.join (pieces.map fun p =>
    match p with
    | .text s => s
    | .fact 'm' shape =>
      let digits := factText zone t v 'm'
      let plain : Shape := { shape with flags := shape.flags.filter (· != '+') }
      plain.fit true (if shape.flags.contains '#' then "0" ++ digits else digits)
    | .fact c shape => shape.fit (c = 'd') (factText zone t v c)
    | .time c shape => shape.fit false (timeText zone (t.disk.modified v.node) c))

/-- A name in which characters that would not stand for themselves have a backslash. -/
def plainName (name : String) : String :=
  String.join (name.toList.map fun c =>
    match c with
    | '\n' => "\\n"
    | '\t' => "\\t"
    | '\r' => "\\r"
    | ' ' => "\\ "
    | '"' => "\\\""
    | '\\' => "\\\\"
    | c =>
      if c.toNat = 8 then "\\b"
      else if c.toNat = 12 then "\\f"
      else if 32 < c.toNat && c.toNat < 127 then String.singleton c
      else
        let n := c.toNat
        "\\" ++ toString (n / 64) ++ toString (n / 8 % 8) ++ toString (n % 8))

/-- All about a file in one line. A time that is not of the last half year is told by its year. -/
def listing (zone : Zone) (now : Instant) (t : Tree) (v : Visit) : String :=
  let time := t.disk.modified v.node
  let recent := decide (now.seconds - 15778476 < time.seconds) && !time.later now
  let cell (n : Nat) (letter : Char) : String :=
    Cell.right ⟨factText zone t v letter, n, none⟩ ' '
  cell 9 'i' ++ " " ++ cell 6 'k' ++ " " ++ factText zone t v 'M' ++ " " ++ cell 3 'n' ++ " root     root     "
    ++ cell 8 's' ++ " " ++ Calendar.text zone time (if recent then "%b %e %H:%M" else "%b %e  %Y") ++ " "
    ++ plainName v.path
    ++ (match v.node with
      | .link target _ => " -> " ++ plainName (ofBytes target.bytes)
      | _ => "") ++ "\n"

/-! ## Parts -/

/-- How a number stands to one that is asked for. -/
inductive Relation where
  | more
  | less
  | same

/-- A number that is asked for. -/
structure Measure where
  relation : Relation
  count : Nat

/-- Whether a number is as asked for. -/
def Measure.holds (m : Measure) (n : Nat) : Bool :=
  match m.relation with
  | .more => m.count < n
  | .less => n < m.count
  | .same => n == m.count

/-- A span of time, in nanoseconds: all that lies before it, all that lies after its beginning, or what
lies in it. -/
structure Span where
  relation : Relation
  beginning : Int
  width : Int

/-- Whether a point in time, in nanoseconds, lies as asked for. -/
def Span.holds (s : Span) (t : Int) : Bool :=
  match s.relation with
  | .more => t < s.beginning
  | .less => s.beginning < t
  | .same => s.beginning < t && t ≤ s.beginning + s.width

/-- A point in time, in nanoseconds. -/
def nanosOf (t : Instant) : Int := t.seconds * 1000000000 + t.nanos

/-- Which permission bits are asked for. -/
inductive Bits where
  | exactly
  | all
  | any

/-- Where what is printed goes. -/
inductive Outlet where
  | standard
  | file (descriptor : Nat)

/-- A command that is run for files. -/
structure Command where
  words : List String
  /-- Whether it is run for many files at once. -/
  together : Bool
  /-- Whether it is run where the file lies. -/
  inPlace : Bool
  /-- Whether it is run only if that is allowed. -/
  asks : Bool
  deriving DecidableEq

/-- A part of an expression. -/
inductive Part where
  | constant (b : Bool)
  | name (fold : Bool) (pattern : String)
  | path (fold : Bool) (pattern : String)
  | goal (fold : Bool) (pattern : String)
  | regex (r : Regex) (fold : Bool)
  /-- One of the kinds of these letters; of what a link leads to if `through`. -/
  | kind (letters : List Char) (through : Bool)
  | empty
  | size (m : Measure) (unit : Nat)
  /-- Bits for files and for directories. -/
  | mode (b : Bits) (files directories : Nat)
  | names (m : Measure)
  | serial (m : Measure)
  | owner (m : Measure)
  | changed (s : Span)
  | newer (t : Int)
  | sameAs (name : String)
  | allowed (bits : Nat)
  | prune
  | quit
  | delete
  | print (o : Outlet) (ending : String)
  | form (o : Outlet) (pieces : List Piece)
  | list (o : Outlet)
  /-- A command, with a number of its own. -/
  | run (number : Nat) (c : Command)

/-! ## Expressions -/

/-- An expression. -/
inductive Expression where
  | part (p : Part)
  | not (e : Expression)
  | both (first second : Expression)
  | either (first second : Expression)
  /-- The second one, after the first. -/
  | after (first second : Expression)

/-- What an expression is spelled with. -/
inductive Token where
  | part (p : Part)
  | negation (name : String)
  /-- A parenthesis, which may stand there without having been written. -/
  | opening (implied : Bool)
  | closing (implied : Bool)
  /-- A sign, and how strong it is. -/
  | sign (name : String) (strength : Nat)

namespace Token

/-- How a token is written. -/
def name : Token → String
  | part _ => ""
  | negation name => name
  | opening _ => "("
  | closing _ => ")"
  | sign name _ => name

/-- Whether something has to stand behind a token that it belongs to. -/
def isOperator : Token → Bool
  | negation _ => true
  | sign .. => true
  | _ => false

/-- Whether something may stand in front of another part with no sign between them. -/
def isComplete : Token → Bool
  | part _ => true
  | closing _ => true
  | _ => false

end Token

/-- Two expressions that a sign joins. -/
def joined (strength : Nat) (a b : Expression) : Expression :=
  match strength with
  | 1 => .after a b
  | 2 => .either a b
  | _ => .both a b

mutual

/-- Reads an expression, up to a sign that is not stronger than some strength. `before` stands in front
of it. -/
def expression (fuel strength : Nat) (before : Token) (ts : List Token) :
    Except String (Expression × List Token) :=
  match fuel with
  | 0 => .error "invalid expression"
  | fuel + 1 =>
    match ts with
    | [] => .error "invalid expression"
    | .sign name _ :: _ =>
      .error ("invalid expression; you have used a binary operator '" ++ name ++ "' with nothing before it.")
    | .closing implied :: _ =>
      .error
        (if before.isOperator && !implied then "expected an expression between '" ++ before.name ++ "' and ')'"
        else if implied then "expected an expression after '" ++ before.name ++ "'"
        else "invalid expression; you have too many ')'")
    | .part p :: rest => more fuel strength (.part p) rest
    | .negation name :: rest =>
      match expression fuel 4 (.negation name) rest with
      | .error why => .error why
      | .ok (e, rest) => more fuel strength (.not e) rest
    | .opening implied :: rest =>
      match rest with
      | [] | .closing true :: _ =>
        .error ("invalid expression; expected to find a ')' but didn't see one. "
          ++ "Perhaps you need an extra predicate after '('")
      | .closing false :: _ => .error "invalid expression; empty parentheses are not allowed."
      | _ =>
        match expression fuel 0 (.opening implied) rest with
        | .error why => .error why
        | .ok (e, .closing _ :: rest) => more fuel strength e rest
        | .ok _ =>
          .error "invalid expression; I was expecting to find a ')' somewhere but did not see one."
termination_by structural fuel

/-- Reads the signs behind an expression that are stronger than some strength, and what they join to
it. -/
def more (fuel strength : Nat) (left : Expression) (ts : List Token) : Except String (Expression × List Token) :=
  match fuel with
  | 0 => .error "invalid expression"
  | fuel + 1 =>
    match ts with
    | .sign name s :: rest =>
      if strength < s then
        match expression fuel s (.sign name s) rest with
        | .error why => .error why
        | .ok (right, rest) => more fuel strength (joined s left right) rest
      else .ok (left, ts)
    | _ => .ok (left, ts)
termination_by structural fuel

end

/-- The expression that tokens spell. If nothing in it prints, what it holds for is printed. -/
def wholeExpression (acts : Bool) (ts : List Token) : Except String Expression :=
  let print : Token := .part (.print .standard "\n")
  let ts :=
    if ts.isEmpty then [print]
    else if acts then ts
    else .opening true :: ts ++ [.closing true, .sign "-a" 3, print]
  match expression (2 * ts.length + 2) 0 (.opening true) ts with
  | .error why => .error why
  | .ok (e, []) => .ok e
  | .ok (_, .closing _ :: _) => .error "you have too many ')'"
  | .ok (_, t :: _) => .error ("unexpected extra predicate '" ++ t.name ++ "'")

end CrossBench.Tool.Walk
