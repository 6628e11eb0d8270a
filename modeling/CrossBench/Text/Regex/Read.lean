import CrossBench.Text.Regex

/-!
# Reading regular expressions

An expression is read token by token. What signs mean depends on a `Style`: whether groups and counts
need a backslash, and what becomes of signs of repetition that stand behind nothing, of counts that are
none, and of parentheses that close nothing.
-/

namespace CrossBench.Regex

/-- How expressions are written. -/
structure Style where
  /-- Whether groups, alternatives and counts in braces have no backslash, and marks of the ends of lines
  mean so everywhere. -/
  bare : Bool
  /-- Whether a plus and a question mark have no backslash. -/
  bareCounts : Bool
  /-- Whether there are counts in braces, and kinds of characters that have names. -/
  full : Bool
  /-- Whether a sign of repetition behind nothing is left out, where it does not stand for itself. -/
  skips : Bool
  /-- Whether a sign of repetition behind nothing is an error. -/
  strict : Bool
  /-- Whether one repetition of another one is an error. -/
  single : Bool
  /-- Whether braces that hold no counts stand for themselves. -/
  lenient : Bool
  /-- Whether a parenthesis that closes nothing stands for itself. -/
  loose : Bool
  deriving DecidableEq

namespace Style

/-- Basic expressions. -/
def basic : Style := ⟨false, false, true, false, false, true, false, false⟩

/-- Extended expressions, as conditions of a shell have them. -/
def extended : Style := ⟨true, true, true, true, true, false, false, true⟩

/-- Extended expressions of a line editor. -/
def extendedEditor : Style := { extended with loose := false }

/-- Basic expressions of a search in lines. -/
def basicSearch : Style := { basic with single := false }

/-- Extended expressions of a search in lines. -/
def extendedSearch : Style := { extended with strict := false, lenient := true }

/-- Expressions of a search for files. -/
def paths : Style := ⟨false, true, false, false, false, false, false, false⟩

end Style

/-- A sign of an expression. -/
inductive Token where
  | char (c : Char)
  | any
  | list
  | opening
  | closing
  | alternative
  /-- So often at least and at most. -/
  | repetition (c : Char) (least : Nat) (most : Option Nat)
  | brace
  | closingBrace
  | back (n : Nat)
  | kind (negated : Bool) (r : Range)
  | anchor (r : Regex)
  | backslash
  | ending

namespace Token

/-- Whether a token ends an alternative. -/
def ends (depth : Nat) : Token → Bool
  | alternative => true
  | ending => true
  | closing => 0 < depth
  | _ => false

end Token

/-- An expression while it is read. -/
structure Parsing where
  rest : List Char
  /-- Whether nothing has been read. -/
  fresh : Bool
  /-- How many groups have begun. -/
  groups : Nat
  /-- The groups that have ended. -/
  closed : List Nat

/-- What reads a part of an expression. -/
abbrev Parse := StateT Parsing (Except String)

/-- What a character behind a backslash means. -/
def escapedToken (style : Style) (c : Char) : Token :=
  match c with
  | 'w' => .kind false (.named "word")
  | 'W' => .kind true (.named "word")
  | 's' => .kind false (.named "space")
  | 'S' => .kind true (.named "space")
  | '<' => .anchor .wordStart
  | '>' => .anchor .wordEnd
  | 'b' => .anchor .wordEdge
  | 'B' => .anchor .noWordEdge
  | '\x60' => .anchor .textStart
  | '\'' => .anchor .textEnd
  | c =>
    if c.isDigit && c != '0' then .back (c.toNat - 48)
    else if !style.bare && c == '(' then .opening
    else if !style.bare && c == ')' then .closing
    else if !style.bare && c == '|' then .alternative
    else if !style.bare && style.full && c == '\x7b' then .brace
    else if !style.bare && style.full && c == '\x7d' then .closingBrace
    else if !style.bareCounts && c == '+' then .repetition '+' 1 none
    else if !style.bareCounts && c == '?' then .repetition '?' 0 (some 1)
    else .char c

/-- The token in front of characters, and what follows; `starts` says that a mark for the beginning of a
line means so here. -/
def token (style : Style) (starts : Bool) : List Char → Token × List Char
  | [] => (.ending, [])
  | '\\' :: [] => (.backslash, [])
  | '\\' :: c :: rest => (escapedToken style c, rest)
  | c :: rest =>
    let t : Token :=
      match c with
      | '.' => .any
      | '[' => .list
      | '*' => .repetition '*' 0 none
      | '+' => if style.bareCounts then .repetition '+' 1 none else .char c
      | '?' => if style.bareCounts then .repetition '?' 0 (some 1) else .char c
      | '(' => if style.bare then .opening else .char c
      | ')' => if style.bare then .closing else .char c
      | '|' => if style.bare then .alternative else .char c
      | '\x7b' => if style.bare && style.full then .brace else .char c
      | '\x7d' => if style.bare && style.full then .closingBrace else .char c
      | '^' => if style.bare || starts then .anchor .lineStart else .char c
      | '$' =>
        let last :=
          match rest with
          | [] => true
          | '\\' :: ')' :: _ => true
          | '\\' :: '|' :: _ => true
          | _ => false
        if style.bare || last then .anchor .lineEnd else .char c
      | c => .char c
    (t, rest)

/-- Takes a token. -/
def fetch (style : Style) (starts : Bool) : Parse Token := do
  let p ← get
  let (t, rest) := token style (starts || p.fresh) p.rest
  set { p with rest, fresh := false }
  return t

/-! ## Lists in brackets -/

/-- The complaint about a list in brackets that does not end. -/
def openList : String := "Unmatched [, [^, [:, [., or [="

/-- The name in a list in brackets up to a sign, and what follows. -/
def nameIn (c : Char) : List Char → Option (List Char × List Char)
  | a :: b :: rest =>
    if a = c ∧ b = ']' then some ([], rest)
    else (nameIn c (b :: rest)).map fun (name, rest) => (a :: name, rest)
  | _ => none

/-- An element of a list in brackets: a character, or a kind. -/
inductive Element where
  | char (c : Char)
  | kind (r : Range)
  /-- A character that is no end of a range. -/
  | alike (c : Char)

/-- Takes an element of a list in brackets; `hyphen` says that it may be a hyphen. -/
def element (style : Style) (hyphen : Bool) : List Char → Except String (Element × List Char)
  | [] => .error openList
  | '[' :: ':' :: rest =>
    if !style.full then .ok (.char '[', ':' :: rest)
    else
      match nameIn ':' rest with
      | none => .error openList
      | some (name, rest) =>
        let name := String.ofList name
        if kindNames.contains name && name != "word" && name != "ascii" then
          .ok (.kind (.named name), rest)
        else .error "Invalid character class name"
  | '[' :: e :: rest =>
    if e = '.' ∨ e = '=' then
      match nameIn e rest with
      | none => .error openList
      | some ([c], rest) => .ok (if e = '.' then .char c else .alike c, rest)
      | some _ => .error "Invalid collation character"
    else .ok (.char '[', e :: rest)
  | '-' :: '-' :: '-' :: rest => .ok (.char '-', rest)
  | '-' :: rest =>
    if !hyphen && rest.head? ≠ some ']' then .error "Invalid range end" else .ok (.char '-', rest)
  | c :: rest => .ok (.char c, rest)

/-- The elements of a list in brackets up to the closing one. -/
def elements (style : Style) : Nat → Bool → List Char → List Range →
    Except String (List Range × List Char)
  | 0, _, _, _ => .error openList
  | _, _, [], _ => .error openList
  | fuel + 1, first, cs, taken =>
    match first, cs with
    | false, ']' :: rest => .ok (taken.reverse, rest)
    | _, cs => do
      let (e, rest) ← element style first cs
      match e with
      | .kind r => elements style fuel false rest (r :: taken)
      | .alike c => elements style fuel false rest (.between c c :: taken)
      | .char low =>
        match rest with
        | '-' :: ']' :: _ => elements style fuel false rest (.between low low :: taken)
        | '-' :: [] => .error openList
        | '-' :: after =>
          let (e, rest) ← element style true after
          match e with
          | .char high =>
            if high < low then
              if style.full then .error "Invalid range end" else elements style fuel false rest taken
            else elements style fuel false rest (.between low high :: taken)
          | _ => .error "Invalid range end"
        | rest => elements style fuel false rest (.between low low :: taken)

/-- Takes a list in brackets behind the opening one. -/
def bracketed (style : Style) : Parse Regex := do
  let p ← get
  let negated := p.rest.head? == some '^'
  let inside := if negated then p.rest.drop 1 else p.rest
  if inside.isEmpty then throw "Invalid regular expression"
  match elements style (inside.length + 1) true inside [] with
  | .ok (ranges, rest) =>
    set { p with rest }
    return .oneOf negated ranges
  | .error e => throw e

/-! ## Counts -/

/-- The greatest count. -/
def countLimit : Nat := 32767

/-- What is read as a number in braces: nothing, a number, or something else; up to a comma or the end of
the braces, which is answered, or the end of the expression. -/
def countIn (style : Style) : Nat → Option (Option Nat) → List Char → Option (Option Nat) × Token × List Char
  | 0, n, cs => (n, .ending, cs)
  | fuel + 1, n, cs =>
    let (t, rest) := token style false cs
    match t with
    | .ending => (none, .ending, rest)
    | .closingBrace => (n, .closingBrace, rest)
    | .char ',' => (n, .char ',', rest)
    | .char c =>
      if c.isDigit then
        let next := n.map fun m => some (min (countLimit + 1) (m.getD 0 * 10 + (c.toNat - 48)))
        countIn style fuel next rest
      else countIn style fuel none rest
    | _ => countIn style fuel none rest

/-- The counts behind an opening brace and what follows; or why there are none. -/
def counts (style : Style) (cs : List Char) : Except String (Option (Nat × Option Nat × List Char)) :=
  let fuel := cs.length + 1
  let wrong := "Invalid content of \\\x7b\\\x7d"
  let (start, t, rest) := countIn style fuel (some none) cs
  let bad (t : Token) : Except String (Option (Nat × Option Nat × List Char)) :=
    if style.lenient then .ok none
    else
      match t with
      | .ending => .error "Unmatched \\\x7b"
      | _ => .error wrong
  let finish (least : Nat) (most : Option Nat) (t : Token) (rest : List Char) :
      Except String (Option (Nat × Option Nat × List Char)) :=
    match t with
    | .closingBrace =>
      if most.any (· < least) then .error wrong
      else if countLimit < most.getD least then .error "Regular expression too big"
      else .ok (some (least, most, rest))
    | _ => .error wrong
  match start, t with
  | none, t => bad t
  | some none, .char ',' =>
    match countIn style fuel (some none) rest with
    | (none, t, _) => bad t
    | (some most, t, rest) => finish 0 most t rest
  | some none, _ => .error wrong
  | some (some n), .closingBrace => finish n (some n) .closingBrace rest
  | some (some n), .char ',' =>
    match countIn style fuel (some none) rest with
    | (none, t, _) => bad t
    | (some most, t, rest) => finish n most t rest
  | some (some _), t => bad t

/-- Takes the signs behind a piece that say how often it is repeated; also the token behind them. -/
def repeats (style : Style) : Nat → Token → Regex → Parse (Regex × Token)
  | 0, t, r => return (r, t)
  | fuel + 1, t, r => do
    let go (r : Regex) : Parse (Regex × Token) := do
      let t ← fetch style false
      match style.single, t with
      | true, .repetition '*' _ _ => throw "Invalid preceding regular expression"
      | true, .brace => throw "Invalid preceding regular expression"
      | _, t => repeats style fuel t r
    match t with
    | .repetition _ least most => go (.repeated r least most false)
    | .brace => do
      let p ← get
      match counts style p.rest with
      | .error why => throw why
      | .ok (some (least, most, rest)) =>
        set { p with rest }
        go (.repeated r least most false)
      | .ok none => return (r, .char '\x7b')
    | t => return (r, t)

/-! ## Pieces -/

/-- One expression behind another one. -/
def joined (a b : Regex) : Regex :=
  match a, b with
  | .empty, b => b
  | a, .empty => a
  | a, b => .both a b

mutual

/-- Alternatives; also the token behind them. -/
def alternatives (style : Style) (fuel : Nat) (depth : Nat) (t : Token) : Parse (Regex × Token) :=
  match fuel with
  | 0 => return (.empty, t)
  | fuel + 1 => do
    let (first, t) ← branch style fuel depth .empty t
    match t with
    | .alternative =>
      let t ← fetch style true
      let (rest, t) ← alternatives style fuel depth t
      return (.either first rest, t)
    | t => return (first, t)
termination_by structural fuel

/-- Pieces one after the other; also the token behind them. -/
def branch (style : Style) (fuel : Nat) (depth : Nat) (taken : Regex) (t : Token) :
    Parse (Regex × Token) :=
  match fuel with
  | 0 => return (taken, t)
  | fuel + 1 => do
    if t.ends depth then return (taken, t)
    else
      let (r, t) ← piece style fuel depth t
      branch style fuel depth (joined taken r) t
termination_by structural fuel

/-- A piece, with the signs behind it; also the token behind them. -/
def piece (style : Style) (fuel : Nat) (depth : Nat) (t : Token) : Parse (Regex × Token) :=
  match fuel with
  | 0 => return (.empty, t)
  | fuel + 1 => do
    let counted (r : Regex) : Parse (Regex × Token) := do
      let t ← fetch style false
      repeats style ((← get).rest.length + 2) t r
    let behindNothing (c : Char) : Parse (Regex × Token) := do
      if style.strict then throw "Invalid preceding regular expression"
      else if style.skips then piece style fuel depth (← fetch style false)
      else counted (.char c)
    match t with
    | .char c => counted (.char c)
    | .any => counted .any
    | .kind negated r => counted (.oneOf negated [r])
    | .list => counted (← bracketed style)
    | .opening =>
      let p ← get
      let n := p.groups + 1
      set { p with groups := n }
      let t ← fetch style true
      let inner ←
        match t with
        | .closing => pure .empty
        | t => do
          let (inner, t) ← alternatives style fuel (depth + 1) t
          match t with
          | .closing => pure inner
          | _ => throw "Unmatched ( or \\("
      modify fun p => { p with closed := n :: p.closed }
      counted (.group n inner)
    | .back n =>
      if (← get).closed.contains n then counted (.back n) else throw "Invalid back reference"
    | .brace =>
      if style.single then throw "Invalid preceding regular expression"
      else if !style.lenient then behindNothing '\x7b'
      else
        let p ← get
        match counts style p.rest with
        | .error why => throw why
        | .ok none => counted (.char '\x7b')
        | .ok (some (_, _, rest)) =>
          set { p with rest }
          piece style fuel depth (← fetch style false)
    | .repetition c _ _ => behindNothing c
    | .closing =>
      if style.loose then counted (.char ')') else throw "Unmatched ) or \\)"
    | .closingBrace => counted (.char '\x7d')
    | .anchor r => if style.lenient then counted r else return (r, ← fetch style true)
    | .backslash => throw "Trailing backslash"
    | .alternative => return (.empty, t)
    | .ending => return (.empty, t)
termination_by structural fuel

end

/-- The expression that a text spells. -/
def parse (style : Style) (text : List Char) : Except String Regex :=
  let whole : Parse (Regex × Token) := do
    let t ← fetch style false
    alternatives style (8 * text.length + 16) 0 t
  match whole ⟨text, true, 0, []⟩ with
  | .error e => .error e
  | .ok ((r, _), _) => .ok r

end CrossBench.Regex
