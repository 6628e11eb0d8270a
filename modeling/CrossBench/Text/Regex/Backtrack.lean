import CrossBench.Text.Regex.Read

/-!
# Reading expressions with a preference

In these expressions each choice has an order of preference, and the first way to match is taken instead
of the longest one. They also look ahead and behind, keep to what has been matched, and change in the
middle whether capitals count.
-/

namespace CrossBench.Regex.Backtrack

/-- An expression while it is read. -/
structure Parsing where
  rest : List Char
  groups : Nat
  names : List (String × Nat)
  /-- Whether capitals and small letters are the same. -/
  fold : Bool
  /-- Whether blanks do not count. -/
  sparse : Bool

/-- What reads a part of an expression. -/
abbrev Parse := StateT Parsing (Except String)

/-- Sets what is left. -/
def leave (rest : List Char) : Parse Unit := modify fun p => { p with rest }

/-- A range with the other case of its letters. -/
def bothCases (r : Range) : List Range :=
  match r with
  | .named "upper" => [.named "alpha"]
  | .named "lower" => [.named "alpha"]
  | .named kind => [.named kind]
  | .between low high =>
    let others := ((List.range 26).map fun i => Char.ofNat (97 + i)).filterMap fun c =>
      let small := r.admits c
      let capital := r.admits c.toUpper
      if small && !capital then some (Range.between c.toUpper c.toUpper)
      else if capital && !small then some (Range.between c c)
      else none
    .between low high :: others

/-- The expression for some characters. -/
def listed (fold negated : Bool) (ranges : List Range) : Regex :=
  .oneOf negated (if fold then ranges.flatMap bothCases else ranges)

/-- The expression for one character. -/
def single (fold : Bool) (c : Char) : Regex :=
  if fold && Letters.toLower c != Letters.toUpper c then
    .oneOf false [.between (Letters.toLower c) (Letters.toLower c),
      .between (Letters.toUpper c) (Letters.toUpper c)]
  else .char c

/-- How many characters an expression matches, if that is certain. -/
def width? : Regex → Option Nat
  | .char _ => some 1
  | .any => some 1
  | .oneOf _ _ => some 1
  | .group _ r => width? r
  | .only r => width? r
  | .both a b => (width? a).bind fun m => (width? b).map (m + ·)
  | .either a b => (width? a).bind fun m => if width? b = some m then some m else none
  | .repeated r least most _ => if most = some least then (width? r).map (least * ·) else none
  | .back _ => none
  | _ => some 0

/-- Whether each alternative of an expression has a certain number of characters. -/
def isSteady : Regex → Bool
  | .either a b => isSteady a && isSteady b
  | r => (width? r).isSome

/-- The greatest number of a group that an expression goes back to. -/
def highestBack : Regex → Nat
  | .back n => n
  | .group _ r => highestBack r
  | .both a b => max (highestBack a) (highestBack b)
  | .either a b => max (highestBack a) (highestBack b)
  | .repeated r _ _ _ => highestBack r
  | .look _ _ r => highestBack r
  | .only r => highestBack r
  | _ => 0

/-- The number that digits spell. -/
def valueOf (base : Nat) (ds : List Char) : Nat :=
  ds.foldl (fun n c =>
    let d := if c.isDigit then c.toNat - 48 else c.toLower.toNat - 87
    n * base + d) 0

/-- A digit of a base. -/
def isHex (c : Char) : Bool := c.isDigit || ('a' ≤ c && c ≤ 'f') || ('A' ≤ c && c ≤ 'F')

/-- A digit of a base. -/
def isOctal (c : Char) : Bool := '0' ≤ c && c ≤ '7'

/-- The kind of characters that a letter behind a backslash stands for, and whether it stands for all
others. -/
def kindOf? (c : Char) : Option (Bool × List Range) :=
  let breaks : List Range := [.between '\n' '\r', .between (Char.ofNat 0x85) (Char.ofNat 0x85),
    .between (Char.ofNat 0x2028) (Char.ofNat 0x2029)]
  match c with
  | 'd' => some (false, [.named "digit"])
  | 'D' => some (true, [.named "digit"])
  | 'w' => some (false, [.named "word"])
  | 'W' => some (true, [.named "word"])
  | 's' => some (false, [.named "space"])
  | 'S' => some (true, [.named "space"])
  | 'h' => some (false, [.named "blank"])
  | 'H' => some (true, [.named "blank"])
  | 'v' => some (false, breaks)
  | 'V' => some (true, breaks)
  | _ => none

/-- The kind of characters that has a name of one or two letters. -/
def propertyOf? (name : String) : Option String :=
  match name.toList with
  | ['L'] => some "alpha"
  | ['L', 'u'] => some "upper"
  | ['L', 'l'] => some "lower"
  | 'N' :: _ => some "digit"
  | 'P' :: _ => some "punct"
  | 'S' :: _ => some "punct"
  | 'Z' :: _ => some "space"
  | 'C' :: _ => some "cntrl"
  | ['X', 'w', 'd'] => some "word"
  | ['A', 'n', 'y'] => some "any"
  | _ => none

/-- What a backslash and a character behind it stand for, if that is one character: it and what
follows. -/
def escapedChar? (c : Char) (rest : List Char) : Except String (Option (Char × List Char)) :=
  match c with
  | 't' => .ok (some ('\t', rest))
  | 'n' => .ok (some ('\n', rest))
  | 'r' => .ok (some ('\r', rest))
  | 'f' => .ok (some (Char.ofNat 12, rest))
  | 'e' => .ok (some (Char.ofNat 27, rest))
  | 'a' => .ok (some (Char.ofNat 7, rest))
  | '0' =>
    let ds := (rest.take 2).takeWhile isOctal
    .ok (some (Char.ofNat (valueOf 8 ds), rest.drop ds.length))
  | 'o' =>
    match rest with
    | '\x7b' :: more =>
      let ds := more.takeWhile isOctal
      match more.drop ds.length with
      | '\x7d' :: after => .ok (some (Char.ofNat (valueOf 8 ds), after))
      | _ => .error "non-octal character in \\o\x7b\x7d (closing brace missing?)"
    | _ => .error "missing opening brace after \\o"
  | 'x' =>
    match rest with
    | '\x7b' :: more =>
      let ds := more.takeWhile isHex
      match more.drop ds.length with
      | '\x7d' :: after => .ok (some (Char.ofNat (valueOf 16 ds), after))
      | _ => .error "non-hex character in \\x\x7b\x7d (closing brace missing?)"
    | rest =>
      let ds := (rest.take 2).takeWhile isHex
      .ok (some (Char.ofNat (valueOf 16 ds), rest.drop ds.length))
  | 'c' =>
    match rest with
    | [] => .error "\\c at end of pattern"
    | d :: after => .ok (some (Char.ofNat (d.toUpper.toNat ^^^ 64), after))
  | c =>
    if c.isAlphanum then .ok none else .ok (some (c, rest))

/-- The complaint about an escape that means nothing. -/
def unknownEscape (c : Char) : String :=
  if "FLlNUu".toList.contains c then
    "PCRE2 does not support \\F, \\L, \\l, \\N\x7bname\x7d, \\U, or \\u"
  else "unrecognized character follows \\"

/-! ## Lists in brackets -/

/-- An element of a list in brackets. -/
inductive Element where
  | char (c : Char)
  | kind (negated : Bool) (ranges : List Range)

/-- Takes an element of a list in brackets. -/
def element : List Char → Except String (Element × List Char)
  | [] => .error "missing terminating ] for character class"
  | '[' :: ':' :: rest =>
    let name := rest.takeWhile fun c => c.isAlpha || c == '^'
    match rest.drop name.length with
    | ':' :: ']' :: after =>
      let (negated, name) : Bool × List Char :=
        match name with
        | '^' :: name => (true, name)
        | name => (false, name)
      let name := String.ofList name
      if kindNames.contains name || name = "word" || name = "ascii" then
        .ok (.kind negated [.named name], after)
      else .error "unknown POSIX class name"
    | _ => .ok (.char '[', ':' :: rest)
  | '\\' :: [] => .error "\\ at end of pattern"
  | '\\' :: c :: rest =>
    match kindOf? c with
    | some (negated, ranges) => .ok (.kind negated ranges, rest)
    | none =>
      if c = 'b' then .ok (.char (Char.ofNat 8), rest)
      else do
        match ← escapedChar? c rest with
        | some (c, rest) => .ok (.char c, rest)
        | none =>
          if isOctal c then
            let ds := ((c :: rest).take 3).takeWhile isOctal
            .ok (.char (Char.ofNat (valueOf 8 ds)), (c :: rest).drop ds.length)
          else .error (unknownEscape c)
  | c :: rest => .ok (.char c, rest)

/-- The elements of a list in brackets up to the closing one. -/
def elements : Nat → Bool → List Char → List Element → Except String (List Element × List Char)
  | 0, _, _, _ => .error "missing terminating ] for character class"
  | fuel + 1, first, cs, taken =>
    match first, cs with
    | false, ']' :: rest => .ok (taken.reverse, rest)
    | _, cs => do
      let (e, rest) ← element cs
      match e, rest with
      | .kind .., '-' :: c :: _ =>
        if c = ']' then elements fuel false rest (e :: taken) else .error "invalid range in character class"
      | .char low, '-' :: c :: after =>
        if c = ']' then elements fuel false rest (e :: taken)
        else
          match ← element (c :: after) with
          | (.char high, rest) =>
            if high < low then .error "range out of order in character class"
            else elements fuel false rest (.kind false [.between low high] :: taken)
          | _ => .error "invalid range in character class"
      | .char c, rest => elements fuel false rest (.kind false [.between c c] :: taken)
      | e, rest => elements fuel false rest (e :: taken)

/-- Takes a list in brackets behind the opening one. -/
def bracketed : Parse Regex := do
  let p ← get
  let negated := p.rest.head? == some '^'
  let inside := if negated then p.rest.drop 1 else p.rest
  match elements (inside.length + 1) true inside [] with
  | .error why => throw why
  | .ok (es, rest) =>
    leave rest
    let plain := es.flatMap fun e =>
      match e with
      | .kind false ranges => ranges
      | _ => []
    let others := es.filterMap fun e =>
      match e with
      | .kind true ranges => some (listed p.fold true ranges)
      | _ => none
    if others.isEmpty then return listed p.fold negated plain
    else
      let all := others.foldl (fun r o => .either r o) (listed p.fold false plain)
      return if negated then .both (.look true true all) .any else all

/-! ## Counts -/

/-- The counts behind an opening brace, and what follows. -/
def counts? (cs : List Char) : Option (List Char × Option (List Char) × List Char) :=
  let least := cs.takeWhile Char.isDigit
  if least = [] then none
  else
    match cs.drop least.length with
    | '\x7d' :: rest => some (least, some least, rest)
    | ',' :: after =>
      let most := after.takeWhile Char.isDigit
      match after.drop most.length with
      | '\x7d' :: rest => some (least, if most = [] then none else some most, rest)
      | _ => none
    | _ => none

/-- The signs of repetition in front: at least and at most so often, and what follows. -/
def repetition? (cs : List Char) : Except String (Option (Nat × Option Nat × List Char)) :=
  match cs with
  | '*' :: rest => .ok (some (0, none, rest))
  | '+' :: rest => .ok (some (1, none, rest))
  | '?' :: rest => .ok (some (0, some 1, rest))
  | '\x7b' :: rest =>
    match counts? rest with
    | none => .ok none
    | some (least, most, rest) =>
      let least := valueOf 10 least
      let most := most.map (valueOf 10)
      if 65535 < least || most.any (65535 < ·) then .error "number too big in \x7b\x7d quantifier"
      else if most.any (· < least) then .error "numbers out of order in \x7b\x7d quantifier"
      else .ok (some (least, most, rest))
  | _ => .ok none

/-- Takes the signs of repetition behind a piece. -/
def repeated (r : Regex) : Parse Regex := do
  let p ← get
  match repetition? p.rest with
  | .error why => throw why
  | .ok none => return r
  | .ok (some (least, most, rest)) =>
    match rest with
    | '?' :: rest =>
      leave rest
      return .repeated r least most true
    | '+' :: rest =>
      leave rest
      return .only (.repeated r least most false)
    | rest =>
      leave rest
      return .repeated r least most false

/-! ## Pieces -/

/-- Takes the name of a group up to a mark. -/
def nameUpTo (mark : Char) : Parse String := do
  let p ← get
  let name := p.rest.takeWhile fun c => c.isAlphanum || c == '_'
  match p.rest.drop name.length with
  | c :: rest =>
    if c = mark then
      leave rest
      return String.ofList name
    else throw "syntax error in subpattern name (missing terminator?)"
  | [] => throw "syntax error in subpattern name (missing terminator?)"

/-- The group that has a name. -/
def named (name : String) : Parse Regex := do
  match (← get).names.lookup name with
  | some n => return .back n
  | none => throw "reference to non-existent subpattern"

/-- Takes what stands behind a backslash. -/
def escape : Parse Regex := do
  let p ← get
  match p.rest with
  | [] => throw "\\ at end of pattern"
  | c :: rest =>
    leave rest
    if let some (negated, ranges) := kindOf? c then return listed false negated ranges
    match c with
    | 'b' => return .wordEdge
    | 'B' => return .noWordEdge
    | 'A' => return .textStart
    | 'G' => return .textStart
    | 'z' => return .textEnd
    | 'Z' => return .textEnd
    | 'K' => return .here
    | 'N' => return .any
    | 'X' => return .any
    | 'E' => return .empty
    | 'R' => return .either (.both (.char '\r') (.char '\n')) (listed false false [.between '\n' '\r'])
    | 'Q' =>
      let rec inside : Nat → List Char → List Char × List Char
        | 0, cs => ([], cs)
        | _, [] => ([], [])
        | _, '\\' :: 'E' :: rest => ([], rest)
        | n + 1, c :: rest =>
          let (text, after) := inside n rest
          (c :: text, after)
      let (text, after) := inside rest.length rest
      leave after
      return text.foldr (fun c r => joined (single p.fold c) r) .empty
    | 'k' =>
      match rest with
      | '<' :: after => leave after *> nameUpTo '>' >>= named
      | '\'' :: after => leave after *> nameUpTo '\'' >>= named
      | '\x7b' :: after => leave after *> nameUpTo '\x7d' >>= named
      | _ => throw "\\k is not followed by a braced, angle-bracketed, or quoted name"
    | 'g' =>
      let braced := rest.head? == some '\x7b'
      let rest := if braced then rest.drop 1 else rest
      let back := rest.head? == some '-'
      let rest := if back then rest.drop 1 else rest
      let ds := rest.takeWhile Char.isDigit
      let after := rest.drop ds.length
      if ds = [] then
        if braced && !back then nameUpTo '\x7d' >>= named
        else throw "a numbered reference must not be zero"
      else
        let n := valueOf 10 ds
        leave (if braced then after.drop 1 else after)
        return .back (if back then p.groups + 1 - n else n)
    | 'p' =>
      let (name, after) : List Char × List Char :=
        match rest with
        | '\x7b' :: more => (more.takeWhile (· != '\x7d'), (more.dropWhile (· != '\x7d')).drop 1)
        | c :: more => ([c], more)
        | [] => ([], [])
      match propertyOf? (String.ofList name) with
      | some "any" =>
        leave after
        return .any
      | some kind =>
        leave after
        return listed false false [.named kind]
      | none => throw "unknown property after \\P or \\p"
    | 'P' =>
      let (name, after) : List Char × List Char :=
        match rest with
        | '\x7b' :: more => (more.takeWhile (· != '\x7d'), (more.dropWhile (· != '\x7d')).drop 1)
        | c :: more => ([c], more)
        | [] => ([], [])
      match propertyOf? (String.ofList name) with
      | some kind =>
        leave after
        return listed false true [.named kind]
      | none => throw "unknown property after \\P or \\p"
    | c =>
      if c.isDigit && c != '0' then
        let ds := (c :: rest).takeWhile Char.isDigit
        leave ((c :: rest).drop ds.length)
        return .back (valueOf 10 ds)
      else
        match escapedChar? c rest with
        | .error why => throw why
        | .ok (some (c, rest)) =>
          leave rest
          return single p.fold c
        | .ok none => throw (unknownEscape c)

/-- Skips blanks and comments where they do not count. -/
def skipBlanks : Nat → Parse Unit
  | 0 => return
  | fuel + 1 => do
    let p ← get
    if !p.sparse then return
    else
      match p.rest with
      | '#' :: rest =>
        leave (rest.dropWhile (· != '\n'))
        skipBlanks fuel
      | c :: rest =>
        if isOfKind "space" c then
          leave rest
          skipBlanks fuel
        else return
      | [] => return

/-- Whether pieces can be repeated. -/
def isRepeatable : Regex → Bool
  | .lineStart => false
  | .lineEnd => false
  | .textStart => false
  | .textEnd => false
  | .wordEdge => false
  | .noWordEdge => false
  | .here => false
  | _ => true

mutual

/-- Takes alternatives. -/
def alternatives (fuel : Nat) (depth : Nat) : Parse Regex :=
  match fuel with
  | 0 => return .empty
  | fuel + 1 => do
    let first ← sequence fuel depth .empty
    match (← get).rest with
    | '|' :: rest =>
      leave rest
      return .either first (← alternatives fuel depth)
    | _ => return first
termination_by structural fuel

/-- Takes pieces one after the other. -/
def sequence (fuel : Nat) (depth : Nat) (taken : Regex) : Parse Regex :=
  match fuel with
  | 0 => return taken
  | fuel + 1 => do
    skipBlanks ((← get).rest.length + 1)
    match (← get).rest with
    | [] => return taken
    | '|' :: _ => return taken
    | ')' :: _ => if depth = 0 then throw "unmatched closing parenthesis" else return taken
    | c :: rest =>
      if let .ok (some _) := repetition? (c :: rest) then
        throw "quantifier does not follow a repeatable item"
      leave rest
      let r : Regex ←
        match c with
        | '(' => group fuel depth rest
        | '[' =>
          if rest.head? == some ':' &&
              ((rest.drop 1).dropWhile fun c => c.isAlpha).take 2 == [':', ']'] then
            throw "POSIX named classes are supported only within a class"
          bracketed
        | '.' => pure .any
        | '^' => pure .lineStart
        | '$' => pure .lineEnd
        | '\\' => escape
        | c => pure (single (← get).fold c)
      skipBlanks ((← get).rest.length + 1)
      let r ← if isRepeatable r then repeated r else pure r
      sequence fuel depth (joined taken r)
termination_by structural fuel

/-- Takes what is in parentheses, behind the opening one. -/
def group (fuel : Nat) (depth : Nat) (rest : List Char) : Parse Regex :=
  match fuel with
  | 0 => return .empty
  | fuel + 1 => do
    let p ← get
    let close : Parse Unit := do
      match (← get).rest with
      | ')' :: rest => modify fun q => { q with rest, fold := p.fold, sparse := p.sparse }
      | _ => throw "missing closing parenthesis"
    let inner (rest : List Char) : Parse Regex := do
      leave rest
      let r ← alternatives fuel (depth + 1)
      close
      return r
    let captured (name : Option String) : Parse Regex := do
      let n := (← get).groups + 1
      modify fun q =>
        { q with groups := n, names := match name with | some s => (s, n) :: q.names | none => q.names }
      return .group n (← inner (← get).rest)
    let behind (negated : Bool) (rest : List Char) : Parse Regex := do
      let r ← inner rest
      if isSteady r then return .look false negated r
      else throw "lookbehind assertion is not fixed length"
    match rest with
    | '?' :: ':' :: rest => inner rest
    | '?' :: '|' :: rest => inner rest
    | '?' :: '>' :: rest => return .only (← inner rest)
    | '?' :: '=' :: rest => return .look true false (← inner rest)
    | '?' :: '!' :: rest => return .look true true (← inner rest)
    | '?' :: '<' :: '=' :: rest => behind false rest
    | '?' :: '<' :: '!' :: rest => behind true rest
    | '?' :: '#' :: rest =>
      let rest := rest.dropWhile (· != ')')
      if rest = [] then throw "missing ) after (?# comment"
      leave (rest.drop 1)
      return .empty
    | '?' :: '<' :: rest => leave rest *> nameUpTo '>' >>= fun n => captured (some n)
    | '?' :: '\'' :: rest => leave rest *> nameUpTo '\'' >>= fun n => captured (some n)
    | '?' :: 'P' :: '<' :: rest => leave rest *> nameUpTo '>' >>= fun n => captured (some n)
    | '?' :: 'P' :: '=' :: rest => leave rest *> nameUpTo ')' >>= named
    | ['?'] => throw "missing closing parenthesis"
    | '?' :: rest =>
      let letters := rest.takeWhile fun c => "imsxnJU-^".toList.contains c
      let on := letters.takeWhile (· != '-')
      let off := letters.drop on.length
      modify fun q =>
        { q with
          fold := (q.fold || on.contains 'i') && !off.contains 'i'
          sparse := (q.sparse || on.contains 'x') && !off.contains 'x' }
      match rest.drop letters.length with
      | ')' :: rest =>
        leave rest
        return .empty
      | ':' :: rest => inner rest
      | [] => throw "missing closing parenthesis"
      | _ => throw "unrecognized character after (? or (?-"
    | '*' :: rest =>
      let name := rest.takeWhile fun c => c.isAlphanum || c == '_'
      if name ≠ [] && (rest.drop name.length).head? == some ')' then
        leave (rest.drop (name.length + 1))
        return .empty
      else throw "quantifier does not follow a repeatable item"
    | _ => captured none
termination_by structural fuel

end

/-- The expression that a text spells. -/
def parse (fold : Bool) (text : List Char) : Except String Regex :=
  match alternatives (4 * text.length + 8) 0 ⟨text, 0, [], fold, false⟩ with
  | .error why => .error why
  | .ok (r, p) =>
    if p.groups < highestBack r then .error "reference to non-existent subpattern" else .ok r

end CrossBench.Regex.Backtrack
