import CrossBench.Text.Regex

/-!
# Regular expressions of record programs

Extended expressions without counts in braces. A backslash makes a sign stand for itself, or begins
what a string may have behind one. The marks of the ends are those of the whole text.
-/

namespace CrossBench.Tool.Records

/-- The character that a letter behind a backslash stands for. -/
def escapeLetter? : Char → Option Char
  | 'a' => some (Char.ofNat 7)
  | 'b' => some (Char.ofNat 8)
  | 'f' => some (Char.ofNat 12)
  | 'n' => some '\n'
  | 'r' => some '\r'
  | 't' => some '\t'
  | 'v' => some (Char.ofNat 11)
  | _ => none

/-- Whether a character is a digit of an octal number. -/
def isOctal (c : Char) : Bool := '0' ≤ c && c ≤ '7'

/-- The character of up to three octal digits in front, and what follows. -/
def octal (cs : List Char) : Char × List Char :=
  let ds := (cs.take 3).takeWhile isOctal
  (Char.ofNat (ds.foldl (fun n c => n * 8 + (c.toNat - 48)) 0 % 256), cs.drop ds.length)

/-- A string with its escapes undone. A backslash in front of anything else stays. -/
def unescaped : Nat → List Char → List Char
  | 0, cs => cs
  | _, [] => []
  | n + 1, '\\' :: c :: rest =>
    match escapeLetter? c with
    | some d => d :: unescaped n rest
    | none =>
      if c = '"' || c = '\\' then c :: unescaped n rest
      else if isOctal c then
        let (d, after) := octal (c :: rest)
        d :: unescaped n after
      else '\\' :: c :: unescaped n rest
  | n + 1, c :: rest => c :: unescaped n rest

/-- A text with its escapes undone. -/
def unescape (s : String) : String :=
  if s.toList.contains '\\' then String.ofList (unescaped (s.length + 1) s.toList) else s

namespace Pattern

/-- The character that what stands behind a backslash means in an expression, and what follows. -/
def escaped (cs : List Char) : Char × List Char :=
  match cs with
  | [] => ('\\', [])
  | c :: rest =>
    match escapeLetter? c with
    | some d => (d, rest)
    | none => if isOctal c then octal cs else (c, rest)

/-- The complaint about a list in brackets. -/
def badList : String := "bad class -- [], [^] or ["

/-- The complaint about something that is not closed. -/
def unclosed : String := "missing ')'"

/-- The complaint about something that is not there. -/
def noOperand : String := "missing operand"

/-- The kind with a name in front of `:]`, and what follows. -/
def kind? (cs : List Char) : Option (Option String × List Char) :=
  let name := cs.takeWhile Char.isAlpha
  match cs.drop name.length with
  | ':' :: ']' :: rest =>
    let name := String.ofList name
    some (if kindNames.contains name then some name else none, rest)
  | _ => none

/-- The ranges of a list in brackets up to the closing one, and what follows; `before` is the
character with which a range may begin. -/
def ranges : Nat → Bool → Option Char → List Char → List Range → Except String (List Range × List Char)
  | 0, _, _, _, _ => .error badList
  | _, _, _, [], _ => .error badList
  | n + 1, first, before, c :: rest, taken =>
    let single (c : Char) (rest : List Char) := ranges n false (some c) rest (.between c c :: taken)
    match c, rest with
    | ']', rest => if first then single ']' rest else .ok (taken.reverse, rest)
    | '\\', rest =>
      let (d, rest) := escaped rest
      single d rest
    | '[', ':' :: more =>
      match kind? more with
      | some (some name, after) => ranges n false none after (.named name :: taken)
      | some (none, _) => .error badList
      | none => single '[' rest
    | '-', d :: more =>
      match before with
      | none => single '-' rest
      | some low =>
        if d = ']' then single '-' rest
        else
          let (high, after) := if d = '\\' then escaped more else (d, more)
          if high < low then
            ranges n false none after (.between high high :: .between '-' '-' :: taken)
          else ranges n false none after (.between low high :: taken)
    | c, rest => single c rest

/-- The list in brackets behind the opening one, and what follows. -/
def list (cs : List Char) : Except String (Regex × List Char) :=
  let negated := cs.head? == some '^'
  let inside := if negated then cs.drop 1 else cs
  (ranges (inside.length + 1) true none inside []).map fun (taken, rest) => (.oneOf negated taken, rest)

/-- The signs of repetition in front applied to an expression, and what follows. -/
def repetitions (r : Regex) : List Char → Regex × List Char
  | '*' :: rest => repetitions (.repeated r 0 none false) rest
  | '+' :: rest => repetitions (.repeated r 1 none false) rest
  | '?' :: rest => repetitions (.repeated r 0 (some 1) false) rest
  | cs => (r, cs)

/-- Two expressions one behind the other, the first of which may be missing. -/
def joined (first : Option Regex) (second : Regex) : Regex :=
  match first with
  | some r => .both r second
  | none => second

mutual

/-- The alternatives in front of a closing parenthesis or the end. -/
def alternatives : Nat → Bool → List Char → Except String (Regex × List Char)
  | 0, _, _ => .error noOperand
  | n + 1, inside, cs => do
    let (r, rest) ← row n inside none cs
    match rest with
    | '|' :: rest =>
      let (others, rest) ← alternatives n inside rest
      return (.either r others, rest)
    | rest => return (r, rest)

/-- The pieces of an alternative behind those that have been read. -/
def row : Nat → Bool → Option Regex → List Char → Except String (Regex × List Char)
  | 0, _, _, _ => .error noOperand
  | n + 1, inside, before, cs =>
    let more (r : Regex) (rest : List Char) : Except String (Regex × List Char) :=
      let (r, rest) := repetitions r rest
      row n inside (some (joined before r)) rest
    let ending : Except String (Regex × List Char) :=
      match before with
      | some r => .ok (r, cs)
      | none => .error (if inside && cs.isEmpty then unclosed else noOperand)
    match cs with
    | [] => ending
    | c :: rest =>
      match c with
      | '|' => ending
      | ')' => if inside then ending else more (.char ')') rest
      | '(' =>
        match alternatives n true rest with
        | .error e => .error e
        | .ok (r, ')' :: rest) => more r rest
        | .ok _ => .error unclosed
      | '[' =>
        match list rest with
        | .error e => .error e
        | .ok (r, rest) => more r rest
      | '.' => more .any rest
      | '*' => .error noOperand
      | '+' => .error noOperand
      | '?' => .error noOperand
      | '^' =>
        if rest.head? == some '*' || rest.head? == some '+' then .error "syntax error ^* or ^+"
        else more .textStart rest
      | '$' => more .textEnd rest
      | '\\' =>
        let (d, rest) := escaped rest
        more (.char d) rest
      | c => more (.char c) rest

end

/-- The expression that a text spells. -/
def parse (source : String) : Except String Regex :=
  let cs := source.toList
  if cs.isEmpty then .ok .empty
  else
    (alternatives (2 * cs.length + 4) false cs).map (·.1)

end Pattern

end CrossBench.Tool.Records
