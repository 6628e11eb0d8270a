import CrossBench.Shell.Source
import CrossBench.Shell.Unparse
import CrossBench.Text.Letters
import CrossBench.Text.Utf8

/-!
# Reading words

A word ends at an unquoted blank, line break or operator. Single quotes keep everything, double
quotes keep everything but expansions, and a backslash keeps the character behind it. `Lexer.parts`
reads the parts of a word in any of the places where there are some; a `Place` says what ends them
there. The commands whose output is put into a word are read by a parser that is handed in; it is
told whether they end at a parenthesis or with the text.
-/

namespace CrossBench.Shell

/-- Where parts of a word stand. -/
inductive Place where
  | bare
  | quotes
  /-- Behind the name of a parameter in braces. -/
  | braces
  | quotedBraces
  /-- Behind the name of a parameter in braces, up to a slash. -/
  | slashed
  /-- Behind the name of a parameter in braces, up to a colon. -/
  | coloned
  | subscript
  /-- In the parentheses of a group of patterns. -/
  | group
  /-- In the operand of a match with a regular expression. -/
  | expression
  | document
  /-- In an arithmetic expression, up to the parenthesis that closes it. -/
  | sum
  /-- In an arithmetic expression, up to a semicolon. -/
  | clause
  deriving DecidableEq

namespace Place

/-- Whether expansions in a place are quoted. -/
def quoted : Place → Bool
  | .quotes => true
  | .quotedBraces => true
  | .document => true
  | .sum => true
  | .clause => true
  | _ => false

/-- Whether a character ends a word that stands by itself. -/
def endsWord (c : Char) : Bool :=
  c == ' ' || c == '\t' || c == '\n' || c == ';' || c == '&' || c == '|' || c == '<' || c == '>' ||
    c == '(' || c == ')' || c == Parse.aliasEnd || c == Parse.openAliasEnd

/-- Whether parts in a place end at a character that is not quoted. -/
def endsAt : Place → Char → Bool
  | .bare, c => endsWord c
  | .quotes, c => c == '"'
  | .braces, c => c == '\x7d'
  | .quotedBraces, c => c == '\x7d'
  | .slashed, c => c == '\x7d' || c == '/'
  | .coloned, c => c == '\x7d' || c == ':'
  | .subscript, c => c == ']'
  | .group, c => c == ')'
  | .expression, c => c == ' ' || c == '\t' || c == '\n'
  | .document, _ => false
  | .sum, c => c == ')'
  | .clause, c => c == ';' || c == ')'

/-- Whether a place ends only at a character that matches the one that opens it again. -/
def nests : Place → Char → Bool
  | .sum, c => c == '('
  | .clause, c => c == '('
  | .group, c => c == '('
  | .expression, c => c == '('
  | .subscript, c => c == '['
  | _, _ => false

/-- Whether the depth of a place goes down at a character. -/
def unnests : Place → Char → Bool
  | .sum, c => c == ')'
  | .clause, c => c == ')'
  | .group, c => c == ')'
  | .expression, c => c == ')'
  | .subscript, c => c == ']'
  | _, _ => false

/-- Whether a backslash in a place keeps a character. -/
def escapes : Place → Char → Bool
  | .quotes, c => c == '$' || c == '\x60' || c == '"' || c == '\\'
  | .quotedBraces, c => c == '$' || c == '\x60' || c == '"' || c == '\\' || c == '\x7d'
  | .document, c => c == '$' || c == '\x60' || c == '\\'
  | .sum, c => c == '$' || c == '\x60' || c == '\\'
  | .clause, c => c == '$' || c == '\x60' || c == '\\'
  | _, _ => true

/-- Whether single quotes keep what is between them in a place. -/
def hasSingleQuotes : Place → Bool
  | .quotes => false
  | .quotedBraces => false
  | .document => false
  | .sum => false
  | .clause => false
  | _ => true

/-- Whether double quotes mean something in a place. -/
def hasDoubleQuotes : Place → Bool
  | .quotes => false
  | .document => false
  | _ => true

end Place

/-- The parts of a word, the last first, with the letters of a text under way. -/
structure Builder where
  pieces : List Piece
  letters : List Char
  quoted : Bool

namespace Builder

/-- No parts. -/
def empty : Builder := ⟨[], [], false⟩

/-- The builder without a text under way. -/
def flush (b : Builder) : Builder :=
  if b.letters.isEmpty then b
  else ⟨.text (String.ofList b.letters.reverse) b.quoted :: b.pieces, [], b.quoted⟩

/-- The builder with one more part. -/
def add (b : Builder) (p : Piece) : Builder :=
  let b := b.flush
  { b with pieces := p :: b.pieces }

/-- The builder with one more letter. -/
def letter (b : Builder) (c : Char) (quoted : Bool) : Builder :=
  if b.quoted == quoted then { b with letters := c :: b.letters }
  else
    let b := b.flush
    { b with letters := [c], quoted }

/-- The builder with more letters. -/
def text (b : Builder) (cs : List Char) (quoted : Bool) : Builder :=
  cs.foldl (fun b c => b.letter c quoted) b

/-- The word, which is written so. -/
def word (b : Builder) (written : String) : Word := .mk b.flush.pieces.reverse written

/-- The unquoted letters of a builder that holds nothing else. -/
def plain? (b : Builder) : Option (List Char) :=
  if b.pieces.isEmpty && !b.quoted then some b.letters.reverse else none

end Builder

namespace Lexer

open Parse

/-- Whether a text is a name with a sign behind it that assigns. -/
def isAssigning (cs : List Char) : Bool :=
  let name := cs.takeWhile continuesName
  let sign := cs.drop name.length
  isName (String.ofList name) && (sign == ['='] || sign == ['+', '='] || sign.getLast? == some '=')

/-- The text up to a closing backquote, with its own escapes undone; in double quotes a double quote
may be escaped too. -/
def backquoted (quoted : Bool) : Nat → List Char → Parse (Option (List Char))
  | 0, _ => return none
  | n + 1, taken => do
    match (← get).rest with
    | [] => return none
    | '\x60' :: _ =>
      advance
      return some taken.reverse
    | '\\' :: '\n' :: _ =>
      skip 2
      backquoted quoted n taken
    | '\\' :: c :: _ =>
      skip 2
      if c = '\x60' ∨ c = '\\' ∨ c = '$' ∨ (quoted ∧ c = '"') then
        backquoted quoted n (c :: taken)
      else backquoted quoted n (c :: '\\' :: taken)
    | c :: _ =>
      advance
      backquoted quoted n (c :: taken)

/-- The number that digits in a base stand for. -/
def digitsValue (base : Nat) (digits : List Char) : Nat :=
  let value (c : Char) : Nat :=
    if c.isDigit then c.toNat - 48 else if c.isUpper then c.toNat - 55 else c.toNat - 87
  digits.foldl (fun n c => n * base + value c) 0

/-- The byte that digits in a base stand for. -/
def charOf (base : Nat) (digits : List Char) : Char := Char.ofNat (digitsValue base digits % 256)

/-- A character of hexadecimal numbers. -/
def isHexDigit (c : Char) : Bool := c.isDigit || ('a' ≤ c && c ≤ 'f') || ('A' ≤ c && c ≤ 'F')

/-- A character of octal numbers. -/
def isOctalDigit (c : Char) : Bool := '0' ≤ c && c ≤ '7'

/-- The character of a number; if the language has no such character, the number. -/
def numbered (wide : Bool) (code : Nat) : List Char :=
  if code < 0x80 then [Char.ofNat code]
  else if wide then Letters.encoded code
  else
    let digits := (Nat.toDigits 16 code).map Char.toUpper
    let width := if code < 0x10000 then 4 else 8
    '\\' :: (if width = 4 then 'u' else 'U') :: List.replicate (width - digits.length) '0' ++ digits

/-- What an escape in a quoted text with escapes stands for, and how many characters it has behind its
backslash. -/
def ansiEscape (wide : Bool) (rest : List Char) : List Char × Nat :=
  match rest with
  | 'n' :: _ => (['\n'], 1)
  | 't' :: _ => (['\t'], 1)
  | 'r' :: _ => (['\r'], 1)
  | 'a' :: _ => ([Char.ofNat 7], 1)
  | 'b' :: _ => ([Char.ofNat 8], 1)
  | 'e' :: _ => ([Char.ofNat 27], 1)
  | 'E' :: _ => ([Char.ofNat 27], 1)
  | 'f' :: _ => ([Char.ofNat 12], 1)
  | 'v' :: _ => ([Char.ofNat 11], 1)
  | '\\' :: _ => (['\\'], 1)
  | '\'' :: _ => (['\''], 1)
  | '"' :: _ => (['"'], 1)
  | '?' :: _ => (['?'], 1)
  | 'c' :: c :: _ => ([Char.ofNat (c.toUpper.toNat % 32)], 2)
  | 'x' :: '\x7b' :: rest =>
    let digits := rest.takeWhile isHexDigit
    let closing := if (rest.drop digits.length).head? = some '\x7d' then 1 else 0
    ([charOf 16 digits], 2 + digits.length + closing)
  | 'x' :: rest =>
    let digits := (rest.take 2).takeWhile isHexDigit
    if digits.isEmpty then (['\\', 'x'], 1) else ([charOf 16 digits], 1 + digits.length)
  | 'u' :: rest =>
    let digits := (rest.take 4).takeWhile isHexDigit
    if digits.isEmpty then (['\\', 'u'], 1)
    else (numbered wide (digitsValue 16 digits), 1 + digits.length)
  | 'U' :: rest =>
    let digits := (rest.take 8).takeWhile isHexDigit
    if digits.isEmpty then (['\\', 'U'], 1)
    else (numbered wide (digitsValue 16 digits), 1 + digits.length)
  | c :: rest =>
    if isOctalDigit c then
      let digits := ((c :: rest).take 3).takeWhile isOctalDigit
      ([charOf 8 digits], digits.length)
    else (['\\', c], 1)
  | [] => (['\\'], 0)

/-- The letters of a quoted text with escapes, up to the closing quote. -/
def ansiText : Nat → List Char → Parse (Option (List Char))
  | 0, _ => return none
  | n + 1, taken => do
    match (← get).rest with
    | [] => return none
    | '\'' :: _ =>
      advance
      return some taken.reverse
    | '\\' :: rest =>
      let (letters, length) := ansiEscape true rest
      skip (length + 1)
      ansiText n (letters.reverse ++ taken)
    | c :: _ =>
      advance
      ansiText n (c :: taken)

/-- A substitution as it is shown. -/
def shownSubstitution (body : Statement) : String :=
  let text := body.written
  "$(" ++ (if text.startsWith "(" then " " else "") ++ text ++ ")"

/-- The complaint about a text that ends in quotes. -/
def unterminated {α : Type} (closing : String) (line : Nat) : Parse α :=
  refuse "Unterminated quoted string" closing line

/-- The parameters with a name of one character that is no letter. -/
def isSpecial (c : Char) : Bool :=
  c.isDigit || c == '@' || c == '*' || c == '#' || c == '?' || c == '$' || c == '!' || c == '-'

/-- The sign behind the name of a parameter in braces that asks for another text. -/
def otherwiseSign? (empty : Bool) : Char → Option Treatment
  | '-' => some (.otherwise empty)
  | '=' => some (.assign empty)
  | '?' => some (.require empty)
  | '+' => some (.instead empty)
  | _ => none

/-- Takes the sign behind the name of a parameter in braces, if there is one in every dialect. -/
def sign : Parse (Option Treatment) := do
  match ← peek? with
  | none => return none
  | some ':' =>
    let s ← get
    advance
    match (← peek?).bind (otherwiseSign? true) with
    | some t =>
      advance
      return some t
    | none =>
      set s
      return none
  | some '#' =>
    advance
    return some (.trimFront (← accept '#'))
  | some '%' =>
    advance
    return some (.trimBack (← accept '%'))
  | some c =>
    match otherwiseSign? false c with
    | some t =>
      advance
      return some t
    | none => return none

/-- Takes the sign behind the name of a parameter in braces that only the extended dialect has. -/
def extendedSign : Parse (Option Treatment) := do
  match ← peek? with
  | some ':' =>
    advance
    return some .slice
  | some '/' =>
    advance
    match ← peek? with
    | some '/' =>
      advance
      return some (.replace .every)
    | some '#' =>
      advance
      return some (.replace .front)
    | some '%' =>
      advance
      return some (.replace .back)
    | _ => return some (.replace .first)
  | some '^' =>
    advance
    return some (.recase true (← accept '^'))
  | some ',' =>
    advance
    return some (.recase false (← accept ','))
  | some '@' =>
    advance
    match ← peek? with
    | some c =>
      if c.isAlpha then
        advance
        return some (.transform c)
      else return none
    | none => return none
  | _ => return none

/-- Takes the name of a parameter in braces. -/
def bracedName : Parse String := do
  match ← peek? with
  | none => return ""
  | some c =>
    if startsName c then name
    else if c.isDigit then
      return String.ofList (← takeJoined Char.isDigit (← get).rest.length [])
    else if isSpecial c then
      advance
      return String.singleton c
    else return ""

/-- What comes first in the braces of a parameter: whether its length is asked for, and its name. -/
def lengthAndName : Parse (Bool × String) := do
  if (← peek?) = some '#' then
    let s ← get
    advance
    match ← peek? with
    | none => return (false, "#")
    | some c =>
      if continuesName c then return (true, ← bracedName)
      else
        advance
        if isSpecial c && (← peek?) = some '\x7d' then return (true, String.singleton c)
        else
          set s
          advance
          return (false, "#")
  else return (false, ← bracedName)

/-- Whether the name of a parameter comes next. -/
def atName : Parse Bool := do
  match ← peek? with
  | some c => return continuesName c || c == '@' || c == '*' || c == '#' || c == '?' || c == '$'
  | none => return false

mutual

/-- Parts of a word up to the end of the place where they stand. The end is not taken. -/
def parts (commands : Bool → Parse Statement) (fuel : Nat) (place : Place) (depth : Nat) (b : Builder) :
    Parse Builder :=
  match fuel with
  | 0 => return b
  | fuel + 1 => do
    match ← peek? with
    | none => return b
    | some c =>
      if place.nests c then
        advance
        parts commands fuel place (depth + 1) (b.letter c place.quoted)
      else if place.unnests c && 0 < depth then
        advance
        parts commands fuel place (depth - 1) (b.letter c place.quoted)
      else if place = .bare && (← isExtended) && (c == '<' || c == '>') then
        match (← get).rest with
        | _ :: '(' :: _ =>
          let opening ← get
          skip 2
          let body ← commands true
          showAs opening (String.ofList [c, '('] ++ body.written ++ ")")
          parts commands fuel place depth (b.add (.channel (c == '>') body))
        | _ => return b
      else if place = .bare && c == '(' then
        if (← isExtended) && (← get).assignable && b.plain?.any isAssigning then
          let opening ← get
          advance
          let elements ← elements commands opening.line fuel []
          showAs opening ("(" ++ " ".intercalate (elements.map fun | .mk _ _ _ written => written) ++ ")")
          parts commands fuel place depth (b.add (.array elements))
        else return b
      else if place.endsAt c && depth = 0 then return b
      else if place = .expression && depth = 0 && Place.endsWord c && c != '(' && c != ')' && c != '|'
          && c != '<' && c != '>' then return b
      else
        let b ← part commands fuel place c b
        parts commands fuel place depth b
termination_by structural fuel

/-- One part of a word, whose first character is `c`. -/
def part (commands : Bool → Parse Statement) (fuel : Nat) (place : Place) (c : Char) (b : Builder) :
    Parse Builder :=
  match fuel with
  | 0 => return b
  | fuel + 1 => do
    let before ← get
    let line := before.line
    advance
    if c = '\\' then
      match ← raw? with
      | none => return b.letter '\\' true
      | some d =>
        if place.escapes d then
          advance
          return b.letter d true
        else return b.letter '\\' true
    else if c = '\'' ∧ place.hasSingleQuotes then
      let inside ← takeWhile (· != '\'')
      if (← raw?).isNone then unterminated "'" line
      advance
      return (b.add (.text "" true)).text inside true
    else if c = '"' ∧ place.hasDoubleQuotes then
      let b ← parts commands fuel .quotes 0 (b.add (.text "" true))
      if (← raw?).isNone then unterminated "\"" line
      advance
      return b
    else if c = '\x60' then
      let count := (← get).rest.length
      match ← backquoted (place = .quotes) (count + 1) [] with
      | none => refuse "EOF in backquote substitution" "\x60" line
      | some text =>
        let body := within line text (commands false)
        let body ←
          if ← isExtended then orElse body (pure (.unreadable line (String.ofList text))) else body
        return b.add (.command body place.quoted)
    else if c = '$' then dollar commands fuel place before b
    else if place = .bare ∧ c = '[' ∧ (← isExtended) ∧ (← get).assignable
        ∧ b.plain?.any (fun cs => isName (String.ofList cs)) then
      let b ← parts commands fuel .subscript 0 (b.letter c false)
      if (← raw?) = some ']' then
        advance
        return b.letter ']' false
      else return b
    else if (place = .bare ∨ place = .group) ∧ (← get).groups ∧ (← raw?) = some '('
        ∧ (c = '?' ∨ c = '*' ∨ c = '+' ∨ c = '@' ∨ c = '!') then
      advance
      let b ← parts commands fuel .group 0 ((b.letter c false).letter '(' false)
      if (← raw?) = some ')' then
        advance
        return b.letter ')' false
      else return b
    else return b.letter c place.quoted
termination_by structural fuel

/-- An expansion, behind its dollar sign. -/
def dollar (commands : Bool → Parse Statement) (fuel : Nat) (place : Place) (before : Source)
    (b : Builder) : Parse Builder :=
  match fuel with
  | 0 => return b
  | fuel + 1 => do
    let line := before.line
    let quoted := place.quoted
    let extended ← isExtended
    match ← peek? with
    | none => return b.letter '$' quoted
    | some '(' =>
      advance
      if (← peek?) = some '(' then
        let sum : Parse Builder := do
          advance
          let inside ← get
          let w ← parts commands fuel .sum 0 .empty
          let written ← writtenSince inside
          if (← raw?).isNone then refuse "Missing '))'" ")" line
          advance
          if ← accept ')' then return b.add (.arithmetic (w.word written) quoted)
          else refuse "Missing '))'" ")" line
        if extended then
          let s ← get
          match sum s with
          | .ok (b, s) =>
            set s
            return b
          | .error e =>
            if e.cause matches .unmatched _ then
              match commands true s with
              | .ok (body, s) =>
                set s
                showAs before (shownSubstitution body)
                return b.add (.command body quoted)
              | .error _ => throw e
            else throw e
        else sum
      else
        let body ← commands true
        showAs before (shownSubstitution body)
        return b.add (.command body quoted)
    | some '\x7b' =>
      advance
      braced commands fuel place line b
    | some '\'' =>
      if extended && place.hasSingleQuotes then
        advance
        let count := (← get).rest.length
        match ← ansiText (count + 1) [] with
        | none => unterminated "'" line
        | some letters => return (b.add (.text "" true)).text letters true
      else return b.letter '$' quoted
    | some '"' =>
      if extended && place.hasDoubleQuotes && !quoted then return b
      else return b.letter '$' quoted
    | some c =>
      if startsName c then return b.add (.parameter (← name) none false .plain [] quoted)
      else if isSpecial c then
        advance
        return b.add (.parameter (String.singleton c) none false .plain [] quoted)
      else return b.letter '$' quoted
termination_by structural fuel

/-- A parameter in braces, behind the opening brace. -/
def braced (commands : Bool → Parse Statement) (fuel : Nat) (place : Place) (line : Nat) (b : Builder) :
    Parse Builder :=
  match fuel with
  | 0 => return b
  | fuel + 1 => do
    let quoted := place.quoted
    let extended ← isExtended
    let opening ← get
    let close : Parse Unit := do
      if (← raw?) = some '\x7d' then advance else refuse "Missing '\x7d'" "\x7d" line
    let argument (p : Place) : Parse Word := do
      let before ← get
      let b ← parts commands fuel p 0 .empty
      return b.word (← writtenSince before)
    let inner : Place := if quoted then .quotedBraces else .braces
    let bad : Parse Builder := do
      let _ ← argument inner
      let s ← get
      close
      let written := opening.rest.take (s.count - opening.count)
      return b.add (.parameter "" none false
        (.bad ("$\x7b" ++ String.ofList written ++ "\x7d")) [] quoted)
    let indirect ←
      if extended && (← peek?) = some '!' then
        advance
        if ← atName then pure true
        else
          set opening
          pure false
      else pure false
    let (length, n) ← lengthAndName
    if n = "" then bad
    else
      let subscript ←
        if extended && (← peek?) = some '[' && isName n then
          advance
          let w ← argument .subscript
          if (← raw?) = some ']' then
            advance
            pure (some w)
          else pure none
        else pure none
      let done (t : Treatment) (arguments : List Word) : Parse Builder := do
        close
        return b.add (.parameter n subscript indirect t arguments quoted)
      if length then
        if (← peek?) = some '\x7d' then done .length [] else bad
      else if (← peek?) = some '\x7d' then done .plain []
      else if indirect && (← (do
          let s ← get
          match s.rest with
          | '*' :: '\x7d' :: _ => return true
          | '@' :: '\x7d' :: _ => return true
          | _ => return false)) then
        let each := (← peek?) = some '@'
        advance
        close
        return b.add (.parameter n (some (.ofText (if each then "@" else "*"))) false .names [] quoted)
      else
        match ← sign with
        | some t =>
          let p : Place := if t.takesPattern then .braces else inner
          done t [← argument p]
        | none =>
          match ← (if extended then extendedSign else pure none) with
          | none => bad
          | some .slice =>
            let offset ← argument .coloned
            if ← accept ':' then done .slice [offset, ← argument .braces]
            else done .slice [offset]
          | some (.replace scope) =>
            let pattern ← argument .slashed
            if ← accept '/' then done (.replace scope) [pattern, ← argument .braces]
            else done (.replace scope) [pattern]
          | some (.transform c) => if (← peek?) = some '\x7d' then done (.transform c) [] else bad
          | some t => done t [← argument .braces]
termination_by structural fuel

/-- The elements of an array that begins in a line, up to the closing parenthesis, which is taken. -/
def elements (commands : Bool → Parse Statement) (start : Nat) (fuel : Nat) (taken : List Element) :
    Parse (List Element) :=
  match fuel with
  | 0 => return taken.reverse
  | fuel + 1 => do
    match ← peek? with
    | none => throw ⟨start, start, .openArray⟩
    | some ')' =>
      advance
      return taken.reverse
    | some c =>
      if c == ' ' || c == '\t' || c == '\n' then
        advance
        elements commands start fuel taken
      else if c == '#' then
        let _ ← takeWhile (· != '\n')
        elements commands start fuel taken
      else if c == '[' then
        let s ← get
        advance
        let subscript ← parts commands fuel .subscript 0 .empty
        let inside ← writtenSince { s with rest := s.rest.drop 1, count := s.count + 1 }
        let valued (append : Bool) (n : Nat) : Parse (List Element) := do
          skip n
          let before ← get
          let value ← parts commands fuel .bare 0 .empty
          let value := value.word (← writtenSince before)
          elements commands start fuel
            (.mk (some (subscript.word inside)) append value (← writtenSince s) :: taken)
        match (← get).rest with
        | ']' :: '=' :: _ => valued false 2
        | ']' :: '+' :: '=' :: _ => valued true 3
        | _ =>
          set s
          let value ← parts commands fuel .bare 0 .empty
          let written ← writtenSince s
          elements commands start fuel (.mk none false (value.word written) written :: taken)
      else
        let before ← get
        let value ← parts commands fuel .bare 0 .empty
        if (← get).count = before.count then
          fail (.unexpected (.operator (String.singleton c)) none)
        else
          let written ← writtenSince before
          elements commands start fuel (.mk none false (value.word written) written :: taken)
termination_by structural fuel

end

end Lexer

end CrossBench.Shell
