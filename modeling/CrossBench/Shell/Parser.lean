import CrossBench.Shell.Word

/-!
# Reading statements

The grammar of scripts. A script is read line by line, and a line goes on over several lines of text
where a statement is not complete; `nextLine` takes one such line off a source.

The text of a here-document stands behind the line in which it is asked for. A line that asks for one
is therefore read twice: the first reading finds the documents, and the second puts them where they
are asked for.
-/

namespace CrossBench.Shell

/-- What a reader of tokens looks for. -/
structure Look where
  /-- Whether line breaks are passed over. -/
  newlines : Bool
  keywords : Bool
  aliases : Bool
  /-- Whether a word may assign an array. -/
  arrays : Bool

namespace Look

/-- Any token that is no keyword. -/
def plain : Look := ⟨false, false, false, false⟩

/-- The first token of a command. -/
def command : Look := ⟨false, true, true, true⟩

/-- The first token of a command on this line or a later one. -/
def anyLine : Look := ⟨true, true, true, true⟩

/-- A keyword on this line or a later one. -/
def laterKeyword : Look := ⟨true, true, false, false⟩

end Look

namespace Grammar

open Parse

/-- The words that only some places can hold. -/
def keywords (d : Dialect) : List String :=
  ["!", "case", "do", "done", "elif", "else", "esac", "fi", "for", "if", "in", "then", "until",
    "while", "\x7b", "\x7d"] ++
    match d with
    | .plain => []
    | .extended => ["function", "select", "time", "coproc", "[["]

/-- Whether a list of statements ends at a token. -/
def endsList : Token → Bool
  | .ending => true
  | .operator s => s == ")" || s == ";;" || s == ";&" || s == ";;&"
  | .keyword s => ["do", "done", "elif", "else", "esac", "fi", "then", "\x7d"].contains s
  | _ => false

/-- The commands whose arguments may assign like what stands in front of a command. -/
def declares (s : String) : Bool :=
  ["declare", "typeset", "local", "export", "readonly", "alias", "eval", "let"].contains s

/-- The part that a text is, unless it is empty. -/
def unquotedText (cs : List Char) : List Piece := if cs = [] then [] else [.text (String.ofList cs) false]

/-- What a text holds of the end of a subscript. -/
inductive Bracket where
  /-- The end, with a sign that assigns: the text in front of it, whether it adds, and the text
  behind. -/
  | signed (before : List Char) (adds : Bool) (behind : List Char)
  /-- The end, without a sign. -/
  | unsigned
  /-- No end, but brackets that are still open. -/
  | within (depth : Nat)

/-- Looks for the end of a subscript in a text. -/
def findBracket (depth : Nat) (before : List Char) : List Char → Bracket
  | [] => .within depth
  | c :: rest =>
    if c = '[' then findBracket (depth + 1) (c :: before) rest
    else if c = ']' then
      match depth, rest with
      | 0, '=' :: behind => .signed before.reverse false behind
      | 0, '+' :: '=' :: behind => .signed before.reverse true behind
      | 0, _ => .unsigned
      | depth + 1, _ => findBracket depth (c :: before) rest
    else findBracket depth (c :: before) rest

/-- The parts of a word divided at the end of a subscript: the subscript, whether the sign behind it
adds, and the value. -/
def subscripted? (depth : Nat) (taken : List Piece) :
    List Piece → Option (List Piece × Bool × List Piece)
  | [] => none
  | .text s false :: rest =>
    match findBracket depth [] s.toList with
    | .signed before adds behind =>
      some (taken.reverse ++ unquotedText before, adds, unquotedText behind ++ rest)
    | .unsigned => none
    | .within depth => subscripted? depth (.text s false :: taken) rest
  | p :: rest => subscripted? depth (p :: taken) rest

/-- A word as a value that is set, if it has that form. -/
def assignment? (d : Dialect) (w : Word) : Option Assignment :=
  match w.parts with
  | .text s false :: rest =>
    let name := s.toList.takeWhile continuesName
    let n := String.ofList name
    let written := w.written.toList.drop name.length
    let value (sign : Nat) (front : List Char) : Word :=
      .mk (unquotedText front ++ rest) (String.ofList (written.drop sign))
    if !isName n then none
    else
      match s.toList.drop name.length, d with
      | '=' :: front, _ => some (.mk n none false (value 1 front) w.written)
      | '+' :: '=' :: front, .extended => some (.mk n none true (value 2 front) w.written)
      | '[' :: inside, .extended =>
        (subscripted? 0 [] (unquotedText inside ++ rest)).map fun (subscript, adds, parts) =>
          let (before, behind) :=
            match findBracket 0 [] (written.drop 1) with
            | .signed before _ behind => (before, behind)
            | _ => ([], [])
          .mk n (some (.mk subscript (String.ofList before))) adds
            (.mk parts (String.ofList behind)) w.written
      | _, _ => none
  | _ => none

/-- The lines of a document, and the text behind it; whether its end has been found. Behind a line
that ends in a backslash the next line is not looked at as an end. -/
def documentLines (w : Waiting) (joined : Bool) : Nat → List Char → List Char →
    List Char × List Char × Bool
  | 0, taken, s => (taken.reverse, s, false)
  | fuel + 1, taken, s =>
    if s = [] then (taken.reverse, [], false)
    else
      let written := s.takeWhile (· != '\n')
      let line := if w.strip then written.dropWhile (· == '\t') else written
      let after := (s.drop written.length).drop 1
      if line = w.delimiter ∧ !joined then (taken.reverse, after, true)
      else
        let ends : List Char := if written.length < s.length then ['\n'] else []
        let joined := !w.quoted && (line.reverse.takeWhile (· == '\\')).length % 2 = 1
        documentLines w joined fuel (ends ++ line.reverse ++ taken) after

/-- Reads a document off the source. -/
def document (commands : Bool → Parse Statement) (fuel : Nat) (w : Waiting) : Parse Unit := do
  let s ← get
  let line := s.line
  let (body, after, closed) := documentLines w false (s.rest.length + 1) [] s.rest
  let lines := (s.rest.take (s.rest.length - after.length)).count '\n'
  set { s with
    rest := after, line := line + lines, count := s.count + (s.rest.length - after.length) }
  let s ← get
  if !closed && s.dialect = .extended then
    let last := if s.count = 0 || lines = 0 then s.line else s.line - 1
    modify fun s =>
      { s with
        warnings := s.warnings ++
          ["line " ++ toString last ++ ": warning: here-document at line " ++ toString w.line ++
            " delimited by end-of-file (wanted \x60" ++ String.ofList w.delimiter ++ "')"] }
  let text ←
    if w.quoted then pure (.mk [.text (String.ofList body) true] (String.ofList body))
    else
      within line body do
        return (← Lexer.parts commands fuel .document 0 .empty).word (String.ofList body)
  modify fun s => { s with found := (w.number, text) :: s.found }

/-- Reads the documents that have been asked for. -/
def documents (commands : Bool → Parse Statement) (fuel : Nat) : Parse Unit := do
  let s ← get
  unless s.waiting.isEmpty do
    set { s with waiting := [] }
    s.waiting.reverse.forM (document commands fuel)

/-- The word behind the sign of a document, with its quotes removed, and whether it has any. -/
def delimiter : Nat → List Char → Bool → Parse (List Char × Bool)
  | 0, taken, quoted => return (taken.reverse, quoted)
  | fuel + 1, taken, quoted => do
    match ← peek? with
    | none => return (taken.reverse, quoted)
    | some c =>
      if Place.endsWord c then return (taken.reverse, quoted)
      else if c = '\\' then
        advance
        match ← raw? with
        | some d =>
          advance
          delimiter fuel (d :: taken) true
        | none => return (taken.reverse, true)
      else if c = '\'' ∨ c = '"' then
        advance
        let inside ← takeWhile (· != c)
        advance
        delimiter fuel (inside.reverse ++ taken) true
      else
        advance
        delimiter fuel (c :: taken) quoted

/-- Takes blanks and a comment. -/
def blanks : Nat → Parse Unit
  | 0 => pure ()
  | fuel + 1 => do
    match ← peek? with
    | some ' ' =>
      advance
      blanks fuel
    | some '\t' =>
      advance
      blanks fuel
    | some '#' =>
      let _ ← takeWhile fun c => c != '\n' && c != aliasEnd && c != openAliasEnd
      blanks fuel
    | some c =>
      if c = aliasEnd ∨ c = openAliasEnd then
        advance
        modify fun s =>
          { s with active := s.active.drop 1, aliasNext := s.aliasNext || c = openAliasEnd }
        blanks fuel
      else pure ()
    | none => pure ()

/-- The longest of some signs that comes next. -/
def signAhead (signs : List String) : Parse (Option String) := do
  let s ← get
  return signs.find? fun sign => sign.toList.isPrefixOf s.rest

/-- The signs of redirections, longer ones first. -/
def redirectionSigns (d : Dialect) : List String :=
  match d with
  | .plain => ["<<-", "<<", "<&", "<>", "<", ">>", ">&", ">|", ">"]
  | .extended => ["<<<", "<<-", "<<", "<&", "<>", "<", "&>>", "&>", ">>", ">&", ">|", ">"]

/-- The other signs, longer ones first. -/
def operatorSigns (d : Dialect) : List String :=
  match d with
  | .plain => ["&&", "&", "||", "|", ";;", ";", "(", ")"]
  | .extended => ["&&", "&", "||", "|&", "|", ";;&", ";;", ";&", ";", "(", ")"]

/-- Whether a word is a number for the descriptor in front of a redirection. -/
def descriptor? (d : Dialect) (s : String) : Option Nat :=
  if s ≠ "" && s.all Char.isDigit && (d = .extended || s.length = 1) then s.toNat? else none

/-- Whether a text is the name of an array with a subscript. -/
def isElement (s : String) : Bool :=
  let name := s.toList.takeWhile (· != '[')
  isName (String.ofList name) && name.length + 2 < s.length && s.toList.getLast? == some ']'

/-- The name in braces in front of a redirection. -/
def holder? (d : Dialect) (s : String) : Option String :=
  let inside := String.ofList ((s.toList.drop 1).dropLast)
  if d = .extended && s.toList.head? == some '\x7b' && s.toList.getLast? == some '\x7d'
      && (isName inside || isElement inside) then some inside
  else none

/-- Reads a token off the source. -/
def scan (commands : Bool → Parse Statement) (fuel : Nat) : Parse Token := do
  blanks (← get).rest.length
  modify fun s => { s with tokenLine := s.line }
  let s ← get
  match s.rest with
  | [] => return .ending
  | '\n' :: _ =>
    advance
    return .newline
  | c :: next =>
    let isChannel := s.dialect = .extended && (c == '<' || c == '>') && next.head? == some '('
    match ← (if isChannel then pure none else signAhead (redirectionSigns s.dialect)) with
    | some sign =>
      skip sign.length
      return .redirection none none sign
    | none =>
      match ← signAhead (operatorSigns s.dialect) with
      | some sign =>
        skip 1
        (sign.length - 1).forM fun _ _ => do
          let _ ← peek?
          advance
        return .operator sign
      | none =>
        let b ← Lexer.parts commands fuel .bare 0 .empty
        let w := b.word (← writtenSince s)
        forgetSince s
        let after ← get
        let token : Token := .word w s.rest (after.count - s.count)
        match after.rest with
        | c :: next =>
          if (c == '<' || c == '>')
              && !(s.dialect = .extended && next.head? == some '(') then
            match w.plainText? with
            | none => return token
            | some text =>
              let descriptor := descriptor? s.dialect text
              let holder := holder? s.dialect text
              if descriptor.isSome || holder.isSome then
                match ← signAhead (redirectionSigns s.dialect) with
                | some sign =>
                  skip sign.length
                  return .redirection descriptor holder sign
                | none => return token
              else return token
          else return token
        | [] => return token

/-- Takes the next token. -/
def next (commands : Bool → Parse Statement) (look : Look) : Nat → Parse Token
  | 0 => return .ending
  | fuel + 1 => do
    let s ← get
    let token ←
      match s.pushed with
      | some t =>
        set { s with pushed := none }
        pure t
      | none =>
        set { s with assignable := look.arrays, aliasNext := false }
        scan commands fuel
    match token with
    | .newline =>
      if look.newlines then
        documents commands fuel
        next commands look fuel
      else return token
    | .word w _ _ =>
      match w.plainText? with
      | none => return token
      | some text =>
        if look.keywords && (keywords s.dialect).contains text then return .keyword text
        else
          let s ← get
          let meant := if look.aliases || s.aliasNext then s.aliases.find? fun a => a.1 = text else none
          match meant with
          | none => return token
          | some (_, value) =>
            if s.active.contains text then return token
            else
              let last := value.toList.getLast?
              let mark :=
                if last == some ' ' || last == some '\t' then openAliasEnd else aliasEnd
              set { s with
                rest := value.toList ++ mark :: s.rest
                active := text :: s.active }
              next commands look fuel
    | _ => return token

/-- Puts a token back. -/
def unread (t : Token) : Parse Unit := modify fun s => { s with pushed := some t }

/-- Gives up at a token. -/
def unexpected {α : Type} (t : Token) (expected : Option String) : Parse α :=
  fail (.unexpected t expected)

/-- Where a redirection with a sign leads, and the descriptor that it is for by itself. -/
def direction (sign : String) : Direction × Nat :=
  match sign with
  | "<" => (.read, 0)
  | "<&" => (.duplicate true, 0)
  | "<>" => (.update, 0)
  | "<<<" => (.wordText, 0)
  | ">>" => (.append, 1)
  | ">&" => (.duplicate false, 1)
  | ">|" => (.overwrite, 1)
  | "&>" => (.writeBoth, 1)
  | "&>>" => (.appendBoth, 1)
  | _ => (.write, 1)

/-- A redirection, behind its sign. -/
def redirection (commands : Bool → Parse Statement) (fuel : Nat) (descriptor : Option Nat)
    (holder : Option String) (sign : String) : Parse Redirection := do
  let (to_, usual) := direction sign
  let d := descriptor.getD usual
  if sign = "<<" ∨ sign = "<<-" then
    let strip : Bool := sign = "<<-"
    blanks (← get).rest.length
    let s ← get
    match s.rest with
    | [] =>
      modify fun s => { s with tokenLine := s.line }
      unexpected .ending none
    | c :: _ =>
      if Place.endsWord c then
        let t ← next commands .plain fuel
        unexpected t none
      else
        let line := s.line
        let (text, quoted) ← delimiter s.rest.length [] false
        modify fun s =>
          { s with
            asked := s.asked + 1
            waiting := ⟨s.asked, text, strip, quoted, line⟩ :: s.waiting }
        let body := ((s.known.find? fun k => k.1 = s.asked).map (·.2)).getD default
        return .mk (descriptor.getD 0) holder (.document (String.ofList text) strip quoted) body
  else
    match ← next commands .plain fuel with
    | .word w _ _ =>
      match to_, (← get).dialect, w.plainText? with
      | .duplicate _, .plain, some text =>
        if text = "-" ∨ (text.length = 1 ∧ text.all Char.isDigit) then return .mk d holder to_ w
        else fail (.refused "Bad fd number")
      | .duplicate false, .extended, some text =>
        if descriptor.isNone && text ≠ "-" && !(text.all Char.isDigit) then
          return .mk d holder .writeBoth w
        else return .mk d holder to_ w
      | _, _, _ => return .mk d holder to_ w
    | t => unexpected t none

/-- The operators of conditions that stand between two operands. -/
def conditionOperators : List String :=
  ["=", "==", "!=", "=~", "<", ">", "-eq", "-ne", "-lt", "-le", "-gt", "-ge", "-nt", "-ot", "-ef"]

/-- The operators of conditions that stand in front of an operand. -/
def conditionTests : List String :=
  (List.map (fun c => String.ofList ['-', c]) "abcdefghknoprstuvwxzGLNORS".toList)

/-- The commands of the shell that no function can be named for in the plain dialect. -/
def reservedFunctions : List String :=
  [".", ":", "break", "continue", "eval", "exec", "exit", "export", "local", "readonly", "return",
    "set", "shift", "times", "trap", "unset"]

/-- What a list of statements is a part of. -/
inductive Listing where
  /-- A statement around it; it holds a statement at least. -/
  | inner
  /-- Nothing; it ends with its line. -/
  | line
  /-- Something that may also be empty. -/
  | open_
  deriving DecidableEq

/-- Statements one after the other. -/
def inSequence : List Statement → Statement
  | [s] => s
  | statements => .sequence statements

/-- The redirection by which the standard error goes where the standard output goes. -/
def errorsToo : Redirection := .mk 2 none (.duplicate false) (.ofText "1")

/-- A stage of a pipeline in front of the others. An empty sequence in front of those marks that the
standard error of the stage goes the same way. -/
def joined (stage : Statement) : List Statement → List Statement
  | .sequence [] :: rest =>
    match stage with
    | .simple line assignments words redirections =>
      .simple line assignments words (redirections ++ [errorsToo]) :: rest
    | .redirected line body redirections =>
      .redirected line body (redirections ++ [errorsToo]) :: rest
    | stage => .redirected 0 stage [errorsToo] :: rest
  | rest => stage :: rest

/-- What a condition says where no operator can be. -/
def spelled : Token → String
  | .word _ text length => String.ofList (text.take length)
  | .keyword s => s
  | .operator s => s
  | .redirection _ _ s => s
  | .expression _ => "(("
  | .newline => "newline"
  | .ending => "EOF"

mutual

/-- A list of statements. -/
def list (fuel : Nat) (listing : Listing) (taken : List Statement) : Parse (List Statement) :=
  match fuel with
  | 0 => return taken.reverse
  | fuel + 1 => do
    let look : Look := ⟨listing ≠ .line, true, true, true⟩
    let commands := substitution fuel
    match ← next commands look fuel with
    | .newline =>
      documents commands fuel
      return taken.reverse
    | .ending =>
      documents commands fuel
      unread .ending
      return taken.reverse
    | t =>
      unread t
      if (listing = .open_ ∨ (listing = .inner ∧ taken ≠ [])) && endsList t then
        return taken.reverse
      else
        let s ← andOr fuel
        let t ← next commands .plain fuel
        let (s, t) ←
          match t with
          | .operator "&" => pure (Statement.background s, Token.operator ";")
          | t => pure (s, t)
        match t with
        | .operator ";" => list fuel listing (s :: taken)
        | .newline =>
          unread t
          list fuel listing (s :: taken)
        | .ending =>
          documents commands fuel
          unread t
          return (s :: taken).reverse
        | t =>
          if listing = .line then unexpected t none
          else
            unread t
            return (s :: taken).reverse
termination_by structural fuel

/-- The body of a substitution: up to a parenthesis, which is taken, or up to the end of the text. -/
def substitution (fuel : Nat) (closed : Bool) : Parse Statement :=
  match fuel with
  | 0 => return .sequence []
  | fuel + 1 => do
    let s ← get
    set { s with waiting := [], pushed := none }
    let body ← list fuel .open_ []
    documents (substitution fuel) fuel
    let t ← next (substitution fuel) .plain fuel
    match t, closed with
    | .operator ")", true => pure ()
    | .ending, false => pure ()
    | .ending, true =>
      match s.dialect with
      | .plain => unexpected t (some ")")
      | .extended =>
        let line := (← get).line
        throw ⟨line, line, .unmatched ")"⟩
    | t, true => unexpected t (some ")")
    | t, false =>
      if s.dialect = .extended then unexpected t none
    modify fun after => { after with waiting := s.waiting, pushed := s.pushed }
    return .sequence body
termination_by structural fuel

/-- Statements joined by `&&` and `||`. -/
def andOr (fuel : Nat) : Parse Statement :=
  match fuel with
  | 0 => return .sequence []
  | fuel + 1 => do
    let first ← pipeline fuel .command
    andOrTail fuel first
termination_by structural fuel

/-- What follows a first pipeline. -/
def andOrTail (fuel : Nat) (first : Statement) : Parse Statement :=
  match fuel with
  | 0 => return first
  | fuel + 1 => do
    match ← next (substitution fuel) .plain fuel with
    | .operator "&&" => andOrTail fuel (.both first (← pipeline fuel .anyLine))
    | .operator "||" => andOrTail fuel (.either first (← pipeline fuel .anyLine))
    | t =>
      unread t
      return first
termination_by structural fuel

/-- Statements joined by `|`, perhaps negated or timed. -/
def pipeline (fuel : Nat) (look : Look) : Parse Statement :=
  match fuel with
  | 0 => return .sequence []
  | fuel + 1 => do
    let extended ← isExtended
    match ← next (substitution fuel) look fuel with
    | .keyword "!" =>
      if extended then
        match ← next (substitution fuel) .command fuel with
        | .operator ";" =>
          unread (.operator ";")
          return .pipeline true [.sequence []]
        | .newline =>
          unread .newline
          return .pipeline true [.sequence []]
        | .ending =>
          unread .ending
          return .pipeline true [.sequence []]
        | t =>
          unread t
          return .pipeline true [← pipeline fuel .command]
      else
        let first ← command fuel .command
        return .pipeline true (first :: (← stages fuel))
    | .keyword "time" =>
      match ← next (substitution fuel) .command fuel with
      | .operator ";" =>
        unread (.operator ";")
        return .timed false (.sequence [])
      | .newline =>
        unread .newline
        return .timed false (.sequence [])
      | .ending =>
        unread .ending
        return .timed false (.sequence [])
      | t =>
        match t with
        | .word w _ _ =>
          if w.plainText? = some "-p" then return .timed true (← pipeline fuel .command)
          else
            unread t
            return .timed false (← pipeline fuel .command)
        | _ =>
          unread t
          return .timed false (← pipeline fuel .command)
    | t =>
      unread t
      let first ← command fuel look
      let rest ← stages fuel
      if rest.isEmpty then return first
      else return .pipeline false (joined first rest)
termination_by structural fuel

/-- The later stages of a pipeline, behind a mark if the standard error of the first goes the same
way. -/
def stages (fuel : Nat) : Parse (List Statement) :=
  match fuel with
  | 0 => return []
  | fuel + 1 => do
    match ← next (substitution fuel) .plain fuel with
    | .operator "|" =>
      let stage ← command fuel .anyLine
      let rest ← stages fuel
      return joined stage rest
    | .operator "|&" =>
      let stage ← command fuel .anyLine
      let rest ← stages fuel
      return .sequence [] :: joined stage rest
    | t =>
      unread t
      return []
termination_by structural fuel

/-- A command. -/
def command (fuel : Nat) (look : Look) : Parse Statement :=
  match fuel with
  | 0 => return .sequence []
  | fuel + 1 => do
    let commands := substitution fuel
    let extended ← isExtended
    let t ← next commands look fuel
    let line := (← get).tokenLine
    let closedBy (t : String) (body : Statement) : Parse Statement := do
      match ← next commands .plain fuel with
      | .keyword s =>
        if s = t then redirected fuel line body else unexpected (.keyword s) (some t)
      | u => unexpected u (some t)
    match t with
    | .keyword "if" => closedBy "fi" (← choice fuel)
    | .keyword "while" => closedBy "done" (← loop fuel false)
    | .keyword "until" => closedBy "done" (← loop fuel true)
    | .keyword "for" =>
      let body ← forLoop fuel line
      redirected fuel line body
    | .keyword "select" =>
      match ← forLoop fuel line with
      | .forEach line n words body => redirected fuel line (.select line n words body)
      | body => redirected fuel line body
    | .keyword "case" =>
      let body ← caseOf fuel line
      redirected fuel line body
    | .keyword "\x7b" => closedBy "\x7d" (.group (inSequence (← list fuel .inner [])))
    | .keyword "function" => function fuel line
    | .keyword "coproc" => coprocess fuel line
    | .keyword "[[" =>
      let c ← condition fuel
      match ← next commands .plain fuel with
      | .word w text length =>
        if w.plainText? = some "]]" then
          let s ← get
          redirected fuel s.line (.condition s.line c)
        else unexpected (.word w text length) none
      | t => unexpected t none
    | .operator "(" =>
      let s ← get
      let asExpression : Parse Word := do
        advance
        let before ← get
        let b ← Lexer.parts commands fuel .sum 0 .empty
        let written ← writtenSince before
        if (← raw?).isNone then refuse "" ")" line
        advance
        if ← accept ')' then return b.word written else refuse "" "" line
      if extended && s.rest.head? == some '(' then
        match asExpression s with
        | .ok (w, s) =>
          set s
          redirected fuel s.line (.compute s.line w)
        | .error e =>
          if e.cause matches .unmatched ")" then throw e
          else subshell fuel line
      else subshell fuel line
    | .word .. =>
      unread t
      simple fuel line [] [] []
    | .redirection .. =>
      unread t
      simple fuel line [] [] []
    | t => unexpected t none
termination_by structural fuel

/-- Statements in parentheses, behind the opening one. -/
def subshell (fuel : Nat) (line : Nat) : Parse Statement :=
  match fuel with
  | 0 => return .sequence []
  | fuel + 1 => do
    let body ← list fuel .inner []
    match ← next (substitution fuel) .plain fuel with
    | .operator ")" =>
      let s ← get
      let line := if s.dialect = .plain then line else s.line
      redirected fuel line (.subshell line (inSequence body))
    | t => unexpected t (some ")")
termination_by structural fuel

/-- The redirections behind a statement. -/
def redirected (fuel : Nat) (line : Nat) (body : Statement) : Parse Statement :=
  match fuel with
  | 0 => return body
  | fuel + 1 => do
    let redirections ← redirections fuel
    if redirections.isEmpty then return body else return .redirected line body redirections
termination_by structural fuel

/-- Redirections. -/
def redirections (fuel : Nat) : Parse (List Redirection) :=
  match fuel with
  | 0 => return []
  | fuel + 1 => do
    match ← next (substitution fuel) ⟨false, true, true, false⟩ fuel with
    | .redirection d holder sign =>
      let r ← redirection (substitution fuel) fuel d holder sign
      return r :: (← redirections fuel)
    | t =>
      unread t
      return []
termination_by structural fuel

/-- An `if`, behind the word and up to its end. -/
def choice (fuel : Nat) : Parse Statement :=
  match fuel with
  | 0 => return .sequence []
  | fuel + 1 => do
    let commands := substitution fuel
    let test ← list fuel .inner []
    match ← next commands .plain fuel with
    | .keyword "then" =>
      let yes ← list fuel .inner []
      match ← next commands .plain fuel with
      | .keyword "elif" => return .choice (inSequence test) (inSequence yes) (some (← choice fuel))
      | .keyword "else" =>
        let no ← list fuel .inner []
        return .choice (inSequence test) (inSequence yes) (some (inSequence no))
      | t =>
        unread t
        return .choice (inSequence test) (inSequence yes) none
    | t => unexpected t (some "then")
termination_by structural fuel

/-- A loop with a condition, behind its first word and up to its end. -/
def loop (fuel : Nat) (untilTrue : Bool) : Parse Statement :=
  match fuel with
  | 0 => return .sequence []
  | fuel + 1 => do
    let test ← list fuel .inner []
    match ← next (substitution fuel) .plain fuel with
    | .keyword "do" =>
      let body ← list fuel .inner []
      return .loop untilTrue (inSequence test) (inSequence body)
    | t => unexpected t (some "do")
termination_by structural fuel

/-- The body of a loop over words, up to its end. -/
def loopBody (fuel : Nat) : Parse Statement :=
  match fuel with
  | 0 => return .sequence []
  | fuel + 1 => do
    let commands := substitution fuel
    match ← next commands .laterKeyword fuel with
    | .keyword "do" =>
      let body ← list fuel .inner []
      match ← next commands .plain fuel with
      | .keyword "done" => return inSequence body
      | t => unexpected t (some "done")
    | .keyword "\x7b" =>
      if ← isExtended then
        let body ← list fuel .inner []
        match ← next commands .plain fuel with
        | .keyword "\x7d" => return inSequence body
        | t => unexpected t (some "\x7d")
      else unexpected (.keyword "\x7b") (some "do")
    | t => unexpected t (some "do")
termination_by structural fuel

/-- A loop over words or with a count, behind its first word and up to its end. -/
def forLoop (fuel : Nat) (line : Nat) : Parse Statement :=
  match fuel with
  | 0 => return .sequence []
  | fuel + 1 => do
    let commands := substitution fuel
    let extended ← isExtended
    let bad : Parse Statement := fail (.refused "Bad for loop variable")
    match ← next commands .plain fuel with
    | .word w text length =>
      let n := (w.plainText?).getD (String.ofList (text.take length))
      if !extended && !(w.plainText?.any isName) then bad
      else
        match ← next commands .laterKeyword fuel with
        | .keyword "in" =>
          let (words, t) ← words fuel []
          match t with
          | .newline =>
            documents commands fuel
            return .forEach line n (some words) (← loopBody fuel)
          | .operator ";" => return .forEach line n (some words) (← loopBody fuel)
          | t => unexpected t none
        | .operator ";" => return .forEach line n none (← loopBody fuel)
        | t =>
          unread t
          return .forEach line n none (← loopBody fuel)
    | .operator "(" =>
      if extended && (← raw?) = some '(' then
        advance
        let clause : Parse Word := do
          let before ← get
          let b ← Lexer.parts commands fuel .clause 0 .empty
          return b.word (← writtenSince before)
        let first ← clause
        if ← accept ';' then
          let test ← clause
          if ← accept ';' then
            let step ← clause
            if (← accept ')') && (← accept ')') then
              match ← next commands .laterKeyword fuel with
              | .operator ";" => return .forCount line first test step (← loopBody fuel)
              | t =>
                unread t
                return .forCount line first test step (← loopBody fuel)
            else refuse "" ")" line
          else if (← raw?).isNone then refuse "" ")" line
          else fail (.condition ["syntax error: arithmetic expression required"])
        else if (← raw?).isNone then refuse "" ")" line
        else fail (.condition ["syntax error: arithmetic expression required"])
      else if extended then unexpected (.operator "(") none
      else bad
    | t => if extended then unexpected t none else bad
termination_by structural fuel

/-- Words, and the token behind them. -/
def words (fuel : Nat) (taken : List Word) : Parse (List Word × Token) :=
  match fuel with
  | 0 => return (taken.reverse, .ending)
  | fuel + 1 => do
    match ← next (substitution fuel) .plain fuel with
    | .word w _ _ => words fuel (w :: taken)
    | t => return (taken.reverse, t)
termination_by structural fuel

/-- A `case`, behind the word and with its end. -/
def caseOf (fuel : Nat) (line : Nat) : Parse Statement :=
  match fuel with
  | 0 => return .sequence []
  | fuel + 1 => do
    let commands := substitution fuel
    match ← next commands .plain fuel with
    | .word subject _ _ =>
      match ← next commands .laterKeyword fuel with
      | .keyword "in" => return .matching line subject (← branches fuel)
      | t => unexpected t (some "in")
    | t => unexpected t (some "word")
termination_by structural fuel

/-- The branches of a `case`, with the word that ends them. -/
def branches (fuel : Nat) : Parse (List Branch) :=
  match fuel with
  | 0 => return []
  | fuel + 1 => do
    let commands := substitution fuel
    let extended ← isExtended
    match ← next commands .laterKeyword fuel with
    | .keyword "esac" => return []
    | t =>
      let t ←
        match t with
        | .operator "(" => next commands .plain fuel
        | t => pure t
      let patterns ← patterns fuel t
      let body ← list fuel .open_ []
      let body := if body.isEmpty then none else some (inSequence body)
      match ← next commands .laterKeyword fuel with
      | .keyword "esac" => return [.mk patterns body .leave]
      | .operator ";;" => return .mk patterns body .leave :: (← branches fuel)
      | .operator s =>
        if extended && s = ";&" then return .mk patterns body .nextBody :: (← branches fuel)
        else if extended && s = ";;&" then
          return .mk patterns body .nextPattern :: (← branches fuel)
        else unexpected (.operator s) (some ";;")
      | t => unexpected t (some ";;")
termination_by structural fuel

/-- The patterns of a branch, of which the first token has been taken, up to their end. -/
def patterns (fuel : Nat) (t : Token) : Parse (List Word) :=
  match fuel with
  | 0 => return []
  | fuel + 1 => do
    let commands := substitution fuel
    let extended ← isExtended
    let first ←
      match t with
      | .word w _ _ => pure w
      | .keyword s => pure (.ofText s)
      | .ending => if extended then unexpected t none else pure default
      | t => if extended then unexpected t none else pure default
    match ← next commands .plain fuel with
    | .operator "|" => return first :: (← patterns fuel (← next commands .plain fuel))
    | .operator ")" => return [first]
    | t => unexpected t (some ")")
termination_by structural fuel

/-- A statement whose input and output the script holds the other ends of, behind the word that announces
it. A word in front of a compound statement is its name. -/
def coprocess (fuel : Nat) (line : Nat) : Parse Statement :=
  match fuel with
  | 0 => return .sequence []
  | fuel + 1 => do
    let commands := substitution fuel
    match ← next commands .command fuel with
    | .word w _ _ =>
      match assignment? .extended w with
      | some a => return .coprocess line "COPROC" (← simple fuel line [a] [] [])
      | none =>
        let t ← next commands ⟨false, true, false, false⟩ fuel
        unread t
        let named : Bool :=
          match t with
          | .keyword _ => true
          | .operator s => s = "("
          | _ => false
        if named then return .coprocess line ((w.plainText?).getD w.written) (← command fuel .command)
        else return .coprocess line "COPROC" (← simple fuel line [] [w] [])
    | t =>
      unread t
      return .coprocess line "COPROC" (← command fuel .command)
termination_by structural fuel

/-- A function of the extended dialect, behind the word that announces it. -/
def function (fuel : Nat) (line : Nat) : Parse Statement :=
  match fuel with
  | 0 => return .sequence []
  | fuel + 1 => do
    let commands := substitution fuel
    match ← next commands .plain fuel with
    | .word w text length =>
      let n := (w.plainText?).getD (String.ofList (text.take length))
      match ← next commands .plain fuel with
      | .operator "(" =>
        match ← next commands .plain fuel with
        | .operator ")" => return .define line n (← functionBody fuel)
        | t => unexpected t none
      | t =>
        unread t
        return .define line n (← functionBody fuel)
    | t => unexpected t none
termination_by structural fuel

/-- The body of a function: in the extended dialect, no simple command. -/
def functionBody (fuel : Nat) : Parse Statement :=
  match fuel with
  | 0 => return .sequence []
  | fuel + 1 => do
    if ← isExtended then
      match ← next (substitution fuel) .laterKeyword fuel with
      | .word w text length => unexpected (.word w text length) none
      | t =>
        unread t
        command fuel .command
    else command fuel .anyLine
termination_by structural fuel

/-- A simple command, or a function if it is one. -/
def simple (fuel : Nat) (line : Nat) (assignments : List Assignment) (taken : List Word)
    (redirections : List Redirection) : Parse Statement :=
  match fuel with
  | 0 => return .simple line assignments.reverse taken.reverse redirections.reverse
  | fuel + 1 => do
    let commands := substitution fuel
    let d := (← get).dialect
    let bare := taken.isEmpty && assignments.isEmpty && redirections.isEmpty
    let lineOf (line : Nat) : Parse Nat := do
      let s ← get
      return if bare && d = .extended then s.line else line
    let declaring := (taken.getLast?.bind Word.plainText?).any declares
    match ← next commands ⟨false, false, taken.isEmpty, taken.isEmpty || declaring⟩ fuel with
    | .word w text length =>
      match (if taken.isEmpty then assignment? d w else none) with
      | some a => simple fuel (← lineOf line) (a :: assignments) taken redirections
      | none =>
        let t : Token := .word w text length
        let declaring := ((w :: taken).getLast?.bind Word.plainText?).any declares
        let here := (← get).line
        match bare, ← next commands ⟨false, false, false, declaring⟩ fuel with
        | true, .operator "(" =>
          match ← next commands .plain fuel with
          | .operator ")" =>
            let n := (w.plainText?).getD (spelled t)
            if d = .plain && (!isName n || reservedFunctions.contains n) then
              fail (.refused "Bad function name")
            else return .define line n (← functionBody fuel)
          | t => unexpected t (some ")")
        | _, t =>
          unread t
          let ends := t matches .newline || t matches .ending
          let s ← get
          let reached := s.line
          let line :=
            if bare && d = .extended then (if ends then here else reached) else line
          simple fuel line assignments (w :: taken) redirections
    | .redirection descriptor holder sign =>
      let r ← redirection commands fuel descriptor holder sign
      simple fuel (← lineOf line) assignments taken (r :: redirections)
    | t =>
      unread t
      return .simple line assignments.reverse taken.reverse redirections.reverse
termination_by structural fuel

/-- A condition in double brackets, up to the closing ones. -/
def condition (fuel : Nat) : Parse Condition :=
  match fuel with
  | 0 => return .unary "-n" default
  | fuel + 1 => do
    let first ← conjunction fuel
    match ← next (substitution fuel) .plain fuel with
    | .operator "||" => return .either first (← condition fuel)
    | t =>
      unread t
      return first
termination_by structural fuel

/-- Conditions joined by `&&`. -/
def conjunction (fuel : Nat) : Parse Condition :=
  match fuel with
  | 0 => return .unary "-n" default
  | fuel + 1 => do
    let first ← conditionTerm fuel
    match ← next (substitution fuel) ⟨true, false, false, false⟩ fuel with
    | .operator "&&" => return .both first (← conjunction fuel)
    | t =>
      unread t
      return first
termination_by structural fuel

/-- One condition. -/
def conditionTerm (fuel : Nat) : Parse Condition :=
  match fuel with
  | 0 => return .unary "-n" default
  | fuel + 1 => do
    let commands := substitution fuel
    let groups := (← get).groups
    let near (notes : List String) (t : Token) : Parse Condition :=
      fail (.condition (notes ++ ["syntax error near \x60" ++ spelled t ++ "'"]))
    match ← next commands ⟨true, false, false, false⟩ fuel with
    | .ending =>
      fail (.condition ["unexpected token \x60EOF' in conditional command",
        "syntax error: unexpected end of file"])
    | .operator "(" =>
      let c ← condition fuel
      match ← next commands ⟨true, false, false, false⟩ fuel with
      | .operator ")" => return .group c
      | t => near ["expected \x60)'"] t
    | .word w text length =>
      let t : Token := .word w text length
      let plain := w.plainText?
      if plain = some "]]" then near [] t
      else if plain = some "!" then return .not (← conditionTerm fuel)
      else if plain.any conditionTests.contains then
        match ← next commands .plain fuel with
        | .word operand text length =>
          if operand.plainText? = some "]]" then
            unread (.word operand text length)
            return .unary "-n" w
          else if operand.plainText?.any conditionOperators.contains then
            binary fuel w t (.word operand text length)
          else return .unary (plain.getD "") operand
        | .redirection a b s => binary fuel w t (.redirection a b s)
        | u =>
          unread u
          return .unary "-n" w
      else
        modify fun s => { s with groups := true }
        let u ← next commands .plain fuel
        let c ← binary fuel w t u
        modify fun s => { s with groups }
        return c
    | t => near [] t
termination_by structural fuel

/-- A condition behind its first operand `left`, which is the token `first`; `operator` is the token
behind. -/
def binary (fuel : Nat) (left : Word) (first operator : Token) : Parse Condition :=
  match fuel with
  | 0 => return .unary "-n" default
  | fuel + 1 => do
    let commands := substitution fuel
    let operand (o : String) : Parse Condition := do
      let t ←
        if o = "=~" then
          blanks (← get).rest.length
          let s ← get
          let b ← Lexer.parts commands fuel .expression 0 .empty
          let w := b.word (← writtenSince s)
          pure (Token.word w s.rest ((← get).count - s.count))
        else next commands .plain fuel
      match t with
      | .word right text length =>
        if right.plainText? = some "]]" then
          fail (.condition ["unexpected argument \x60]]' to conditional binary operator",
            "syntax error near \x60]]'"])
        else if right.parts.isEmpty && length = 0 then unexpected (.word right text length) none
        else return .binary o left right
      | t =>
        fail (.condition ["unexpected argument \x60" ++ spelled t ++
          "' to conditional binary operator", "syntax error near \x60" ++ spelled t ++ "'"])
    match operator with
    | .word w text length =>
      match w.plainText? with
      | some o =>
        if o = "]]" then
          unread (.word w text length)
          return .unary "-n" left
        else if conditionOperators.contains o then operand o
        else
          fail (.condition ["conditional binary operator expected",
            "syntax error near \x60" ++ o ++ "'"])
      | none =>
        fail (.condition ["conditional binary operator expected",
          "syntax error near \x60" ++ spelled operator ++ "'"])
    | .redirection none none s =>
      if s = "<" ∨ s = ">" then operand s
      else
        fail (.condition ["conditional binary operator expected",
          "syntax error near \x60" ++ s ++ "'"])
    | .operator s =>
      if s = "&&" ∨ s = "||" ∨ s = ")" then
        unread (.operator s)
        return .unary "-n" left
      else
        fail (.condition ["unexpected token \x60" ++ s ++ "', conditional binary operator expected",
          "syntax error near \x60" ++ spelled first ++ "'"])
    | t =>
      fail (.condition ["unexpected token \x60" ++ spelled t ++
        "', conditional binary operator expected", "syntax error near \x60" ++ spelled first ++ "'"])
termination_by structural fuel

end

end Grammar

/-- What a line of a script is. -/
inductive Line where
  | statements (s : List Statement)
  | ending

/-- The recursion that a line of a source may need. -/
def Source.depth (s : Source) : Nat := 24 * s.rest.length + 1000

/-- Takes a line off a source. -/
def Source.nextLine (s : Source) : Except Fault (Line × Source) :=
  let s := { s with known := [], asked := 0, waiting := [], found := [], pushed := none }
  let read (s : Source) : Except Fault (List Statement × Source) :=
    Grammar.list s.depth .line [] s
  match read s with
  | .error e => .error e
  | .ok (statements, after) =>
    if statements.isEmpty && after.rest.isEmpty then .ok (.ending, after)
    else if after.found.isEmpty then .ok (.statements statements, after)
    else
      match read { s with known := after.found } with
      | .error e => .error e
      | .ok (statements, after) => .ok (.statements statements, after)

/-- A script that has not been read yet. -/
def Source.ofText (dialect : Dialect) (line : Nat) (text : List Char) : Source where
  dialect
  rest := text
  line
  count := 0
  aliases := []
  active := []
  groups := false
  assignable := false
  aliasNext := false
  known := []
  asked := 0
  waiting := []
  found := []
  warnings := []
  pushed := none
  tokenLine := line
  edits := []

end CrossBench.Shell
