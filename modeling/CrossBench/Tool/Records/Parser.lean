import CrossBench.Tool.Records.Token

/-!
# Reading programs for records

A program is read by descent, and its operators by how tightly they bind. Where an expression stands
beside another one they are joined, so that it is only known from the next word whether an expression
goes on. When a word is wrong, reading goes on behind the statement, or in the next block.
-/

namespace CrossBench.Tool.Records

/-- Sets whether the arguments of a statement that prints are being read. -/
def setPrinting (printing : Bool) : Parse Unit := modify fun p => { p with printing }

/-- Sets whether a place for a record is being read. -/
def setFetching (fetching : Bool) : Parse Unit := modify fun p => { p with fetching }

/-- What a kind of name is called. -/
def kindName (own : Bool) (kind : Kind) : String :=
  (if own then "local " else "") ++
    (match kind with
      | .variable => "variable"
      | .table => "array"
      | .routine => "function")

/-- What a name stands for that is used as one of a kind, if that is certain. -/
def resolve (name : String) (wanted : Option Kind) : Parse Variable := do
  let p ← get
  let own := p.head.bind fun h => h.parameters.findIdx? fun q => q.1 = name
  let known := (p.kindOf name).join
  match known, wanted with
  | some k, some w =>
    unless k = w do fault ("illegal reference to " ++ kindName own.isSome k ++ " " ++ name)
  | none, some w =>
    match own, p.head with
    | some _, some h =>
      let parameters := h.parameters.map fun q => if q.1 = name then (name, some w) else q
      modify fun p => { p with head := some { h with parameters } }
    | _, _ => modify fun p => { p with kinds := p.kinds.insert name w }
  | _, none => pure ()
  return own.elim (.shared name) .own

/-- A part of an expression, and the place that it is if a value can be put there. -/
structure Piece where
  expr : Expr
  place : Option Place

/-- The piece that a place is. -/
def Piece.ofPlace (p : Place) : Piece := ⟨.value p, some p⟩

/-- The piece that an expression is. -/
def Piece.of (e : Expr) : Piece := ⟨e, none⟩

/-- The operation of a sign that also sets a value. -/
def updateOf? : String → Option Operation
  | "+=" => some .add
  | "-=" => some .subtract
  | "*=" => some .multiply
  | "/=" => some .divide
  | "%=" => some .remainder
  | "^=" => some .power
  | _ => none

/-- The operation of a sign, and how tightly it binds. -/
def operationOf? : String → Option (Operation × Nat)
  | "+" => some (.add, 1)
  | "-" => some (.subtract, 1)
  | "*" => some (.multiply, 2)
  | "/" => some (.divide, 2)
  | "%" => some (.remainder, 2)
  | _ => none

/-- The comparison of a sign. -/
def comparisonOf? : String → Option Comparison
  | "<" => some .less
  | "<=" => some .atMost
  | "==" => some .equal
  | "!=" => some .unequal
  | ">=" => some .atLeast
  | ">" => some .greater
  | _ => none

/-- Whether an expression can begin with a word that stands behind another one. -/
def begins : Token → Bool
  | .number .. => true
  | .text .. => true
  | .regex _ => true
  | .name _ => true
  | .routine _ => true
  | .builtin _ => true
  | .field _ => true
  | .fieldCount => true
  | .whole .. => true
  | .sign s =>
    ["(", "$", "!", "++", "--", "-", "+", "length", "getline", "split", "match", "sub", "gsub"].contains s
  | _ => false

/-- The expression that a regular expression of the program is. -/
def regexOf (source : String) : Parse Expr := do
  match Pattern.parse source with
  | .ok r => return .regex source r
  | .error why =>
    fault ("regular expression compile failed (" ++ why ++ ")\n" ++ source)
    throw .final

/-- What is meant as a regular expression, which a text may spell. -/
def asRegex : Expr → Parse Expr
  | .text s => regexOf s
  | e => return e

/-- Refuses a call of a function that every program has. -/
def miscounted (name : String) : Parse Unit := fault ("wrong number of arguments in call to " ++ name)

mutual

/-- An expression whose operators bind at least so tightly: 1 for a choice, 2 and 3 for alternatives and
conditions, 4 for keys, 5 for matches, 6 for comparisons, 7 for what is joined. -/
def expression : Nat → Nat → Parse Expr
  | 0, _ => do refuse (← peek)
  | n + 1, least => do return (← wide n least).expr

/-- An expression, and the place that it is if it is nothing but that, in front of a closing
parenthesis. -/
def wide : Nat → Nat → Parse Piece
  | 0, _ => do refuse (← peek)
  | n + 1, least => do
    let first ← piece n 1
    match first.place, ← peek with
    | some p, .sign ")" => return .ofPlace p
    | some p, .sign "=" =>
      let _ ← fetch
      return .of (.assign p (← expression n 1))
    | some p, .sign s =>
      match updateOf? s with
      | some op =>
        let _ ← fetch
        return .of (.update op p (← expression n 1))
      | none => return .of (← behind n least (← joinedTo n first.expr))
    | _, _ => return .of (← behind n least (← joinedTo n first.expr))

/-- What is joined to an expression. -/
def joinedTo : Nat → Expr → Parse Expr
  | 0, e => return e
  | n + 1, e => do
    if begins (← peek) then
      let next ← piece n 1
      joinedTo n (.joined e next.expr)
    else return e

/-- The operators behind an expression. -/
def behind : Nat → Nat → Expr → Parse Expr
  | 0, _, e => return e
  | n + 1, least, e => do
    match ← peek with
    | .sign "?" =>
      if 1 < least then return e
      let _ ← fetch
      let yes ← expression n 1
      expect ":"
      let no ← expression n 1
      behind n least (.choose e yes no)
    | .sign "||" =>
      if 2 < least then return e
      let _ ← fetch
      behind n least (.either e (← expression n 3))
    | .sign "&&" =>
      if 3 < least then return e
      let _ ← fetch
      behind n least (.both e (← expression n 4))
    | .sign "in" =>
      if 4 < least then return e
      let _ ← fetch
      behind n least (.within [e] (← tableName))
    | .sign "~" =>
      if 5 < least then return e
      let _ ← fetch
      behind n least (.matching false e (← asRegex (← expression n 6)))
    | .sign "!~" =>
      if 5 < least then return e
      let _ ← fetch
      behind n least (.matching true e (← asRegex (← expression n 6)))
    | .sign s =>
      match comparisonOf? s with
      | none => return e
      | some how =>
        if 6 < least then return e
        let _ ← fetch
        behind n least (.compare how e (← expression n 7))
    | _ => return e

/-- The name of a table. -/
def tableName : Parse Variable := do
  match ← fetch with
  | .name s => resolve s (some .table)
  | t => refuseTaken t

/-- A part of an expression whose operators bind at least so tightly: 1 for sums, 2 for products, 3 for
signs in front, 4 for what is read from commands, 5 for powers. -/
def piece : Nat → Nat → Parse Piece
  | 0, _ => do refuse (← peek)
  | n + 1, least => do operators n least (← primary n)

/-- The operators behind a part of an expression. -/
def operators : Nat → Nat → Piece → Parse Piece
  | 0, _, a => return a
  | n + 1, least, a => do
    match ← peek with
    | .sign "^" =>
      if 5 < least then return a
      let _ ← fetch
      let b ← piece n 5
      operators n least (.of (.compute .power a.expr b.expr))
    | .sign "|" =>
      if 4 < least then return a
      let _ ← fetch
      expect "getline"
      let place ← fetched n
      operators n least (.of (.getline .command (some a.expr) place))
    | .sign s =>
      match operationOf? s with
      | none => return a
      | some (op, binding) =>
        if binding < least then return a
        let _ ← fetch
        let b ← piece n (binding + 1)
        operators n least (.of (.compute op a.expr b.expr))
    | _ => return a

/-- The place where a record is to be put, if there is one. -/
def fetched : Nat → Parse (Option Place)
  | 0 => return none
  | n + 1 => do
    match ← peek with
    | .name _ => some <$> target n
    | .field _ => some <$> target n
    | .fieldCount => some <$> target n
    | .sign "$" => some <$> target n
    | .sign "(" => some <$> target n
    | .whole .. => some <$> target n
    | _ => return none

/-- A place where a value can be put. -/
def target : Nat → Parse Place
  | 0 => do refuse (← peek)
  | n + 1 => do
    match ← fetch with
    | .name s => named n s
    | .field k => return .field (.number (.ofNat k))
    | .fieldCount => return .variable (.shared "NF")
    | .sign "$" => numbered n
    | .whole _ (some p) => return p
    | .sign "(" =>
      let p ← target n
      expect ")"
      return p
    | t => refuseTaken t

/-- The place of a name, with its keys if they follow. -/
def named : Nat → String → Parse Place
  | 0, s => return .variable (← resolve s (some .variable))
  | n + 1, s => do
    if ← takes "[" then
      let v ← resolve s (some .table)
      let keys ← list n
      expect "]"
      return .element v keys
    else return .variable (← resolve s (some .variable))

/-- The field whose number stands behind a dollar sign. -/
def numbered : Nat → Parse Place
  | 0 => do refuse (← peek)
  | n + 1 => do
    match ← peek with
    | .name s =>
      let _ ← fetch
      return .field (.value (← named n s))
    | _ => return .field (← piece n 9).expr

/-- Expressions with commas between them. -/
def list : Nat → Parse (List Expr)
  | 0 => do refuse (← peek)
  | n + 1 => do
    let e ← expression n 1
    if ← takes "," then return e :: (← list n) else return [e]

/-- The arguments of a call behind its opening parenthesis, and the closing one. -/
def arguments : Nat → Parse (List Expr)
  | 0 => do refuse (← peek)
  | n + 1 => do
    if ← takes ")" then return []
    let es ← list n
    expect ")"
    return es

/-- The arguments of a call of a function of the program. A name alone is not used as anything yet. -/
def passed : Nat → Parse (List Expr)
  | 0 => do refuse (← peek)
  | n + 1 => do
    if ← takes ")" then return []
    let e ← argument n
    if ← takes "," then
      if ← sees ")" then refuse (← peek)
      return e :: (← passed n)
    expect ")"
    return [e]

/-- An argument that may be a name alone. -/
def argument : Nat → Parse Expr
  | 0 => do refuse (← peek)
  | n + 1 => do
    match ← peek with
    | .name s =>
      let t ← fetch
      let next ← peek
      let alone : Bool :=
        match next with
        | .sign s => s = "," || s = ")"
        | _ => false
      if alone then return .value (.variable (← resolve s none))
      else
        unfetch t
        expression n 1
    | _ => expression n 1

/-- A value, with the signs of steps around it. -/
def primary : Nat → Parse Piece
  | 0 => do refuse (← peek)
  | n + 1 => do
    let t ← fetch
    let stepped (p : Place) : Parse Piece := do
      if ← takes "++" then return .of (.step true false p)
      else if ← takes "--" then return .of (.step false false p)
      else return .ofPlace p
    match t with
    | .number x _ => return .of (.number x)
    | .text s _ => return .of (.text s)
    | .regex source => return .of (← regexOf source)
    | .whole e p =>
      match p with
      | some p => stepped p
      | none => return .of e
    | .name s => stepped (← named n s)
    | .field k => stepped (.field (.number (.ofNat k)))
    | .fieldCount => stepped (.variable (.shared "NF"))
    | .routine s =>
      let line := (← get).line
      expect "("
      let es ← passed n
      modify fun p => { p with calls := (s, es.length, line) :: p.calls }
      return .of (.call s es)
    | .builtin "length" => length n
    | .builtin s =>
      expect "("
      let es ← arguments n
      match builtins.find? fun b => b.1 = s with
      | some (_, low, high) => unless low ≤ es.length && es.length ≤ high do miscounted s
      | none => pure ()
      return .of (.builtin s es)
    | .sign "length" => return .of (.builtin "length" [])
    | .sign "$" => stepped (← numbered n)
    | .sign "!" => return .of (.not (← piece n 4).expr)
    | .sign "-" => return .of (.opposite (← piece n 4).expr)
    | .sign "+" => return .of (.number_ (← piece n 4).expr)
    | .sign "++" => return .of (.step true true (← target n))
    | .sign "--" => return .of (.step false true (← target n))
    | .sign "(" =>
      let first ← wide n 1
      if ← takes "," then
        let others ← list n
        expect ")"
        expect "in"
        return .of (.within (first.expr :: others) (← tableName))
      else
        expect ")"
        match first.place with
        | some (.field e) => stepped (.field e)
        | some (.variable (.shared "NF")) => stepped (.variable (.shared "NF"))
        | _ => return .of first.expr
    | .sign "split" =>
      expect "("
      let e ← expression n 1
      expect ","
      let v ← tableName
      if ← takes ")" then return .of (.split e v none)
      else
        expect ","
        let r ← expression n 1
        expect ")"
        return .of (.split e v (some r))
    | .sign "match" =>
      expect "("
      let e ← expression n 1
      expect ","
      let r ← asRegex (← expression n 1)
      expect ")"
      return .of (.find e r)
    | .sign "sub" => substitution n false
    | .sign "gsub" => substitution n true
    | .sign "getline" =>
      setFetching true
      let place ← fetched n
      match ← peek with
      | .origin =>
        let _ ← fetch
        setFetching false
        let source ← piece n 5
        return .of (.getline .file (some source.expr) place)
      | _ =>
        setFetching false
        return .of (.getline .input none place)
    | t => refuseTaken t

/-- A call for the length of something, behind the name. -/
def length : Nat → Parse Piece
  | 0 => do refuse (← peek)
  | n + 1 => do
    expect "("
    if ← takes ")" then return .of (.builtin "length" [])
    let e ← argument n
    if ← takes "," then
      let _ ← list n
      expect ")"
      miscounted "length"
      return .of e
    expect ")"
    match e with
    | .value (.variable v) =>
      match v with
      | .shared "NF" => return .of (.builtin "length" [e])
      | v => return .of (.size v)
    | e => return .of (.builtin "length" [e])

/-- A call that puts something in place of matches, behind the name. -/
def substitution : Nat → Bool → Parse Piece
  | 0, _ => do refuse (← peek)
  | n + 1, all => do
    expect "("
    let r ← asRegex (← expression n 1)
    expect ","
    let e ← expression n 1
    if ← takes ")" then return .of (.substitute all r e (.field (.number 0.0)))
    else
      expect ","
      let p ← target n
      expect ")"
      return .of (.substitute all r e p)

end

/-! ## Statements -/

/-- Takes what ends a statement. -/
def separator : Parse Unit := do
  match ← peek with
  | .newline => let _ ← fetch
  | .semicolon => let _ ← fetch
  | .omitted =>
    let _ ← fetch
  | t => refuse t

/-- Whether a word ends a statement. -/
def isSeparator : Token → Bool
  | .newline => true
  | .semicolon => true
  | .omitted => true
  | _ => false

/-- Leaves out the words up to the end of a statement. -/
def skipStatement : Nat → Parse Statement
  | 0 => throw .final
  | n + 1 => do
    match ← peek with
    | .ending => throw .final
    | t =>
      let _ ← fetch
      if isSeparator t then
        modify fun p => { p with quiet := 0, printing := false, fetching := false, parentheses := 0 }
        return .nothing
      else skipStatement n

/-- The arguments of a statement that prints. -/
def printed (n : Nat) : Parse (List Expr) := do
  let plain : Parse (List Expr) := do if begins (← peek) then list n else return []
  if ← takes "(" then
    if ← takes ")" then return []
    let first ← wide n 1
    if ← takes "," then
      let others ← list n
      expect ")"
      if ← takes "in" then
        let v ← tableName
        unfetch (.whole (.within (first.expr :: others) v) none)
        plain
      else return first.expr :: others
    else
      expect ")"
      let place : Option Place :=
        match first.place with
        | some (.field e) => some (.field e)
        | some (.variable (.shared "NF")) => some (.variable (.shared "NF"))
        | _ => none
      let _ ← peek
      unfetch (.whole first.expr place)
      plain
  else plain

/-- A statement that prints. -/
def printing (n : Nat) (formed : Bool) : Parse Statement := do
  setPrinting true
  let es ← printed n
  if formed && es.isEmpty then fault "no arguments in call to printf"
  let sink ←
    match ← peek with
    | .sink s =>
      let _ ← fetch
      let e ← expression n 1
      pure (some (s, e))
    | _ => pure none
  separator
  modify fun p => { p with printing := false, parentheses := 0 }
  return .print formed es sink

/-- An expression, if there is one, up to a sign that must be there. -/
def optional (n : Nat) (ends : Token → Bool) : Parse (Option Expr) := do
  if ends (← peek) then
    let _ ← fetch
    return none
  else
    let e ← expression n 1
    let t ← peek
    unless ends t do refuse t
    let _ ← fetch
    return some e

/-- Whether a word is a semicolon. -/
def isSemicolon : Token → Bool
  | .semicolon => true
  | _ => false

/-- Whether a word is a closing parenthesis. -/
def isClosing : Token → Bool
  | .sign s => s = ")"
  | _ => false

/-- Reads the body of a loop. -/
def inLoop {α : Type} (body : Parse α) : Parse α := do
  modify fun p => { p with loops := p.loops + 1 }
  let a ← body
  modify fun p => { p with loops := p.loops - 1 }
  return a

mutual

/-- A statement; one with a wrong word in it is left out. -/
def statement : Nat → Parse Statement
  | 0 => throw .final
  | n + 1 => do
    let loops := (← get).loops
    tryCatch (soundStatement n) fun
      | .final => throw .final
      | .wrong => do
        modify fun p => { p with quiet := 3, loops }
        skipStatement ((← get).rest.length + 10)

/-- A statement. -/
def soundStatement : Nat → Parse Statement
  | 0 => throw .final
  | n + 1 => do
    match ← peek with
    | .newline =>
      let _ ← fetch
      return .nothing
    | .semicolon =>
      let _ ← fetch
      return .nothing
    | .omitted =>
      let _ ← fetch
      return .nothing
    | .sign "\x7b" => block n
    | .sign "if" =>
      let _ ← fetch
      expect "("
      let c ← expression n 1
      expect ")"
      eatLines
      let yes ← statement n
      if ← takes "else" then
        eatLines
        return .cond c yes (← statement n)
      else return .cond c yes .nothing
    | .sign "while" =>
      let _ ← fetch
      expect "("
      let c ← expression n 1
      expect ")"
      eatLines
      return .loop c (← inLoop (statement n))
    | .sign "do" =>
      let _ ← fetch
      eatLines
      let body ← inLoop (statement n)
      expect "while"
      expect "("
      let c ← expression n 1
      expect ")"
      separator
      return .onceAndLoop body c
    | .sign "for" =>
      let _ ← fetch
      expect "("
      loopOf n
    | .sign "break" =>
      let _ ← fetch
      if (← get).loops = 0 then fault "break statement outside of loop"
      separator
      return .leaveLoop
    | .sign "continue" =>
      let _ ← fetch
      if (← get).loops = 0 then fault "continue statement outside of loop"
      separator
      return .nextTurn
    | .sign "next" =>
      let _ ← fetch
      let p ← get
      if p.outside || p.head.isSome then fault "improper use of next"
      separator
      return .nextRecord
    | .sign "nextfile" =>
      let _ ← fetch
      let p ← get
      if p.outside || p.head.isSome then fault "improper use of nextfile"
      separator
      return .nextFile
    | .sign "exit" =>
      let _ ← fetch
      return .exit (← optional n isSeparator)
    | .sign "return" =>
      let _ ← fetch
      if (← get).head.isNone then fault "return outside function body"
      return .answer (← optional n isSeparator)
    | .sign "delete" =>
      let _ ← fetch
      let v ← tableName
      if ← takes "[" then
        let keys ← list n
        expect "]"
        separator
        return .delete v keys
      else
        separator
        return .clear v
    | .sign "print" =>
      let _ ← fetch
      printing n false
    | .sign "printf" =>
      let _ ← fetch
      printing n true
    | _ =>
      let e ← expression n 1
      separator
      return .expr e

/-- A loop with a count or for keys, behind its opening parenthesis. -/
def loopOf : Nat → Parse Statement
  | 0 => throw .final
  | n + 1 => do
    let keyed : Option String ←
      match ← peek with
      | .name s =>
        let t ← fetch
        if ← takes "in" then pure (some s)
        else
          let _ ← peek
          unfetch t
          pure none
      | _ => pure none
    match keyed with
    | some s =>
      let v ← tableName
      expect ")"
      let k ← resolve s (some .variable)
      eatLines
      return .each k v (← inLoop (statement n))
    | none =>
      let first ← optional n isSemicolon
      let c ← optional n isSemicolon
      let next ← optional n isClosing
      eatLines
      return .counted first c next (← inLoop (statement n))

/-- A block. -/
def block : Nat → Parse Statement
  | 0 => throw .final
  | n + 1 => do
    expect "\x7b"
    let first ← statement n
    return .block (first :: (← statements n))

/-- The statements up to a closing brace. -/
def statements : Nat → Parse (List Statement)
  | 0 => throw .final
  | n + 1 => do
    if ← takes "\x7d" then return []
    else
      let s ← statement n
      return s :: (← statements n)

end

/-! ## Programs -/

/-- What is done with a record if nothing is said. -/
def plainAction : Statement := .print false [] none

/-- The parameters of a function up to the closing parenthesis. -/
def parameters (name : String) : Nat → List String → Parse (List String)
  | 0, _ => throw .final
  | n + 1, taken => do
    match ← fetch with
    | .name s =>
      if taken.contains s then fault (s ++ " is duplicated in argument list")
      if ← takes "," then parameters name n (s :: taken)
      else
        expect ")"
        return (s :: taken).reverse
    | .routine s =>
      if s = name then fault "function parameter cannot be the function"
      refuseTaken (.routine s)
    | t => refuseTaken t

/-- A function behind the word for it. -/
def function (n : Nat) : Parse Unit := do
  let name ←
    match ← fetch with
    | .routine s => pure s
    | .name s =>
      match (← get).kinds[s]? with
      | some k =>
        fault ("illegal reference to " ++ kindName false k ++ " " ++ s)
        pure s
      | none =>
        modify fun p => { p with kinds := p.kinds.insert s .routine }
        pure s
    | t => refuseTaken t
  if ((← get).routines.lookup name).isSome then fault ("redefinition of " ++ name)
  expect "("
  let own ← if ← takes ")" then pure [] else parameters name (n + 1) []
  modify fun p => { p with head := some ⟨name, own.map fun s => (s, none)⟩ }
  eatLines
  let body ← block n
  modify fun p => { p with head := none, routines := (name, ⟨own.length, body⟩) :: p.routines }

/-- A rule, a function, or what is done before the first or behind the last record. -/
def item (n : Nat) (s : Script) : Parse Script := do
  let edge : Parse Statement := do
    let _ ← fetch
    modify fun p => { p with outside := true }
    let b ← block n
    modify fun p => { p with outside := false }
    return b
  match ← peek with
  | .sign "BEGIN" => return { s with first := (← edge) :: s.first }
  | .sign "END" => return { s with last := (← edge) :: s.last }
  | .sign "function" =>
    let _ ← fetch
    function n
    return s
  | .sign "\x7b" => return { s with rules := ⟨.every, ← block n⟩ :: s.rules }
  | _ =>
    let e ← expression n 1
    let condition ←
      if ← takes "," then
        let last ← expression n 1
        let number := (← get).ranges
        modify fun p => { p with ranges := p.ranges + 1 }
        pure (Condition.range number e last)
      else pure (Condition.holds e)
    if ← sees "\x7b" then return { s with rules := ⟨condition, ← block n⟩ :: s.rules }
    else
      separator
      return { s with rules := ⟨condition, plainAction⟩ :: s.rules }

/-- Leaves out the words up to the next block, and reads that. -/
def skipToBlock (n : Nat) : Nat → Parse Unit
  | 0 => throw .final
  | m + 1 => do
    match ← peek with
    | .ending => throw .final
    | .sign "\x7b" =>
      let _ ← block n
    | _ =>
      let _ ← fetch
      skipToBlock n m

/-- The items of a program. -/
def items : Nat → Nat → Script → Parse Script
  | 0, _, _ => throw .final
  | m + 1, n, s => do
    match ← peek with
    | .ending => return s
    | _ =>
      let s ← tryCatch (item n s) fun
        | .final => throw .final
        | .wrong => do
          modify fun p => { p with quiet := 3, head := none, outside := false, loops := 0 }
          skipToBlock n ((← get).rest.length + 10)
          return s
      items m n s

/-- Looks at the functions that are called. -/
def checkCalls : Parse Unit := do
  let p ← get
  p.calls.reverse.forM fun (name, count, line) => do
    match p.routines.lookup name with
    | none => fault ("function " ++ name ++ " never defined")
    | some r =>
      if r.parameters < count then
        blame ("line " ++ toString line ++ ": too many arguments in call to " ++ name)

/-- The program that a text is, or what is wrong with it. -/
def Script.parse (text : List Char) : Except (List String) Script :=
  let n := 12 * text.length + 200
  let whole : Parse Script := do
    eatLines
    let s ← items n n ⟨[], [], [], []⟩
    checkCalls
    return s
  let (result, p) := whole.run (.ofText text)
  match result, p.faults with
  | .ok s, [] =>
    .ok { first := s.first.reverse, rules := s.rules.reverse, last := s.last.reverse, routines := p.routines }
  | _, faults => .error faults.reverse

end CrossBench.Tool.Records
