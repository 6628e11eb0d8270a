import CrossBench.Shell.Arithmetic.Basic

/-!
# Expressions of the extended dialect

These expressions have numbers in any base up to 64, elements of arrays, powers, increments, and a
comma between expressions. The value of a parameter is an expression in its turn.

An expression is read and evaluated from left to right, one token ahead. A complaint quotes what is
left of the expression from the last token on.
-/

namespace CrossBench.Shell.Arithmetic.Extended

/-- A token of an expression. -/
inductive Token where
  | ending
  | number
  | name
  /-- An assignment that is joined with an operator. -/
  | joined (operator : String)
  /-- An increment or a decrement in front of a name. -/
  | before (step : Int)
  | sign (s : String)
  deriving DecidableEq

/-- An expression while it is evaluated. -/
structure State where
  session : Session
  now : Instant
  /-- The whole expression. -/
  whole : String
  rest : List Char
  /-- What is left from the last token on. -/
  shown : List Char
  current : Token
  last : Token
  /-- The last name, with the text of its subscript. -/
  target : Option (String × Option String)
  value : Int
  /-- How many of the parts around this one have no effect. -/
  idle : Nat

/-- What evaluates a part of an expression. -/
abbrev Eval := StateT State (Except Fault)

/-- The value of an expression that is the value of a parameter. -/
abbrev Nested := Session → String → Except Fault (Int × Session)

/-- A blank of expressions. -/
def isBlank (c : Char) : Bool := c == ' ' || c == '\t' || c == '\n' || c == '\r'

/-- Gives up. -/
def fail {α : Type} (why : String) : Eval α := do
  let s ← get
  throw (.near (String.ofList (s.whole.toList.dropWhile fun c => c == ' ' || c == '\t')) why
    (String.ofList s.shown))

/-- The value of a digit in a base up to 64. -/
def digitIn (base : Nat) (c : Char) : Nat :=
  if c.isDigit then c.toNat - 48
  else if c.isLower then c.toNat - 87
  else if c.isUpper then if base ≤ 36 then c.toNat - 55 else c.toNat - 29
  else if c = '@' then 62
  else if c = '_' then 63
  else 99

/-- A character of a number. -/
def continuesNumber (c : Char) : Bool := c.isAlphanum || c == '@' || c == '_'

/-- The number that digits spell in a base, or why they do not. -/
def digitsIn (base : Nat) (digits : List Char) : Except String Int :=
  digits.foldlM (fun (n : Int) c =>
    if base ≤ digitIn base c then .error "value too great for base"
    else .ok (wrap (n * base + digitIn base c))) 0

/-- The number that a text spells, or why it does not. -/
def numberOf (text : List Char) : Except String Int :=
  let (front, behind) := (text.takeWhile (· != '#'), text.dropWhile (· != '#'))
  match front, behind with
  | ['0'], [] => .ok 0
  | '0' :: x :: digits, [] =>
    if x = 'x' ∨ x = 'X' then digitsIn 16 digits
    else digitsIn 8 (x :: digits)
  | digits, [] => digitsIn 10 digits
  | '0' :: _, _ => .error "invalid number"
  | digits, _ :: behind =>
    match digitsIn 10 digits with
    | .error e => .error e
    | .ok base =>
      if base < 2 ∨ 64 < base then .error "invalid arithmetic base"
      else if !(behind.head?.any continuesNumber) then .error "invalid integer constant"
      else if behind.contains '#' then .error "invalid number"
      else digitsIn base.toNat behind

/-- The text of a subscript behind its opening bracket, and what follows the closing one. -/
def subscript? (depth : Nat) (taken : List Char) : List Char → Option (List Char × List Char)
  | [] => none
  | c :: rest =>
    if c = '[' then subscript? (depth + 1) (c :: taken) rest
    else if c = ']' then
      match depth with
      | 0 => some (taken.reverse, rest)
      | depth + 1 => subscript? depth (c :: taken) rest
    else subscript? depth (c :: taken) rest

/-- The element that the text of a subscript means. -/
def elementOf (nested : Nested) (name : String) (subscript : Option String) :
    Eval (Option (Int ⊕ String)) := do
  match subscript with
  | none => return none
  | some text =>
    let s ← get
    if (s.session.get? name).any fun p => p.content.isKeyed then return some (.inr text)
    else
      match nested s.session text with
      | .ok (n, session) =>
        set { s with session }
        return some (.inl n)
      | .error e => throw e

/-- The number in a parameter, or in an element of one. -/
def valueOf (nested : Nested) (name : String) (subscript : Option String) : Eval Int := do
  if 0 < (← get).idle then return 0
  let element ← elementOf nested name subscript
  let s ← get
  let value := s.session.value? s.now name
  let s := { s with session := s.session.drawn name }
  set s
  let found :=
    match element with
    | none => value
    | some (.inr key) => (s.session.get? name).bind fun p => p.content.named? key
    | some (.inl n) => (s.session.get? name).bind fun p => p.content.at? n
  match found with
  | none => if s.session.isOn "nounset" then throw (.unset name) else return 0
  | some v =>
    if v = "" then return 0
    else
      match nested s.session v with
      | .ok (n, session) =>
        set { s with session }
        return n
      | .error e => throw e

/-- Sets a parameter, or an element of one, to a number. -/
def assign (nested : Nested) (target : String × Option String) (n : Int) : Eval Unit := do
  if (← get).idle = 0 then
    let element ← elementOf nested target.1 target.2
    let s ← get
    if s.session.isProtected target.1 then throw (.readonly target.1)
    match element with
    | some (.inl place) =>
      if ((s.session.contentOf target.1).place? place).isNone then
        throw (.subscript (target.1 ++ "[" ++ target.2.getD "" ++ "]"))
    | _ => pure ()
    set { s with session := s.session.store target.1 element (toString n) }

/-- The signs of expressions, longer ones first. -/
def signs : List String :=
  ["==", "!=", ">=", "<=", "<<", ">>", "&&", "||", "**", "=", ">", "<", "+", "-", "*", "/", "%", "!",
    "(", ")", "&", "|", "^", "~", "?", ":", ","]

/-- Whether a token stands between operands or in front of one. -/
def Token.isSign : Token → Bool
  | .ending => true
  | .number => false
  | .name => false
  | _ => true

/-- Takes the next token. -/
def advance (nested : Nested) : Eval Unit := do
  let s ← get
  let rest := s.rest.dropWhile isBlank
  let became (s : State) (t : Token) (count : Nat) : Eval Unit :=
    set { s with rest := rest.drop count, last := s.current, current := t }
  match rest with
  | [] => set { s with rest := [], last := s.current, current := .ending }
  | c :: behind =>
    let s := { s with shown := rest }
    set s
    if startsName c then
      let name := rest.takeWhile continuesName
      let after := rest.drop name.length
      let n := String.ofList name
      let (subscript, after) ←
        match after with
        | '[' :: inside =>
          match subscript? 0 [] inside with
          | some (text, after) => pure (some (String.ofList text), after)
          | none => fail "bad array subscript"
        | _ => pure (none, after)
      let ahead := after.dropWhile isBlank
      let assigned : Bool :=
        match ahead with
        | '=' :: '=' :: _ => false
        | '=' :: _ => true
        | _ => false
      let stepped : Bool :=
        match s.current with
        | .before _ => true
        | _ => false
      let value ← if stepped || !assigned then valueOf nested n subscript else pure 0
      modify fun (s : State) =>
        { s with target := some (n, subscript), value, rest := after, last := s.current, current := .name }
    else if c.isDigit then
      let text := rest.takeWhile fun c => continuesNumber c || c == '#'
      match numberOf text with
      | .ok value => became { s with value } .number text.length
      | .error why =>
        set { s with shown := text }
        fail why
    else
      match behind with
      | e :: further =>
        if (c = '+' ∨ c = '-') ∧ e = c then
          match s.current, s.last with
          | .number, .before _ =>
            fail (String.ofList [c, c] ++ ": assignment requires lvalue")
          | _, _ =>
            if (further.dropWhile isBlank).head?.any startsName then
              became s (.before (if c = '+' then 1 else -1)) 2
            else became s (.sign (String.singleton c)) 1
        else
          let joined := joining.find? fun o => (o ++ "=").toList.isPrefixOf rest
          match joined with
          | some o => became s (.joined o) (o.length + 1)
          | none =>
            match signs.find? fun o => o.toList.isPrefixOf rest with
            | some o => became s (.sign o) o.length
            | none =>
              if s.current.isSign then fail "syntax error: operand expected"
              else fail "syntax error: invalid arithmetic operator"
      | [] =>
        match signs.find? fun o => o.toList.isPrefixOf rest with
        | some o => became s (.sign o) o.length
        | none =>
          if s.current.isSign then fail "syntax error: operand expected"
          else fail "syntax error: invalid arithmetic operator"

/-- The next token. -/
def peek : Eval Token := do return (← get).current

/-- A part of an expression that has no effect if so decided. -/
def idly {α : Type} (idle : Bool) (part : Eval α) : Eval α := do
  if idle then
    modify fun s => { s with idle := s.idle + 1 }
    let a ← part
    modify fun s => { s with idle := s.idle - 1 }
    return a
  else part

/-- Says that the last thing read is a number. -/
def settle : Eval Unit := modify fun s => { s with last := .number }

/-- What an operator makes of two numbers. `operand` is the text from the second number on. -/
def combine (operator : String) (a b : Int) (operand : List Char) : Eval Int := do
  match combine? operator a b with
  | some n => return n
  | none =>
    if 0 < (← get).idle then return 0
    else
      modify fun s => { s with shown := operand.dropWhile fun c => c == ' ' || c == '\t' }
      fail "division by 0"

/-- A power of a number. -/
def power (a : Int) : Nat → Nat → Int
  | _, 0 => 1
  | 0, _ => 1
  | fuel + 1, n =>
    let half := power a fuel (n / 2)
    let square := wrap (half * half)
    if n % 2 = 1 then wrap (square * a) else square

/-- The operators of a level. -/
def signOf (level : List String) : Token → Option String
  | .sign s => if level.contains s then some s else none
  | _ => none

mutual

/-- Expressions with commas between them. -/
def sequence (nested : Nested) (fuel : Nat) : Eval Int :=
  match fuel with
  | 0 => fail "syntax error in expression"
  | fuel + 1 => do
    let n ← assignment nested fuel
    if (← peek) = .sign "," then
      advance nested
      sequence nested fuel
    else return n
termination_by structural fuel

/-- An expression, perhaps with an assignment. -/
def assignment (nested : Nested) (fuel : Nat) : Eval Int :=
  match fuel with
  | 0 => fail "syntax error in expression"
  | fuel + 1 => do
    let old ← choice nested fuel
    let operator : Option String :=
      match ← peek with
      | .sign "=" => some "="
      | .joined o => some o
      | _ => none
    match operator with
    | none => return old
    | some o =>
      let s ← get
      if s.last ≠ .name then fail "attempted assignment to non-variable"
      let target := s.target.getD ("", none)
      let joined := s.current ≠ .sign "="
      advance nested
      let operand := (← get).shown
      let value ← assignment nested fuel
      let value ← if joined then combine o old value operand else pure value
      assign nested target value
      return value
termination_by structural fuel

/-- An expression with two alternatives, or another one. -/
def choice (nested : Nested) (fuel : Nat) : Eval Int :=
  match fuel with
  | 0 => fail "syntax error in expression"
  | fuel + 1 => do
    let test ← disjunction nested fuel
    if (← peek) = .sign "?" then
      let yes ← idly (test = 0) do
        advance nested
        match ← peek with
        | .ending => fail "expression expected"
        | .sign ":" => fail "expression expected"
        | _ => sequence nested fuel
      if (← peek) ≠ .sign ":" then fail "\x60:' expected for conditional expression"
      let no ← idly (test ≠ 0) do
        advance nested
        match ← peek with
        | .ending => fail "expression expected"
        | _ => choice nested fuel
      modify fun s => { s with last := .sign "?" }
      return if test = 0 then no else yes
    else return test
termination_by structural fuel

/-- Expressions joined by `||`. -/
def disjunction (nested : Nested) (fuel : Nat) : Eval Int :=
  match fuel with
  | 0 => fail "syntax error in expression"
  | fuel + 1 => do
    let a ← conjunction nested fuel
    disjunctionTail nested fuel a
termination_by structural fuel

/-- What follows a first part of a disjunction. -/
def disjunctionTail (nested : Nested) (fuel : Nat) (a : Int) : Eval Int :=
  match fuel with
  | 0 => return a
  | fuel + 1 => do
    if (← peek) = .sign "||" then
      let b ← idly (a ≠ 0) do
        advance nested
        conjunction nested fuel
      modify fun s => { s with last := .sign "||" }
      disjunctionTail nested fuel (ofBool (a ≠ 0 || b ≠ 0))
    else return a
termination_by structural fuel

/-- Expressions joined by `&&`. -/
def conjunction (nested : Nested) (fuel : Nat) : Eval Int :=
  match fuel with
  | 0 => fail "syntax error in expression"
  | fuel + 1 => do
    let a ← ranked nested fuel levels
    conjunctionTail nested fuel a
termination_by structural fuel

/-- What follows a first part of a conjunction. -/
def conjunctionTail (nested : Nested) (fuel : Nat) (a : Int) : Eval Int :=
  match fuel with
  | 0 => return a
  | fuel + 1 => do
    if (← peek) = .sign "&&" then
      let b ← idly (a = 0) do
        advance nested
        ranked nested fuel levels
      modify fun s => { s with last := .sign "&&" }
      conjunctionTail nested fuel (ofBool (a ≠ 0 && b ≠ 0))
    else return a
termination_by structural fuel

/-- Operands with operators of some levels between them. -/
def ranked (nested : Nested) (fuel : Nat) (below : List (List String)) : Eval Int :=
  match fuel with
  | 0 => fail "syntax error in expression"
  | fuel + 1 => do
    match below with
    | [] => powers nested fuel
    | level :: below =>
      let a ← ranked nested fuel below
      rankedTail nested fuel level below a
termination_by structural fuel

/-- What follows a first operand. -/
def rankedTail (nested : Nested) (fuel : Nat) (level : List String) (below : List (List String))
    (a : Int) : Eval Int :=
  match fuel with
  | 0 => return a
  | fuel + 1 => do
    match signOf level (← peek) with
    | some o =>
      let operand := (← get).rest
      advance nested
      let b ← ranked nested fuel below
      let a ← combine o a b operand
      settle
      rankedTail nested fuel level below a
    | none => return a
termination_by structural fuel

/-- Operands with the sign of powers between them. -/
def powers (nested : Nested) (fuel : Nat) : Eval Int :=
  match fuel with
  | 0 => fail "syntax error in expression"
  | fuel + 1 => do
    let a ← operand nested fuel
    if (← peek) = .sign "**" then
      advance nested
      let n ← powers nested fuel
      settle
      if n < 0 then fail "exponent less than 0"
      return power a 64 n.toNat
    else return a
termination_by structural fuel

/-- An expression without operators between its parts. -/
def operand (nested : Nested) (fuel : Nat) : Eval Int :=
  match fuel with
  | 0 => fail "syntax error in expression"
  | fuel + 1 => do
    match ← peek with
    | .sign "!" =>
      advance nested
      let n ← operand nested fuel
      settle
      return ofBool (n = 0)
    | .sign "~" =>
      advance nested
      let n ← operand nested fuel
      settle
      return wrap (-n - 1)
    | .sign "-" =>
      advance nested
      let n ← operand nested fuel
      settle
      return wrap (-n)
    | .sign "+" =>
      advance nested
      let n ← operand nested fuel
      settle
      return n
    | .before step =>
      advance nested
      let s ← get
      if s.current ≠ .name then fail "identifier expected after pre-increment or pre-decrement"
      let n := wrap (s.value + step)
      assign nested (s.target.getD ("", none)) n
      modify fun s => { s with current := .number }
      advance nested
      return n
    | .sign "(" =>
      advance nested
      let n ← sequence nested fuel
      if (← peek) ≠ .sign ")" then fail "missing \x60)'"
      advance nested
      return n
    | .number =>
      let n := (← get).value
      advance nested
      return n
    | .name =>
      let s ← get
      let n := s.value
      let step : Int :=
        match s.rest.dropWhile isBlank with
        | '+' :: '+' :: _ => 1
        | '-' :: '-' :: _ => -1
        | _ => 0
      if step ≠ 0 then
        assign nested (s.target.getD ("", none)) (wrap (n + step))
        modify fun s =>
          { s with rest := (s.rest.dropWhile isBlank).drop 2, current := .number }
      advance nested
      return n
    | _ => fail "syntax error: operand expected"
termination_by structural fuel

end

/-- The value of an expression whose parameters are evaluated at most so many times one inside the
other, with the session in which its assignments have been made. -/
def evaluateText (now : Instant) : Nat → Nested
  | 0, _, text => .error (.near text "expression recursion level exceeded" text)
  | depth + 1, s, text =>
    if text.toList.all isBlank then .ok (0, s)
    else
      let nested := evaluateText now depth
      let whole : Eval Int := do
        advance nested
        let n ← sequence nested (24 * text.length + 60)
        if (← peek) ≠ .ending then fail "syntax error in expression"
        return n
      match whole ⟨s, now, text, text.toList, text.toList, .ending, .ending, none, 0, 0⟩ with
      | .ok (n, after) => .ok (n, after.session)
      | .error e => .error e

/-- The value of an expression, with the session in which its assignments have been made. -/
def evaluate (s : Session) (now : Instant) (expression : String) : Except Fault Int × Session :=
  match evaluateText now 1024 s expression with
  | .ok (n, s) => (.ok n, s)
  | .error e => (.error e, s)

end CrossBench.Shell.Arithmetic.Extended
