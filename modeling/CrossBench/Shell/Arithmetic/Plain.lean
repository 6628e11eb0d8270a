import CrossBench.Shell.Arithmetic.Basic

/-!
# Expressions of the plain dialect

An expression is a row of tokens, which are read and evaluated from left to right. What another part
of the expression has already decided about is read but has no effect.
-/

namespace CrossBench.Shell.Arithmetic.Plain

/-- A token of an expression. -/
inductive Token where
  | number (n : Int)
  | name (s : String)
  | operator (s : String)
  | bad
  | ending
  deriving DecidableEq

/-- The operators, longer ones first. -/
def operators : List String :=
  ["<<=", ">>=", "<<", ">>", "<=", ">=", "==", "!=", "&&", "||", "+=", "-=", "*=", "/=", "%=", "&=",
    "^=", "|=", "+", "-", "*", "/", "%", "<", ">", "&", "|", "^", "!", "~", "(", ")", "?", ":", "="]

/-- The tokens of an expression, as far as there are any. -/
def tokens : Nat → List Char → List Token
  | 0, _ => []
  | _, [] => []
  | fuel + 1, c :: rest =>
    if c = ' ' ∨ c = '\t' ∨ c = '\n' then tokens fuel rest
    else if c.isDigit then
      let (n, count) := literal (c :: rest)
      .number (if fits n then n else greatest) :: tokens fuel ((c :: rest).drop count)
    else if startsName c then
      let n := (c :: rest).takeWhile continuesName
      .name (String.ofList n) :: tokens fuel ((c :: rest).drop n.length)
    else
      match operators.find? fun o => o.toList.isPrefixOf (c :: rest) with
      | some o => .operator o :: tokens fuel ((c :: rest).drop o.length)
      | none => [.bad]

/-- An expression while it is evaluated. -/
structure State where
  session : Session
  now : Instant
  tokens : List Token

/-- What evaluates a part of an expression. -/
abbrev Eval := StateT State (Except Fault)

/-- Gives up. -/
def fail {α : Type} (why : String) : Eval α := throw (.because why)

/-- The next token. -/
def peek : Eval Token := do return (← get).tokens.headD .ending

/-- Takes a token. -/
def skip : Eval Unit := modify fun s => { s with tokens := s.tokens.drop 1 }

/-- The number in a parameter. -/
def valueOf (name : String) : Eval Int := do
  let s ← get
  match s.session.value? s.now name with
  | none => if s.session.isOn "nounset" then throw (.unset name) else return 0
  | some v =>
    if v.all fun c => c == ' ' || c == '\t' || c == '\n' then return 0
    else
      match integer? none v with
      | some n => return n
      | none => throw (.illegal v)

/-- Sets a parameter. -/
def assign (name : String) (n : Int) : Eval Unit := do
  let s ← get
  if s.session.isProtected name then throw (.readonly name)
  else set { s with session := s.session.store name none (toString n) }

/-- What an operator makes of two numbers. -/
def combine (operator : String) (a b : Int) : Eval Int :=
  match combine? operator a b with
  | some n => return n
  | none => fail "division by zero"

mutual

/-- An expression, perhaps with an assignment. Nothing happens if it is `idle`. -/
def assignment (fuel : Nat) (idle : Bool) : Eval Int :=
  match fuel with
  | 0 => fail "expecting primary"
  | fuel + 1 => do
    match (← get).tokens with
    | .name n :: .operator o :: _ =>
      let joined := if o = "=" then some "=" else joining.find? fun j => j ++ "=" = o
      match joined with
      | none => choice fuel idle
      | some j =>
        skip
        skip
        let value ← assignment fuel idle
        if idle then return value
        else
          let value ← if o = "=" then pure value else do combine j (← valueOf n) value
          assign n value
          return value
    | _ => choice fuel idle
termination_by structural fuel

/-- An expression with two alternatives, or another one. -/
def choice (fuel : Nat) (idle : Bool) : Eval Int :=
  match fuel with
  | 0 => fail "expecting primary"
  | fuel + 1 => do
    let test ← disjunction fuel idle
    if (← peek) = .operator "?" then
      skip
      let yes ← assignment fuel (idle || test = 0)
      if (← peek) ≠ .operator ":" then fail "expecting ':'"
      skip
      let no ← choice fuel (idle || test ≠ 0)
      return if test = 0 then no else yes
    else return test
termination_by structural fuel

/-- Expressions joined by `||`. -/
def disjunction (fuel : Nat) (idle : Bool) : Eval Int :=
  match fuel with
  | 0 => fail "expecting primary"
  | fuel + 1 => do
    let a ← conjunction fuel idle
    if (← peek) = .operator "||" then
      skip
      let b ← disjunction fuel (idle || a ≠ 0)
      return ofBool (a ≠ 0 || b ≠ 0)
    else return a
termination_by structural fuel

/-- Expressions joined by `&&`. -/
def conjunction (fuel : Nat) (idle : Bool) : Eval Int :=
  match fuel with
  | 0 => fail "expecting primary"
  | fuel + 1 => do
    let a ← ranked fuel idle levels
    if (← peek) = .operator "&&" then
      skip
      let b ← conjunction fuel (idle || a = 0)
      return ofBool (a ≠ 0 && b ≠ 0)
    else return a
termination_by structural fuel

/-- Operands with operators of some levels between them. -/
def ranked (fuel : Nat) (idle : Bool) (below : List (List String)) : Eval Int :=
  match fuel with
  | 0 => fail "expecting primary"
  | fuel + 1 => do
    match below with
    | [] => operand fuel idle
    | level :: below =>
      let a ← ranked fuel idle below
      rankedTail fuel idle level below a
termination_by structural fuel

/-- What follows a first operand. -/
def rankedTail (fuel : Nat) (idle : Bool) (level : List String) (below : List (List String))
    (a : Int) : Eval Int :=
  match fuel with
  | 0 => fail "expecting primary"
  | fuel + 1 => do
    match ← peek with
    | .operator o =>
      if level.contains o then
        skip
        let b ← ranked fuel idle below
        let a ← if idle then pure b else combine o a b
        rankedTail fuel idle level below a
      else return a
    | _ => return a
termination_by structural fuel

/-- An expression without operators between its parts. -/
def operand (fuel : Nat) (idle : Bool) : Eval Int :=
  match fuel with
  | 0 => fail "expecting primary"
  | fuel + 1 => do
    match ← peek with
    | .number n =>
      skip
      return n
    | .name n =>
      skip
      if idle then return 0 else valueOf n
    | .operator "(" =>
      skip
      let n ← assignment fuel idle
      if (← peek) ≠ .operator ")" then fail "expecting ')'"
      skip
      return n
    | .operator "+" =>
      skip
      operand fuel idle
    | .operator "-" =>
      skip
      return wrap (-(← operand fuel idle))
    | .operator "!" =>
      skip
      return ofBool ((← operand fuel idle) = 0)
    | .operator "~" =>
      skip
      return wrap (-(← operand fuel idle) - 1)
    | _ => fail "expecting primary"
termination_by structural fuel

end

/-- The value of an expression, with the session in which its assignments have been made. -/
def evaluate (s : Session) (now : Instant) (expression : String) : Except Fault Int × Session :=
  let tokens := tokens (expression.length + 1) expression.toList
  let whole : Eval Int := do
    let n ← assignment (20 * tokens.length + 40) false
    if (← peek) ≠ .ending then fail "expecting EOF"
    return n
  match whole ⟨s, now, tokens⟩ with
  | .ok (n, after) => (.ok n, after.session)
  | .error e => (.error e, s)

end CrossBench.Shell.Arithmetic.Plain
