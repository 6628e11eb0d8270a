import CrossBench.Text.Regex.Read
import CrossBench.Tool.Input

/-!
# Computing

`expr` evaluates an expression of which each word is an argument. `factor` takes numbers apart. Small factors
are found by division. What is left is a prime if it behaves as one for a number of bases; otherwise two
members of a sequence of remainders are looked for that agree modulo a factor, which their difference then
has in common with the number.
-/

namespace CrossBench.Tool

open Shell Shell.Act

/-- Words of an expression that have not been read, and the last one that has. -/
structure Words where
  rest : List String
  last : String

/-- What reads an expression and evaluates it; an error is what is said. -/
abbrev Evaluating := StateT Words (Except String)

namespace Evaluating

/-- The integer that a word is. -/
def integer? (s : String) : Option Int :=
  match s.toList with
  | '-' :: ds => if ds ≠ [] && ds.all Char.isDigit then some (-(number ds : Int)) else none
  | ds => if ds ≠ [] && ds.all Char.isDigit then some (number ds) else none
where
  /-- The number that digits spell. -/
  number (ds : List Char) : Nat := ds.foldl (fun n c => n * 10 + (c.toNat - 48)) 0

/-- Whether a value counts as false. -/
def isNull (s : String) : Bool :=
  match s.toList with
  | [] => true
  | '-' :: ds => ds ≠ [] && ds.all (· == '0')
  | ds => ds.all (· == '0')

/-- The integer that a value is. -/
def integer (s : String) : Evaluating Int :=
  match integer? s with
  | some n => return n
  | none => throw "non-integer argument"

/-- The next word, if it is one of some. -/
def taken? (words : List String) : Evaluating (Option String) := do
  let w ← get
  match w.rest with
  | a :: rest =>
    if words.contains a then
      set (⟨rest, a⟩ : Words)
      return some a
    else return none
  | [] => return none

/-- The next word. -/
def next : Evaluating String := do
  let w ← get
  match w.rest with
  | a :: rest =>
    set (⟨rest, a⟩ : Words)
    return a
  | [] => throw ("syntax error: missing argument after " ++ cited w.last)

/-- What a basic expression matches at the beginning of a text. -/
def matched (s expression : String) : Evaluating String := do
  match Regex.parse .basic expression.toList with
  | .error why => throw why
  | .ok r =>
    let subject : Regex.Subject := ⟨s.toList.toArray, false, false, false⟩
    let grouped := 0 < r.groupCount
    match r.matchAt subject 0 with
    | none => return if grouped then "" else "0"
    | some m => return if grouped then String.ofList (m.text subject 1) else toString (m.stop - m.start)

/-- The value of two values and an operator that binds them. -/
def combined (operator a b : String) : Evaluating String := do
  let truth (p : Bool) : String := if p then "1" else "0"
  let order : Ordering :=
    match integer? a, integer? b with
    | some x, some y => compare x y
    | _, _ => if a.toList < b.toList then .lt else if b.toList < a.toList then .gt else .eq
  match operator with
  | "<" => return truth (order == .lt)
  | "<=" => return truth (order != .gt)
  | "=" => return truth (order == .eq)
  | "==" => return truth (order == .eq)
  | "!=" => return truth (order != .eq)
  | ">=" => return truth (order != .lt)
  | ">" => return truth (order == .gt)
  | "+" => return toString ((← integer a) + (← integer b))
  | "-" => return toString ((← integer a) - (← integer b))
  | "*" => return toString ((← integer a) * (← integer b))
  | ":" => matched a b
  | _ =>
    let x ← integer a
    let y ← integer b
    if y = 0 then throw "division by zero"
    else return toString (if operator = "/" then x.tdiv y else x.tmod y)

/-- The operators between values, those that bind least first. -/
def levels : List (List String) :=
  [["|"], ["&"], ["<", "<=", "=", "==", "!=", ">=", ">"], ["+", "-"], ["*", "/", "%"], [":"]]

mutual

/-- Evaluates operators of a level and of those below it. If not `live`, what is read does not count. -/
def level (fuel : Nat) (live : Bool) (operators : List (List String)) : Evaluating String :=
  match fuel with
  | 0 => throw "syntax error"
  | fuel + 1 =>
    match operators with
    | [] => operand fuel live
    | own :: others => do more fuel live own others (← level fuel live others)
termination_by structural fuel

/-- Evaluates what follows a value. -/
def more (fuel : Nat) (live : Bool) (own : List String) (others : List (List String)) (a : String) :
    Evaluating String :=
  match fuel with
  | 0 => throw "syntax error"
  | fuel + 1 => do
    match ← taken? own with
    | none => return a
    | some "|" =>
      let b ← level fuel (live && isNull a) others
      more fuel live own others (if !isNull a then a else if isNull b then "0" else b)
    | some "&" =>
      let b ← level fuel (live && !isNull a) others
      more fuel live own others (if isNull a || isNull b then "0" else a)
    | some operator =>
      let b ← level fuel live others
      more fuel live own others (← if live then combined operator a b else pure "")
termination_by structural fuel

/-- Evaluates a word, a function or what stands in parentheses. -/
def operand (fuel : Nat) (live : Bool) : Evaluating String :=
  match fuel with
  | 0 => throw "syntax error"
  | fuel + 1 => do
    match ← next with
    | "+" => next
    | "length" =>
      let a ← operand fuel live
      return toString a.length
    | "match" =>
      let a ← operand fuel live
      let b ← operand fuel live
      if live then matched a b else return ""
    | "index" =>
      let a ← operand fuel live
      let b ← operand fuel live
      return toString ((a.toList.findIdx? b.toList.contains).elim 0 (· + 1))
    | "substr" =>
      let a ← operand fuel live
      let place ← operand fuel live
      let count ← operand fuel live
      match integer? place, integer? count with
      | some i, some n =>
        return if i ≤ 0 || n ≤ 0 then ""
          else String.ofList ((a.toList.drop (i.toNat - 1)).take n.toNat)
      | _, _ => return ""
    | "(" =>
      let a ← level fuel live levels
      let w ← get
      match w.rest with
      | ")" :: rest =>
        set (⟨rest, ")"⟩ : Words)
        return a
      | [] => throw ("syntax error: expecting ')' after " ++ cited w.last)
      | b :: _ => throw ("syntax error: expecting ')' instead of " ++ cited b)
    | ")" => throw "syntax error: unexpected ')'"
    | a => return a
termination_by structural fuel

end

end Evaluating

/-- Evaluates its arguments. -/
def expr : Act Nat := do
  let arguments := (← get).arguments
  let arguments := if arguments.head? = some "--" then arguments.drop 1 else arguments
  let wide := (← get).isWide
  let arguments := arguments.map fun a => String.ofList (Letters.decode wide a.toList)
  let narrow (s : String) : String := String.ofList (Letters.narrow s.toList)
  if arguments = ["--help"] || arguments = ["--version"] then
    let _ ← given {}
  if arguments.isEmpty then misuse 2 "missing operand"
  else
    match (Evaluating.level (20 * arguments.length + 20) true Evaluating.levels) ⟨arguments, ""⟩ with
    | .error why => stop 2 (narrow why)
    | .ok (value, left) =>
      match left.rest with
      | a :: _ => stop 2 (narrow ("syntax error: unexpected argument " ++ cited a))
      | [] =>
        out (narrow value ++ "\n")
        return if Evaluating.isNull value then 1 else 0

/-! ## Prime factors -/

namespace Factor

/-- A power modulo a number. -/
def powerMod (modulus : Nat) : Nat → Nat → Nat → Nat
  | 0, _, _ => 1 % modulus
  | fuel + 1, base, exponent =>
    if exponent = 0 then 1 % modulus
    else
      let half := powerMod modulus fuel (base * base % modulus) (exponent / 2)
      if exponent % 2 = 1 then half * base % modulus else half

/-- Whether a power, or a square of it, is one below the modulus. -/
def reachesMinusOne (n : Nat) : Nat → Nat → Bool
  | 0, _ => false
  | k + 1, x => x == n - 1 || reachesMinusOne n k (x * x % n)

/-- The odd part of a number, and how often it can be halved. -/
def halved : Nat → Nat → Nat × Nat
  | 0, n => (n, 0)
  | fuel + 1, n =>
    if n % 2 = 0 && n ≠ 0 then
      let (odd, k) := halved fuel (n / 2)
      (odd, k + 1)
    else (n, 0)

/-- The bases for which a number is put to the test. -/
def bases : List Nat := [2, 3, 5, 7, 11, 13, 17, 19, 23, 29, 31, 37, 41, 43, 47, 53]

/-- Whether a number without small factors is a prime, as far as the bases can tell. -/
def isPrime (n : Nat) : Bool :=
  let bits := Nat.log2 n + 1
  let (odd, k) := halved bits (n - 1)
  1 < n && bases.all fun b =>
    b % n = 0 || (let x := powerMod n (bits + 1) (b % n) odd
      x == 1 || reachesMinusOne n k x)

/-- A factor that two members of a sequence have shown, if one is found in so many steps. -/
def search (n c : Nat) : Nat → Nat → Nat → Option Nat
  | 0, _, _ => none
  | fuel + 1, slow, fast =>
    let next (x : Nat) : Nat := (x * x + c) % n
    let slow := next slow
    let fast := next (next fast)
    let d := Nat.gcd (if slow < fast then fast - slow else slow - fast) n
    if d = 1 then search n c fuel slow fast
    else if d = n then none
    else some d

/-- The number of steps that a search may take. -/
def searchFuel : Nat := 400000

/-- A factor of a number that is no prime. -/
def factor? (n : Nat) : Option Nat :=
  [1, 3, 5, 7, 11].findSome? fun c => search n c searchFuel 2 2

/-- The prime factors of a number without small factors. -/
def largeFactors : Nat → Nat → List Nat
  | 0, n => [n]
  | fuel + 1, n =>
    if n < 2 then []
    else if isPrime n then [n]
    else
      match factor? n with
      | none => [n]
      | some d => largeFactors fuel d ++ largeFactors fuel (n / d)

/-- The factors of a number that are found by division from `d` on, and what is left of it. -/
def smallFactors : Nat → Nat → Nat → List Nat × Nat
  | 0, _, n => ([], n)
  | fuel + 1, d, n =>
    if n < d * d then ([], n)
    else if n % d = 0 then
      let (more, rest) := smallFactors fuel d (n / d)
      (d :: more, rest)
    else smallFactors fuel (if d = 2 then 3 else d + 2) n

/-- The numbers by which it is divided. -/
def divisionFuel : Nat := 4000

/-- The prime factors of a number, in their order. -/
def factorsOf (n : Nat) : List Nat :=
  if n < 2 then []
  else
    let (small, rest) := smallFactors (divisionFuel + Nat.log2 n) 2 n
    let large :=
      if rest = 1 then []
      else if rest < divisionFuel * divisionFuel then [rest]
      else largeFactors (Nat.log2 rest + 1) rest
    small ++ large.mergeSort fun a b => decide (a ≤ b)

end Factor

/-- Prints the prime factors of numbers. -/
def factor : Act Nat := do
  let g ← given { letters := "h", words := [("exponents", "h")] }
  let words ←
    if g.operands.isEmpty then do
      match ← readAll 0 with
      | .ok bytes =>
        let parts := (charsOf bytes).splitBy fun a b => isSpace a == isSpace b
        pure ((parts.filter fun p => !p.any isSpace).map String.ofList)
      | .error _ => pure []
    else pure g.operands
  forAll words fun word => do
    let digits := word.toList.dropWhile fun c => c == ' '
    let digits := if digits.head? = some '+' then digits.drop 1 else digits
    match decimal? (String.ofList digits) with
    | none =>
      say (cited word ++ " is not a valid positive integer")
      return false
    | some n =>
      let factors := Factor.factorsOf n
      let texts :=
        if g.has "h" then
          (factors.splitBy (· == ·)).map fun run =>
            toString (run.headD 0) ++ if run.length = 1 then "" else "^" ++ toString run.length
        else factors.map toString
      out (toString n ++ ":" ++ String.join (texts.map (" " ++ ·)) ++ "\n")
      return true

end CrossBench.Tool
