import CrossBench.Shell.Test
import CrossBench.Tool.Arguments

/-!
# Conditions

The program `test` decides a condition on texts, integers and files. How up to four words are read
depends on how many they are; more of them are read as conditions joined by `-a` and `-o`, of which `-a`
binds closer. Nothing is left undecided: also what cannot change the answer is looked at.
-/

namespace CrossBench.Tool

open Shell Shell.Act

namespace Condition

/-- The words of a condition. -/
abbrev Words := Array String

/-- The word at a place. -/
def word (ws : Words) (i : Nat) : String := ws.getD i ""

/-- Refuses a condition that ends too early. -/
def beyond {α : Type} (ws : Words) : Deciding α := throw ("missing argument after " ++ cited (ws.back?.getD ""))

/-- The integer that a text is, with blanks around it. -/
def integer (s : String) : Deciding Int :=
  let cs := s.toList.dropWhile isBlank
  let sign := if cs.head? = some '-' || cs.head? = some '+' then cs.head? else none
  let digits := (if sign.isSome then cs.drop 1 else cs)
  let ds := digits.takeWhile Char.isDigit
  if ds.isEmpty || !((digits.drop ds.length).all isBlank) then throw ("invalid integer " ++ cited s)
  else
    let n : Int := ds.foldl (fun n c => n * 10 + (c.toNat - 48)) 0
    return if sign = some '-' then -n else n
where
  /-- Whether a character is a blank. -/
  isBlank (c : Char) : Bool := c == ' ' || c == '\t'

/-- Whether a word is an operator between operands. -/
def isBinary (s : String) : Bool :=
  ["=", "==", "!=", "-nt", "-ot", "-ef"].contains s || (comparison? s).isSome

/-- Whether a word looks like an operator in front of an operand. -/
def looksUnary (s : String) : Bool := s.startsWith "-" && s.length = 2

/-- A condition on one operand. -/
def unary (ws : Words) (i : Nat) : Deciding (Bool × Nat) := do
  let s := word ws i
  if !"aerwxNOGfdsScbpLhgkutnz".toList.contains (s.toList.getD 1 ' ') then
    throw (cited s ++ ": unary operator expected")
  else if ws.size ≤ i + 1 then beyond ws
  else
    let operand := word ws (i + 1)
    match s with
    | "-n" => return (operand ≠ "", i + 2)
    | "-z" => return (operand = "", i + 2)
    | "-t" =>
      let _ ← integer operand
      return (false, i + 2)
    | _ => return (← ExceptT.lift (Act.fileTest (s.toList.getD 1 ' ') operand), i + 2)

/-- A condition on two operands; the length of the first is meant if `measured`. -/
def binary (ws : Words) (measured : Bool) (i : Nat) : Deciding (Bool × Nat) := do
  let i := if measured then i + 1 else i
  let operator := word ws (i + 1)
  let measuredRight := i + 3 < ws.size && word ws (i + 2) = "-l"
  let right := if measuredRight then word ws (i + 3) else word ws (i + 2)
  let after := if measuredRight then i + 4 else i + 3
  match comparison? operator with
  | some compare =>
    let value (counted : Bool) (s : String) : Deciding Int :=
      if counted then return (s.length : Int) else integer s
    let a ← value measured (word ws i)
    let b ← value measuredRight right
    return (compare a b, after)
  | none =>
    if (measured || measuredRight) && operator.startsWith "-" then
      throw (operator ++ " does not accept -l")
    else
      let operator := if operator = "==" then "=" else operator
      return ((← ExceptT.lift (textTest? true (word ws i) operator right)).getD false, after)

/-- A condition of one word. -/
def one (ws : Words) (i : Nat) : Bool × Nat := (word ws i ≠ "", i + 1)

/-- A condition of two words. -/
def two (ws : Words) (i : Nat) : Deciding (Bool × Nat) :=
  if word ws i = "!" then return (!(one ws (i + 1)).1, i + 2)
  else if looksUnary (word ws i) then unary ws i
  else beyond ws

mutual

/-- Conditions joined by `-o`. -/
def disjunction (fuel : Nat) (ws : Words) (i : Nat) : Deciding (Bool × Nat) := do
  match fuel with
  | 0 => beyond ws
  | fuel + 1 =>
    if ws.size ≤ i then beyond ws
    else
      let (a, i) ← conjunction fuel ws i
      if word ws i = "-o" && i < ws.size then
        let (b, i) ← disjunction fuel ws (i + 1)
        return (a || b, i)
      else return (a, i)
termination_by structural fuel

/-- Conditions joined by `-a`. -/
def conjunction (fuel : Nat) (ws : Words) (i : Nat) : Deciding (Bool × Nat) := do
  match fuel with
  | 0 => beyond ws
  | fuel + 1 =>
    let (a, i) ← term fuel ws i
    if word ws i = "-a" && i < ws.size then
      let (b, i) ← conjunction fuel ws (i + 1)
      return (a && b, i)
    else return (a, i)
termination_by structural fuel

/-- A condition without others in it, unless it is negated or in parentheses. -/
def term (fuel : Nat) (ws : Words) (i : Nat) : Deciding (Bool × Nat) := do
  match fuel with
  | 0 => beyond ws
  | fuel + 1 =>
    if ws.size ≤ i then beyond ws
    else if word ws i = "!" then
      let (a, i) ← term fuel ws (i + 1)
      return (!a, i)
    else if word ws i = "(" then
      if ws.size ≤ i + 1 then beyond ws
      else
        let left := ws.size - (i + 1)
        let inner := ((ws.toList.drop (i + 2)).takeWhile (· ≠ ")")).length + 1
        let (a, i) ← counted fuel ws (i + 1) (if 4 ≤ inner then left else min inner left)
        if ws.size ≤ i then throw (cited ")" ++ " expected")
        else if word ws i ≠ ")" then throw (cited ")" ++ " expected, found " ++ cited (word ws i))
        else return (a, i + 1)
    else if i + 4 ≤ ws.size && word ws i = "-l" && isBinary (word ws (i + 2)) then binary ws true i
    else if i + 3 ≤ ws.size && isBinary (word ws (i + 1)) then binary ws false i
    else if looksUnary (word ws i) then unary ws i
    else return one ws i
termination_by structural fuel

/-- A condition of so many words. -/
def counted (fuel : Nat) (ws : Words) (i count : Nat) : Deciding (Bool × Nat) := do
  match fuel with
  | 0 => beyond ws
  | fuel + 1 =>
    match count with
    | 0 => return (false, i)
    | 1 => return one ws i
    | 2 => two ws i
    | 3 => three fuel ws i
    | 4 =>
      if word ws i = "!" then
        let (a, i) ← three fuel ws (i + 1)
        return (!a, i)
      else if word ws i = "(" && word ws (i + 3) = ")" then
        let (a, i) ← two ws (i + 1)
        return (a, i + 1)
      else disjunction fuel ws i
    | _ => disjunction fuel ws i
termination_by structural fuel

/-- A condition of three words. -/
def three (fuel : Nat) (ws : Words) (i : Nat) : Deciding (Bool × Nat) := do
  match fuel with
  | 0 => beyond ws
  | fuel + 1 =>
    let middle := word ws (i + 1)
    if isBinary middle then binary ws false i
    else if word ws i = "!" then
      let (a, i) ← two ws (i + 1)
      return (!a, i)
    else if word ws i = "(" && word ws (i + 2) = ")" then
      let (a, i) := one ws (i + 1)
      return (a, i + 1)
    else if ["-a", "-o"].contains middle then disjunction fuel ws i
    else throw (cited middle ++ ": binary operator expected")
termination_by structural fuel

end

/-- Decides the condition that some words are. -/
def decide (words : List String) : Deciding Bool := do
  let ws := words.toArray
  let (answer, i) ← counted (4 * ws.size + 8) ws 0 ws.size
  if i < ws.size then throw ("extra argument " ++ cited (word ws i))
  else return answer

end Condition

/-- Decides a condition. -/
def test : Act Nat := do
  let s ← get
  let bracket := s.title.endsWith "["
  match testWords (if bracket then "[" else "test") s.arguments with
  | .error _ => stop 2 ("missing " ++ cited "]")
  | .ok words =>
    match ← (Condition.decide words).run with
    | .ok true => return 0
    | .ok false => return 1
    | .error why => stop 2 why

end CrossBench.Tool
