import CrossBench.Shell.Parameters

/-!
# Arithmetic

The numbers of expressions have 64 bits and wrap around. What follows is common to the expressions of
both dialects: operators between two numbers, and the reasons for which an expression has no value.
-/

namespace CrossBench.Shell.Arithmetic

/-- Why an expression has no value. -/
inductive Fault where
  /-- It cannot be read, or an operator has no result. -/
  | because (why : String)
  /-- The same, in an expression, in front of a part of it. -/
  | near (expression why token : String)
  | unset (name : String)
  /-- A value that is no number. -/
  | illegal (value : String)
  | readonly (name : String)
  /-- A number for an element that there cannot be. -/
  | subscript (name : String)

/-- An integer brought into 64 bits. -/
def wrap (n : Int) : Int := n.bmod (Nat.pow 2 64)

/-- An integer as a natural number of 64 bits. -/
def wordOf (n : Int) : Nat := (n % (Nat.pow 2 64 : Nat)).toNat

/-- A truth value as a number. -/
def ofBool (b : Bool) : Int := if b then 1 else 0

/-- The greatest number. -/
def greatest : Int := Nat.pow 2 63 - 1

/-- What an operator makes of two numbers; only division by zero has no result. -/
def combine? (operator : String) (a b : Int) : Option Int :=
  match operator with
  | "|" => some (wrap (wordOf a ||| wordOf b : Nat))
  | "^" => some (wrap (wordOf a ^^^ wordOf b : Nat))
  | "&" => some (wrap (wordOf a &&& wordOf b : Nat))
  | "==" => some (ofBool (a == b))
  | "!=" => some (ofBool (a != b))
  | "<" => some (ofBool (a < b))
  | "<=" => some (ofBool (a ≤ b))
  | ">" => some (ofBool (b < a))
  | ">=" => some (ofBool (b ≤ a))
  | "<<" => some (wrap (a * (Nat.pow 2 (wordOf b % 64) : Nat)))
  | ">>" => some (a / (Nat.pow 2 (wordOf b % 64) : Nat))
  | "+" => some (wrap (a + b))
  | "-" => some (wrap (a - b))
  | "*" => some (wrap (a * b))
  | "/" => if b = 0 then none else some (wrap (a.tdiv b))
  | "%" => if b = 0 then none else some (wrap (a.tmod b))
  | _ => some b

/-- The operators between two numbers, by how close they bind, the loosest first. -/
def levels : List (List String) :=
  [["|"], ["^"], ["&"], ["==", "!="], ["<=", ">=", "<", ">"], ["<<", ">>"], ["+", "-"],
    ["*", "/", "%"]]

/-- The operators that an assignment may be joined with. -/
def joining : List String := ["<<", ">>", "+", "-", "*", "/", "%", "&", "^", "|"]

/-- The value of a digit in any base up to 36. -/
def digitOf (c : Char) : Nat :=
  if c.isDigit then c.toNat - 48
  else if 'a' ≤ c ∧ c ≤ 'z' then c.toNat - 87
  else if 'A' ≤ c ∧ c ≤ 'Z' then c.toNat - 55
  else 99

/-- The number that digits spell in a base. -/
def ofDigits (base : Nat) (digits : List Char) : Nat :=
  digits.foldl (fun n c => n * base + digitOf c) 0

/-- The digits of a number in front of a text, with their base, and the number of characters. A zero
in front asks for octal digits, and `0x` for hexadecimal ones. -/
def literal (cs : List Char) : Nat × Nat :=
  let take (base : Nat) (cs : List Char) : List Char := cs.takeWhile fun c => digitOf c < base
  match cs with
  | '0' :: x :: rest =>
    if (x = 'x' ∨ x = 'X') ∧ take 16 (rest.take 1) ≠ [] then
      let digits := take 16 rest
      (ofDigits 16 digits, 2 + digits.length)
    else
      let digits := take 8 cs
      (ofDigits 8 digits, digits.length)
  | cs =>
    let digits := take 10 cs
    (ofDigits 10 digits, digits.length)

/-- The integer in front of a text, behind white space, if there is one, with what follows. Without a
base the digits say what their base is. -/
def leadingInteger? (base : Option Nat) (cs : List Char) : Option (Int × List Char) :=
  let blank (c : Char) : Bool := c == ' ' || ('\t' ≤ c && c ≤ '\r')
  let cs := cs.dropWhile blank
  let (sign, digits) : Int × List Char :=
    match cs with
    | '-' :: rest => (-1, rest)
    | '+' :: rest => (1, rest)
    | cs => (1, cs)
  let (n, count) :=
    match base with
    | none => literal digits
    | some base =>
      let ds := digits.takeWhile fun c => digitOf c < base
      (ofDigits base ds, ds.length)
  if count = 0 then none else some (sign * n, digits.drop count)

/-- Whether an integer has no more than 64 bits. -/
def fits (n : Int) : Bool := -greatest - 1 ≤ n && n ≤ greatest

/-- The integer that a text spells, with white space around it. -/
def integer? (base : Option Nat) (s : String) : Option Int :=
  match leadingInteger? base s.toList with
  | some (n, rest) =>
    if rest.all (fun c => c == ' ' || ('\t' ≤ c && c ≤ '\r')) && fits n then some n else none
  | none => none

end CrossBench.Shell.Arithmetic
