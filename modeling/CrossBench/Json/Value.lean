import CrossBench.Decimal.Shortest

/-!
# JSON documents

A `Json.Value` is a document with the order of its keys. `Json.Value.pretty` writes it with one item
a line and two blanks of indentation for each level; empty lists and objects stay on one line.

* Text stands between quotes. Quotes, backslashes and control characters below U+0020 are escaped,
  the common ones by a letter and the others by four hexadecimal digits; everything else is written
  as it is.
* A double is the shortest decimal that reads back. It is written positionally from `1e-5` up to,
  but not including, `1e16`, and always shows a point or an exponent. What is not a number, and
  what is not finite, is `null`.
-/

namespace CrossBench.Json

/-- A JSON document. -/
inductive Value where
  | null
  | nat (n : Nat)
  | number (x : Float)
  | string (s : String)
  | array (items : List Value)
  | object (fields : List (String × Value))
  deriving Inhabited

/-- Doubles stay positional while the point is at most four zeros before the first digit or sixteen
digits behind it. -/
def numberLayout : Decimal.Layout := ⟨-4, 16, "+"⟩

/-- A double. -/
def numeral (x : Float) : List Char :=
  match Decimal.Reading.ofFloat x with
  | .finite negative m q =>
    (if negative then ['-'] else [])
      ++ (if m = 0 then ['0', '.', '0'] else (numberLayout.text (Decimal.shortest m q)).toList)
  | _ => ['n', 'u', 'l', 'l']

/-- One character inside quotes. -/
def escape (c : Char) : List Char :=
  if c = '"' then ['\\', '"']
  else if c = '\\' then ['\\', '\\']
  else if c = '\n' then ['\\', 'n']
  else if c = '\r' then ['\\', 'r']
  else if c = '\t' then ['\\', 't']
  else if c.toNat = 0x08 then ['\\', 'b']
  else if c.toNat = 0x0C then ['\\', 'f']
  else if c.toNat < 0x20 then
    ['\\', 'u', '0', '0', Nat.digitChar (c.toNat / 16), Nat.digitChar (c.toNat % 16)]
  else [c]

/-- A text in quotes. -/
def quoted (s : String) : List Char := '"' :: s.toList.flatMap escape ++ ['"']

/-- The start of a line at this depth. -/
def lineBreak (depth : Nat) : List Char := '\n' :: List.replicate (2 * depth) ' '

namespace Value

mutual

/-- A value whose first line stands at the given depth. -/
def render (depth : Nat) : Value → List Char
  | .null => ['n', 'u', 'l', 'l']
  | .nat n => Nat.toDigits 10 n
  | .number x => numeral x
  | .string s => quoted s
  | .array [] => ['[', ']']
  | .array (item :: rest) =>
    '[' :: lineBreak (depth + 1) ++ render (depth + 1) item ++ renderItems (depth + 1) rest
      ++ lineBreak depth ++ [']']
  | .object [] => ['{', '}']
  | .object ((key, value) :: rest) =>
    '{' :: lineBreak (depth + 1) ++ quoted key ++ [':', ' '] ++ render (depth + 1) value
      ++ renderFields (depth + 1) rest ++ lineBreak depth ++ ['}']
termination_by structural value => value

/-- The items after the first one, each with the comma in front of it. -/
def renderItems (depth : Nat) : List Value → List Char
  | [] => []
  | item :: rest => ',' :: lineBreak depth ++ render depth item ++ renderItems depth rest
termination_by structural items => items

/-- The fields after the first one, each with the comma in front of it. -/
def renderFields (depth : Nat) : List (String × Value) → List Char
  | [] => []
  | (key, value) :: rest =>
    ',' :: lineBreak depth ++ quoted key ++ [':', ' '] ++ render depth value
      ++ renderFields depth rest
termination_by structural fields => fields

end

/-- A whole document. -/
def pretty (value : Value) : String := String.ofList (value.render 0)

end Value

end CrossBench.Json
