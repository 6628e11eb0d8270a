import CrossBench.Decimal.Shortest

/-!
# A reader of JSON

What a JSON text means, by the grammar of JSON.  A text is read in two
passes, each of them a machine that goes from one symbol to the next:

* `Json.Lexer.step` makes tokens of characters.  It drops the blanks between
  them, takes escapes apart, and refuses control characters in a string and
  surrogates that are not a pair.
* `Json.Parser.step` makes a datum of tokens.  It keeps the lists and objects that
  are still open on a stack.

`Json.read?` answers with the datum of a text that is one JSON value, with blanks
around it at most, and with nothing otherwise.  Numbers keep their exact value,
and objects keep all their fields in order.
-/

namespace CrossBench.Json

open Decimal (Scientific)

/-- What a JSON text stands for. -/
inductive Datum where
  | null
  | bool (b : Bool)
  /-- The number `value`, negated if `negative`. -/
  | number (negative : Bool) (value : Scientific)
  | string (s : String)
  | array (items : List Datum)
  | object (fields : List (String × Datum))
  deriving Inhabited

/-- A natural number. -/
def Datum.nat (n : Nat) : Datum := .number false ⟨n, 0⟩

/-- A piece of a JSON text: punctuation, a string, or a word, which is a run of
characters that may stand in a number or in a name such as `null`. -/
inductive Token where
  | openBrace
  | closeBrace
  | openBracket
  | closeBracket
  | comma
  | colon
  | text (s : String)
  | word (cs : List Char)
  deriving DecidableEq

/-! ## Words

The grammar of a number in its three parts: digits, digits behind a point, and an exponent.
All but the first may be missing.
-/

/-- The value of digits that end a word. -/
def natural? (cs : List Char) : Option Nat :=
  if cs ≠ [] ∧ cs.all Char.isDigit then some (Nat.ofDigitChars 10 cs 0) else none

/-- The value of digits that end a word, with a sign in front or not. -/
def integer? : List Char → Option Int
  | '-' :: digits => (natural? digits).map fun (n : Nat) => -(n : Int)
  | '+' :: digits => (natural? digits).map Int.ofNat
  | digits => (natural? digits).map Int.ofNat

/-- The exponent that ends a word, which is zero if there is none. -/
def exponent? : List Char → Option Int
  | [] => some 0
  | mark :: rest => if mark = 'e' ∨ mark = 'E' then integer? rest else none

/-- The digits behind the point, and what is behind them.  A point needs at least
one of them. -/
def fraction? : List Char → Option (List Char × List Char)
  | '.' :: rest =>
      let digits := rest.takeWhile Char.isDigit
      if digits = [] then none else some (digits, rest.dropWhile Char.isDigit)
  | rest => some ([], rest)

/-- Digits that may stand before the point: at least one, and no zero in front of
others. -/
def isWhole : List Char → Bool
  | [] => false
  | '0' :: _ :: _ => false
  | _ => true

/-- The number that a word without a sign stands for. -/
def unsigned? (cs : List Char) : Option Scientific :=
  let whole := cs.takeWhile Char.isDigit
  if isWhole whole then do
    let (fraction, rest) ← fraction? (cs.dropWhile Char.isDigit)
    let exponent ← exponent? rest
    return ⟨Nat.ofDigitChars 10 (whole ++ fraction) 0, exponent - fraction.length⟩
  else none

/-- What a word stands for. -/
def word? : List Char → Option Datum
  | ['n', 'u', 'l', 'l'] => some .null
  | ['t', 'r', 'u', 'e'] => some (.bool true)
  | ['f', 'a', 'l', 's', 'e'] => some (.bool false)
  | '-' :: cs => (unsigned? cs).map (.number true)
  | cs => (unsigned? cs).map (.number false)

/-! ## From characters to tokens

The machine keeps in its mode what it has read of a string or a word.  A character that ends
a word is also the first of what follows.
-/

namespace Lexer

/-- Where the reader of characters is. -/
inductive Mode where
  | between
  | word (read : List Char)
  /-- In a string.  If the last thing read is the first half of a surrogate pair,
  `high` is that half. -/
  | text (read : List Char) (high : Option Nat)
  /-- In a string, behind a backslash. -/
  | escape (read : List Char) (high : Option Nat)
  /-- In a string, with so many hexadecimal digits of an escape still missing. -/
  | unicode (read : List Char) (high : Option Nat) (missing : Nat) (code : Nat)

/-- The characters of words. -/
def wordChar (c : Char) : Bool := c.isAlphanum || c == '+' || c == '-' || c == '.'

/-- A character that is not part of a token under way. -/
def start (c : Char) : Option (List Token × Mode) :=
  match c with
  | ' ' | '\n' | '\r' | '\t' => some ([], .between)
  | '{' => some ([.openBrace], .between)
  | '}' => some ([.closeBrace], .between)
  | '[' => some ([.openBracket], .between)
  | ']' => some ([.closeBracket], .between)
  | ',' => some ([.comma], .between)
  | ':' => some ([.colon], .between)
  | '"' => some ([], .text [] none)
  | c => if wordChar c then some ([], .word [c]) else none

/-- The character that a letter behind a backslash stands for. -/
def unescape? : Char → Option Char
  | '"' => some '"'
  | '\\' => some '\\'
  | '/' => some '/'
  | 'b' => some '\x08'
  | 'f' => some '\x0c'
  | 'n' => some '\n'
  | 'r' => some '\r'
  | 't' => some '\t'
  | _ => none

/-- The value of a hexadecimal digit. -/
def hexDigit? (c : Char) : Option Nat :=
  if '0' ≤ c ∧ c ≤ '9' then some (c.toNat - '0'.toNat)
  else if 'a' ≤ c ∧ c ≤ 'f' then some (c.toNat - 'a'.toNat + 10)
  else if 'A' ≤ c ∧ c ≤ 'F' then some (c.toNat - 'A'.toNat + 10)
  else none

/-- The first half of a surrogate pair. -/
def isHigh (code : Nat) : Bool := 0xD800 ≤ code && code < 0xDC00

/-- The second half of a surrogate pair. -/
def isLow (code : Nat) : Bool := 0xDC00 ≤ code && code < 0xE000

/-- A string behind an escape by code. -/
def unit (read : List Char) (high : Option Nat) (code : Nat) : Option Mode :=
  match high with
  | none =>
      if isHigh code then some (.text read (some code))
      else if isLow code then none
      else some (.text (read ++ [Char.ofNat code]) none)
  | some high =>
      if isLow code then
        let c := Char.ofNat (0x10000 + (high - 0xD800) * 0x400 + (code - 0xDC00))
        some (.text (read ++ [c]) none)
      else none

/-- One character: the tokens that are complete with it, and where the reader is
behind it. -/
def step : Mode → Char → Option (List Token × Mode)
  | .between, c => start c
  | .word read, c =>
      if wordChar c then some ([], .word (read ++ [c]))
      else (start c).map fun (tokens, mode) => (.word read :: tokens, mode)
  | .text read none, c =>
      if c = '"' then some ([.text (String.ofList read)], .between)
      else if c = '\\' then some ([], .escape read none)
      else if c.toNat < 0x20 then none
      else some ([], .text (read ++ [c]) none)
  | .text read (some high), c =>
      if c = '\\' then some ([], .escape read (some high)) else none
  | .escape read high, c =>
      if c = 'u' then some ([], .unicode read high 4 0)
      else if high.isSome then none
      else (unescape? c).map fun c => ([], .text (read ++ [c]) none)
  | .unicode read high missing code, c => do
      let code := code * 16 + (← hexDigit? c)
      if missing ≤ 1 then (unit read high code).map ([], ·)
      else some ([], .unicode read high (missing - 1) code)

/-- The token that the end of the text completes. -/
def finish : Mode → Option (List Token)
  | .between => some []
  | .word read => some [.word read]
  | _ => none

/-- The tokens of the rest of a text. -/
def run : Mode → List Char → Option (List Token)
  | mode, [] => finish mode
  | mode, c :: rest =>
      (step mode c).bind fun (tokens, mode) => (run mode rest).map (tokens ++ ·)

end Lexer

/-! ## From tokens to a datum

There is no recursion on the nesting: the lists and objects that are open are on the stack,
and a value goes to the innermost of them.
-/

namespace Parser

/-- A list or an object that is still open, with what has been read of it. -/
inductive Frame where
  | array (items : List Datum)
  /-- An object that lacks the value of its last key. -/
  | object (fields : List (String × Datum)) (key : String)

/-- What the reader of tokens waits for. -/
inductive State where
  | value (stack : List Frame)
  /-- The first item of a list, or its end. -/
  | firstItem (stack : List Frame)
  /-- What follows an item. -/
  | moreItems (items : List Datum) (stack : List Frame)
  /-- The first key of an object, or its end. -/
  | firstKey (stack : List Frame)
  | key (fields : List (String × Datum)) (stack : List Frame)
  | colon (fields : List (String × Datum)) (key : String) (stack : List Frame)
  /-- What follows a field. -/
  | moreFields (fields : List (String × Datum)) (stack : List Frame)
  | done (datum : Datum)

/-- A value has been read: it goes to the innermost open list or object. -/
def deliver (datum : Datum) : List Frame → State
  | [] => .done datum
  | .array items :: stack => .moreItems (items ++ [datum]) stack
  | .object fields key :: stack => .moreFields (fields ++ [(key, datum)]) stack

/-- The first token of a value. -/
def begin (stack : List Frame) : Token → Option State
  | .openBrace => some (.firstKey stack)
  | .openBracket => some (.firstItem stack)
  | .text s => some (deliver (.string s) stack)
  | .word cs => (word? cs).map (deliver · stack)
  | _ => none

/-- One token. -/
def step : State → Token → Option State
  | .value stack, token => begin stack token
  | .firstItem stack, .closeBracket => some (deliver (.array []) stack)
  | .firstItem stack, token => begin (.array [] :: stack) token
  | .moreItems items stack, .comma => some (.value (.array items :: stack))
  | .moreItems items stack, .closeBracket => some (deliver (.array items) stack)
  | .firstKey stack, .closeBrace => some (deliver (.object []) stack)
  | .firstKey stack, .text key => some (.colon [] key stack)
  | .key fields stack, .text key => some (.colon fields key stack)
  | .colon fields key stack, .colon => some (.value (.object fields key :: stack))
  | .moreFields fields stack, .comma => some (.key fields stack)
  | .moreFields fields stack, .closeBrace => some (deliver (.object fields) stack)
  | _, _ => none

/-- The datum of the rest of the tokens. -/
def run : State → List Token → Option Datum
  | .done datum, [] => some datum
  | _, [] => none
  | state, token :: rest => (step state token).bind (run · rest)

end Parser

/-- **What a text stands for**, if it is one JSON value. -/
def read? (s : String) : Option Datum :=
  (Lexer.run .between s.toList).bind (Parser.run (.value []))

example : read? "[1, -2.50e3, \"\\ud83d\\ude00\"]"
    = some (.array [.nat 1, .number true ⟨250, 1⟩, .string "😀"]) := rfl

example : read? "[1, ]" = none ∧ read? "01" = none ∧ read? "\"\\ud83d\"" = none :=
  ⟨rfl, rfl, rfl⟩

end CrossBench.Json
