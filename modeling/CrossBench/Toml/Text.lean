import CrossBench.Text.Reader

/-!
# Blanks, comments and texts in quotes

There are four ways to write a text. Double quotes allow escapes and single quotes do not; three
quotes in place of one allow line breaks. A line break right behind three opening quotes does not
belong to the text, up to two quotes may stand next to the closing ones, and every line break reads
as a line feed. Between three double quotes a backslash at the end of a line swallows the line break
and all blanks and line breaks after it.

The functions on character lists below read up to the closing quotes and answer the text and what
follows. They gather what they have read, the last character first.
-/

/-!
## What stands between the values of a document

Blanks are spaces and tabs. A line ends with a line feed, which a carriage return may precede, and a
comment reaches up to the end of its line.
-/

namespace CrossBench.Toml

open Reader

/-- Takes blanks and tabs. -/
def blanks : Reader Unit := do
  let _ ← takeWhile fun c => c == ' ' || c == '\t'

/-- Takes a line break: a line feed, or a carriage return and a line feed. -/
def lineBreak : Reader Unit := char '\n' <|> literal ['\r', '\n']

/-- The characters that a comment may hold: all but control characters other than the tab. -/
def isCommentChar (c : Char) : Bool := c == '\t' || (0x20 ≤ c.toNat && c.toNat ≠ 0x7F)

/-- Takes a comment, up to the end of its line. -/
def comment : Reader Unit := do
  char '#'
  let _ ← takeWhile isCommentChar

/-- Takes what may stand at the end of a line, and the line break unless the text ends there. -/
def lineEnd : Reader Unit := do
  blanks
  let _ ← option comment
  lineBreak <|> atEnd

/-- Takes one of the things that may stand between the items of an array. -/
def gap : Reader Unit :=
  (do let _ ← satisfy fun c => c == ' ' || c == '\t') <|> lineBreak <|> (do comment; lineBreak)

/-- Takes blanks, line breaks and comments. -/
def gaps : Reader Unit := do
  let _ ← many gap

end CrossBench.Toml

namespace CrossBench.Toml

open Reader

/-- The value of hexadecimal digits. -/
def hexValue? (digits : List Char) : Option Nat :=
  digits.foldlM (fun n c =>
    if c.isDigit then some (n * 16 + (c.toNat - 48))
    else if 'a' ≤ c ∧ c ≤ 'f' then some (n * 16 + (c.toNat - 87))
    else if 'A' ≤ c ∧ c ≤ 'F' then some (n * 16 + (c.toNat - 55))
    else none) 0

/-- The character whose number is written in hexadecimal digits. Surrogates are no characters. -/
def escapedChar? (digits : List Char) : Option Char := do
  let n ← hexValue? digits
  if n.isValidChar then some (Char.ofNat n) else none

/-- The character that a backslash and one letter stand for. -/
def letterEscape? : Char → Option Char
  | 'b' => some '\x08'
  | 't' => some '\t'
  | 'n' => some '\n'
  | 'f' => some '\x0c'
  | 'r' => some '\r'
  | '"' => some '"'
  | '\\' => some '\\'
  | _ => none

/-- The characters that a text may hold: the tab, and all others but the control characters. -/
def isTextChar (c : Char) : Bool := c == '\t' || (0x20 ≤ c.toNat && c.toNat != 0x7F)

/-- Behind a double quote. -/
def basicText (read : List Char) : List Char → Option (List Char × List Char)
  | '"' :: rest => some (read.reverse, rest)
  | '\\' :: 'u' :: a :: b :: c :: d :: rest =>
    match escapedChar? [a, b, c, d] with
    | some x => basicText (x :: read) rest
    | none => none
  | '\\' :: 'U' :: a :: b :: c :: d :: e :: f :: g :: h :: rest =>
    match escapedChar? [a, b, c, d, e, f, g, h] with
    | some x => basicText (x :: read) rest
    | none => none
  | '\\' :: c :: rest =>
    match letterEscape? c with
    | some x => basicText (x :: read) rest
    | none => none
  | c :: rest => if isTextChar c && c != '\\' then basicText (c :: read) rest else none
  | [] => none

/-- Behind a single quote. -/
def literalText (read : List Char) : List Char → Option (List Char × List Char)
  | '\'' :: rest => some (read.reverse, rest)
  | c :: rest => if isTextChar c then literalText (c :: read) rest else none
  | [] => none

/-- Whether only blanks stand between here and the next line break. -/
def lineEndsHere : List Char → Bool
  | '\n' :: _ => true
  | '\r' :: '\n' :: _ => true
  | c :: rest => (c == ' ' || c == '\t') && lineEndsHere rest
  | [] => false

/-- Behind three double quotes. While `swallowing`, blanks and line breaks are passed over. -/
def longBasicText (read : List Char) (swallowing : Bool) :
    List Char → Option (List Char × List Char)
  | '"' :: '"' :: '"' :: '"' :: '"' :: rest => some (('"' :: '"' :: read).reverse, rest)
  | '"' :: '"' :: '"' :: '"' :: rest => some (('"' :: read).reverse, rest)
  | '"' :: '"' :: '"' :: rest => some (read.reverse, rest)
  | '\\' :: 'u' :: a :: b :: c :: d :: rest =>
    match escapedChar? [a, b, c, d] with
    | some x => longBasicText (x :: read) false rest
    | none => none
  | '\\' :: 'U' :: a :: b :: c :: d :: e :: f :: g :: h :: rest =>
    match escapedChar? [a, b, c, d, e, f, g, h] with
    | some x => longBasicText (x :: read) false rest
    | none => none
  | '\\' :: c :: rest =>
    match letterEscape? c with
    | some x => longBasicText (x :: read) false rest
    | none => if lineEndsHere (c :: rest) then longBasicText read true (c :: rest) else none
  | '\r' :: '\n' :: rest =>
    if swallowing then longBasicText read true rest else longBasicText ('\n' :: read) false rest
  | c :: rest =>
    if swallowing && (c == ' ' || c == '\t' || c == '\n') then longBasicText read true rest
    else if (isTextChar c && c != '\\') || c == '\n' then longBasicText (c :: read) false rest
    else none
  | [] => none

/-- Behind three single quotes. -/
def longLiteralText (read : List Char) : List Char → Option (List Char × List Char)
  | '\'' :: '\'' :: '\'' :: '\'' :: '\'' :: rest => some (('\'' :: '\'' :: read).reverse, rest)
  | '\'' :: '\'' :: '\'' :: '\'' :: rest => some (('\'' :: read).reverse, rest)
  | '\'' :: '\'' :: '\'' :: rest => some (read.reverse, rest)
  | '\r' :: '\n' :: rest => longLiteralText ('\n' :: read) rest
  | c :: rest => if isTextChar c || c == '\n' then longLiteralText (c :: read) rest else none
  | [] => none

/-- A text on one line, as a key or a value. -/
def shortText : Reader String :=
  (do char '"'; return String.ofList (← ofFunction (basicText [])))
    <|> (do char '\''; return String.ofList (← ofFunction (literalText [])))

/-- A text in quotes of any kind. -/
def text : Reader String :=
  (do literal ['"', '"', '"']
      let _ ← option lineBreak
      return String.ofList (← ofFunction (longBasicText [] false)))
    <|> (do literal ['\'', '\'', '\'']
            let _ ← option lineBreak
            return String.ofList (← ofFunction (longLiteralText [])))
    <|> shortText

end CrossBench.Toml
