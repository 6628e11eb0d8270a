import CrossBench.Toml.Number
import CrossBench.Toml.Text
import CrossBench.Toml.Value

/-!
# Reading a document

`Toml.document?` reads a whole text: lines that bind keys, lines that open tables, comments and empty
lines, behind an optional byte order mark. It answers the fields of the document, or nothing if the
text is no document.

Arrays and inline tables may be nested `nestingLimit` deep; the depth that is left is the argument on
which the reader of values recurs. A dotted key has at most as many parts.
-/

namespace CrossBench.Toml

open Reader

/-- How deep values may be nested, and how many parts a key may have. -/
def nestingLimit : Nat := 79

/-- The characters of a key without quotes. -/
def isBareKeyChar (c : Char) : Bool := c.isAlphanum || c == '_' || c == '-'

/-- One part of a key. -/
def keyPart : Reader String :=
  shortText <|> do
    let first ← satisfy isBareKeyChar
    let rest ← takeWhile isBareKeyChar
    return String.ofList (first :: rest)

/-- One part of a key with the blanks around it. -/
def spacedKeyPart : Reader String := do
  blanks
  let part ← keyPart
  blanks
  return part

/-- A key: the parts before the last one, and the last one. -/
def key : Reader (List String × String) := do
  let first ← spacedKeyPart
  let rest ← many do
    char '.'
    spacedKeyPart
  let parts := first :: rest
  if parts.length ≤ nestingLimit then return (parts.dropLast, rest.getLastD first) else refuse

/-- A key and its value. -/
def binding (value : Reader Value) : Reader ((List String × String) × Value) := do
  let k ← key
  char '='
  blanks
  let v ← value
  return (k, v)

/-- The items of an array, behind its opening bracket. -/
def arrayItems (value : Reader Value) : Reader (List Value) := do
  let item : Reader Value := do
    gaps
    let v ← value
    gaps
    return v
  match ← option item with
  | none => do
    gaps
    char ']'
    return []
  | some first => do
    let rest ← many do
      char ','
      item
    let _ ← option (char ',')
    gaps
    char ']'
    return first :: rest

/-- Adds a binding to an inline table. -/
def addBinding (fields : Fields) (b : (List String × String) × Value) : Option Fields :=
  Fields.bind b.1.1 b.1.2 b.2 .literal fields

/-- The fields of an inline table, behind its opening brace. -/
def inlineFields (value : Reader Value) : Reader Fields := do
  let spaced : Reader ((List String × String) × Value) := do
    let b ← binding value
    blanks
    return b
  match ← option spaced with
  | none => do
    blanks
    char '}'
    return []
  | some first => do
    let rest ← many do
      char ','
      spaced
    blanks
    char '}'
    match (first :: rest).foldlM addBinding [] with
    | some fields => return fields
    | none => refuse

/-- A value that holds no other values. -/
def simpleValue : Reader Value :=
  (do return .string (← text))
    <|> (do return .moment (← moment))
    <|> (do return .float (← float))
    <|> (do return .integer (← integer))
    <|> (do literal ['t', 'r', 'u', 'e']; return .boolean true)
    <|> (do literal ['f', 'a', 'l', 's', 'e']; return .boolean false)

/-- A value whose nesting is limited. -/
def value : Nat → Reader Value
  | 0 => simpleValue
  | depth + 1 =>
    (do char '['; return .array .literal (← arrayItems (value depth)))
      <|> (do char '{'; return .table .literal (← inlineFields (value depth)))
      <|> simpleValue

/-- A line of a document. -/
inductive Line where
  | empty
  | opensTable (path : List String) (key : String)
  | opensElement (path : List String) (key : String)
  | binds (path : List String) (key : String) (value : Value)

/-- A line, with its line break. Blanks may stand in front of it. -/
def line : Reader Line := do
  blanks
  (do literal ['[', '[']
      let (path, k) ← key
      literal [']', ']']
      lineEnd
      return .opensElement path k)
    <|> (do char '['
            let (path, k) ← key
            char ']'
            lineEnd
            return .opensTable path k)
    <|> (do let ((path, k), v) ← binding (value nestingLimit)
            lineEnd
            return .binds path k v)
    <|> (do lineEnd
            return .empty)

/-- All lines of a text. -/
def lines : Reader (List Line) := do
  let _ ← option (char '\uFEFF')
  let found ← many line
  blanks
  atEnd
  return found

/-- The document with one more line. The path leads to the table that the last header opened. -/
def addLine (state : List String × Fields) : Line → Option (List String × Fields)
  | .empty => some state
  | .opensTable path key => (state.2.openTable path key).map fun d => (path ++ [key], d)
  | .opensElement path key => (state.2.openElement path key).map fun d => (path ++ [key], d)
  | .binds path key value => (state.2.assign state.1 path key value).map fun d => (state.1, d)

/-- The fields of the document that a text spells. -/
def document? (text : String) : Option Fields := do
  let (lines, _) ← lines.read text.toList
  let (_, fields) ← lines.foldlM addLine ([], [])
  return fields

end CrossBench.Toml
