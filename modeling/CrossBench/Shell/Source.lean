import CrossBench.Shell.Statement

/-!
# The text of a script while it is read

A `Source` is what is left of a script, with the number of the line that comes next. A reader of a
part of it is a `Parse`, which answers that part, or the `Fault` for which the script cannot be read
on. The two dialects find a script faulty in the same places, but they say so in different words.

The name of an alias is replaced by its text, which is put in front of what is left; a character that
no byte has marks where that text ends.
-/

namespace CrossBench.Shell

/-- A token: a word, or what stands between words. Behind a word follow the text in which it stands
and its length there. -/
inductive Token where
  | word (w : Word) (text : List Char) (length : Nat)
  | keyword (s : String)
  | operator (s : String)
  | redirection (descriptor : Option Nat) (holder : Option String) (operator : String)
  /-- An expression in double parentheses. -/
  | expression (w : Word)
  | newline
  | ending

/-- Why a script cannot be read on. -/
inductive Cause where
  /-- A token where none of its kind can be, and the token that would have to be there, if there is
  only one. -/
  | unexpected (t : Token) (expected : Option String)
  /-- Something that only the plain dialect has words for. -/
  | refused (why : String)
  /-- The text ends in front of this character. -/
  | unmatched (closing : String)
  /-- The text ends among the elements of an array. -/
  | openArray
  /-- A condition in double brackets that is none, with the words for it. -/
  | condition (notes : List String)

/-- Where and why a script cannot be read on: the lines where the token begins and ends. -/
structure Fault where
  first : Nat
  last : Nat
  cause : Cause

/-- A text that follows behind the line in which its name is given. -/
structure Waiting where
  number : Nat
  delimiter : List Char
  /-- Whether tabs in front of its lines are left out. -/
  strip : Bool
  /-- Whether it is taken as it is. -/
  quoted : Bool
  line : Nat

/-- What is left of a script. -/
structure Source where
  dialect : Dialect
  rest : List Char
  /-- The number of the next line. -/
  line : Nat
  /-- How many characters have been read. -/
  count : Nat
  aliases : List (String × String)
  /-- The aliases whose text is being read. -/
  active : List String
  /-- Whether patterns may have groups. -/
  groups : Bool
  /-- Whether a word that comes next may assign an array. -/
  assignable : Bool
  /-- Whether a word that comes next may be an alias because of the alias in front of it. -/
  aliasNext : Bool
  /-- The documents of the statement that is being read, by number, if they have been read already. -/
  known : List (Nat × Word)
  /-- How many documents have been asked for. -/
  asked : Nat
  waiting : List Waiting
  found : List (Nat × Word)
  /-- What is to be complained of although the script can be read. -/
  warnings : List String
  pushed : Option Token
  /-- The line where the last token began. -/
  tokenLine : Nat
  /-- What is shown otherwise than it is written: from where to where, and as what; the latest
  first. -/
  edits : List (Nat × Nat × String)

/-- A reader of a part of a script. -/
abbrev Parse := StateT Source (Except Fault)

namespace Parse

/-- What follows the text of an alias. -/
def aliasEnd : Char := Char.ofNat 0x100

/-- What follows the text of an alias behind which another alias may come. -/
def openAliasEnd : Char := Char.ofNat 0x101

/-- Gives up. -/
def fail {α : Type} (cause : Cause) : Parse α := fun s => .error ⟨s.tokenLine, s.line, cause⟩

/-- Gives up for a reason that only the plain dialect has words for, or for want of a character. -/
def refuse {α : Type} (why : String) (closing : String) (line : Nat) : Parse α := fun s =>
  match s.dialect with
  | .plain => .error ⟨s.tokenLine, s.line, .refused why⟩
  | .extended => .error ⟨line, line, .unmatched closing⟩

/-- A reader, or another one from the same place if it gives up. -/
def orElse {α : Type} (p q : Parse α) : Parse α := fun s =>
  match p s with
  | .ok r => .ok r
  | .error _ => q s

/-- Takes the next character, whatever it is. -/
def advance : Parse Unit := modify fun s =>
  match s.rest with
  | [] => s
  | c :: rest =>
    { s with rest, count := s.count + 1, line := if c == '\n' then s.line + 1 else s.line }

/-- Takes so many characters. -/
def skip (n : Nat) : Parse Unit := n.forM fun _ _ => advance

/-- The next character. -/
def raw? : Parse (Option Char) := do return (← get).rest.head?

/-- Shows what has been read since a place as another text. -/
def showAs (before : Source) (text : String) : Parse Unit := modify fun s =>
  { s with
    edits := (before.count, s.count, text) :: s.edits.dropWhile fun e => before.count ≤ e.1 }

/-- The text since a place, as it is shown. -/
def writtenSince (before : Source) : Parse String := do
  let s ← get
  let edits := (s.edits.takeWhile fun e => before.count ≤ e.1).reverse
  let (front, place, rest) := edits.foldl (fun (front, place, rest) (first, last, text) =>
    (front ++ [String.ofList (rest.take (first - place)), text], last, rest.drop (last - place)))
    (([], before.count, before.rest) : List String × Nat × List Char)
  return String.join (front ++ [String.ofList (rest.take (s.count - place))])

/-- Forgets what is shown otherwise since a place. -/
def forgetSince (before : Source) : Parse Unit := modify fun s =>
  { s with edits := s.edits.dropWhile fun e => before.count ≤ e.1 }

/-- The next character, behind lines that are joined by a backslash. -/
def joinLines : Nat → Parse Unit
  | 0 => pure ()
  | n + 1 => do
    let s ← get
    match s.rest with
    | '\\' :: '\n' :: _ =>
      skip 2
      showAs s ""
      joinLines n
    | _ => pure ()

/-- The next character, after lines have been joined. -/
def peek? : Parse (Option Char) := do
  let s ← get
  match s.rest with
  | '\\' :: '\n' :: _ => joinLines s.rest.length
  | _ => pure ()
  raw?

/-- Takes the next character if it is this one. -/
def accept (c : Char) : Parse Bool := do
  if (← peek?) = some c then
    advance
    return true
  else return false

/-- Takes characters of a class. -/
def takeWhile (p : Char → Bool) : Parse (List Char) := do
  let s ← get
  let taken := s.rest.takeWhile p
  skip taken.length
  return taken

/-- Takes characters of a class, across joined lines. -/
def takeJoined (p : Char → Bool) : Nat → List Char → Parse (List Char)
  | 0, taken => return taken.reverse
  | n + 1, taken => do
    match ← peek? with
    | some c =>
      if p c then
        advance
        takeJoined p n (c :: taken)
      else return taken.reverse
    | none => return taken.reverse

/-- A name. -/
def name : Parse String := do
  return String.ofList (← takeJoined continuesName (← get).rest.length [])

/-- Whether the script is in the extended dialect. -/
def isExtended : Parse Bool := do return (← get).dialect = .extended

/-- Reads another text by itself. The number of its first line is that of this place. -/
def within {α : Type} (line : Nat) (text : List Char) (p : Parse α) : Parse α := fun s =>
  match p { s with rest := text, line, pushed := none, waiting := [], active := [] } with
  | .error e => .error e
  | .ok (a, inner) =>
    .ok (a, { s with warnings := inner.warnings, asked := inner.asked, found := inner.found })

end Parse

end CrossBench.Shell
