import CrossBench.Shell.Word
import CrossBench.Text.Letters

/-!
# Escapes

Programs that print undo escapes behind a backslash, but not all the same ones.
-/

namespace CrossBench.Shell

/-- Which escapes a program undoes. -/
structure Escapes where
  /-- A zero and up to three octal digits. -/
  zeroOctal : Bool
  /-- Up to three octal digits. -/
  octal : Bool
  /-- An `x` and up to two hexadecimal digits. -/
  hex : Bool
  /-- A double quote. -/
  quote : Bool
  /-- A single quote and a question mark. -/
  marks : Bool
  /-- A `c`, behind which nothing is printed any more. -/
  stop : Bool
  /-- A `u` and up to four hexadecimal digits, or a `U` and up to eight: a character by its number. -/
  numbers : Bool
  /-- What is said when the digits behind a letter are missing, if anything is. -/
  fault : Option (Char → String)
  /-- Whether nothing is printed any more when digits are missing. -/
  strict : Bool

namespace Escapes

/-- The escapes in the texts of the plain dialect. -/
def plainText : Escapes := ⟨true, true, false, false, false, true, false, none, false⟩

/-- The escapes in the formats of the plain dialect. -/
def plainFormat : Escapes := ⟨false, true, false, false, false, false, false, none, false⟩

/-- The escapes that `echo` undoes in the extended dialect. -/
def extendedEcho : Escapes := ⟨true, false, true, false, false, true, true, none, false⟩

/-- The complaint of the extended dialect about missing digits. -/
def missingDigits (c : Char) : String :=
  if c = 'x' then "missing hex digit for \\x" else "missing unicode digit for \\" ++ String.singleton c

/-- The escapes in the texts of the extended dialect. -/
def extendedText : Escapes := ⟨true, true, true, false, true, true, true, some missingDigits, false⟩

/-- The escapes in the formats of the extended dialect. -/
def extendedFormat : Escapes := ⟨false, true, true, true, true, false, true, some missingDigits, false⟩

/-- The escapes that the program `echo` undoes. -/
def toolEcho : Escapes := ⟨true, true, true, false, false, true, false, none, false⟩

/-- The complaint of programs about missing digits. -/
def missingNumber (_ : Char) : String := "missing hexadecimal number in escape"

/-- The escapes in the texts of programs. -/
def toolText : Escapes := ⟨true, true, true, true, false, true, true, some missingNumber, true⟩

/-- The escapes in the formats of programs. -/
def toolFormat : Escapes := ⟨false, true, true, true, false, true, true, some missingNumber, true⟩

/-- The character that a letter stands for behind a backslash. -/
def letter? : Char → Option Char
  | 'a' => some (Char.ofNat 7)
  | 'b' => some (Char.ofNat 8)
  | 'e' => some (Char.ofNat 27)
  | 'f' => some (Char.ofNat 12)
  | 'n' => some '\n'
  | 'r' => some '\r'
  | 't' => some '\t'
  | 'v' => some (Char.ofNat 11)
  | '\\' => some '\\'
  | _ => none

/-- What stands for an escape: its characters, how many it has behind the backslash, whether printing
stops there, and what is to be said about it. -/
structure Taken where
  text : List Char
  length : Nat
  stops : Bool
  complaint : Option String

/-- An escape that stands for characters. -/
def Taken.of (text : List Char) (length : Nat) : Taken := ⟨text, length, false, none⟩

/-- What stands for an escape, of which the characters behind the backslash come next. -/
def take (e : Escapes) (wide : Bool) (rest : List Char) : Taken :=
  let digits (count : Nat) (cs : List Char) (p : Char → Bool) : List Char := (cs.take count).takeWhile p
  let missing (c : Char) : Taken :=
    match e.fault with
    | some say => ⟨if e.strict then [] else ['\\', c], 1, e.strict, some (say c)⟩
    | none => .of ['\\', c] 1
  match rest with
  | [] => .of ['\\'] 0
  | c :: more =>
    match letter? c with
    | some d => .of [d] 1
    | none =>
      if c = 'c' ∧ e.stop then ⟨[], 1, true, none⟩
      else if c = '"' ∧ e.quote then .of ['"'] 1
      else if (c = '\'' ∨ c = '?') ∧ e.marks then .of [c] 1
      else if c = '0' ∧ e.zeroOctal then
        let ds := digits 3 more Lexer.isOctalDigit
        .of [Lexer.charOf 8 ds] (1 + ds.length)
      else if Lexer.isOctalDigit c ∧ e.octal then
        let ds := digits 3 rest Lexer.isOctalDigit
        .of [Lexer.charOf 8 ds] ds.length
      else if c = 'x' ∧ e.hex then
        let ds := digits 2 more Lexer.isHexDigit
        if ds.isEmpty then missing 'x' else .of [Lexer.charOf 16 ds] (1 + ds.length)
      else if (c = 'u' ∨ c = 'U') ∧ e.numbers then
        let width := if c = 'u' then 4 else 8
        let ds := digits width more Lexer.isHexDigit
        if ds.isEmpty || (e.strict && ds.length < width) then missing c
        else .of (Lexer.numbered wide (Lexer.digitsValue 16 ds)) (1 + ds.length)
      else .of ['\\', c] 1

/-- A text with its escapes undone, whether printing stops behind it, and what is to be said. -/
def undo (e : Escapes) (wide : Bool) : Nat → List Char → List Char × Bool × List String
  | 0, _ => ([], false, [])
  | _, [] => ([], false, [])
  | fuel + 1, '\\' :: rest =>
    let t := e.take wide rest
    if t.stops then (t.text, true, t.complaint.toList)
    else
      let (more, stop, complaints) := undo e wide fuel (rest.drop t.length)
      (t.text ++ more, stop, t.complaint.toList ++ complaints)
  | fuel + 1, c :: rest =>
    let (more, stop, complaints) := undo e wide fuel rest
    (c :: more, stop, complaints)

/-- A text with its escapes undone, and whether printing stops behind it. -/
def undone (e : Escapes) (wide : Bool) (s : String) : String × Bool :=
  let (cs, stop, _) := e.undo wide (s.length + 1) s.toList
  (String.ofList cs, stop)

end Escapes

/-- What `echo` prints, with escapes undone in it unless there are none. -/
def echoed (wide : Bool) (e : Option Escapes) (newline : Bool) (words : List String) : String :=
  let joined := " ".intercalate words
  let (s, stop) :=
    match e with
    | some e => e.undone wide joined
    | none => (joined, false)
  if newline && !stop then s ++ "\n" else s

/-- What the `echo` of the plain dialect prints. -/
def plainEcho (arguments : List String) : String :=
  match arguments with
  | "-n" :: words => echoed false (some .plainText) false words
  | words => echoed false (some .plainText) true words

/-- What an `echo` with options prints. -/
def optionEcho (wide : Bool) (e : Escapes) (undoes : Bool) (newline : Bool) : List String → String
  | [] => echoed wide (if undoes then some e else none) newline []
  | a :: rest =>
    match a.toList with
    | '-' :: letters =>
      if letters ≠ [] && letters.all (fun c => c == 'n' || c == 'e' || c == 'E') then
        let undoes := letters.foldl (fun u c => if c = 'e' then true else if c = 'E' then false else u) undoes
        optionEcho wide e undoes (newline && !letters.contains 'n') rest
      else echoed wide (if undoes then some e else none) newline (a :: rest)
    | _ => echoed wide (if undoes then some e else none) newline (a :: rest)

end CrossBench.Shell
