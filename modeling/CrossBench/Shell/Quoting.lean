import CrossBench.Shell.Bytes
import CrossBench.Text.Letters

/-!
# Quoting

Texts in the forms in which a script can read them back: in single quotes, in double quotes, with
backslashes, or with the escapes of a quoted text. Whether a character can be printed hangs on whether
characters may take several bytes, which the argument `wide` says.
-/

namespace CrossBench.Shell.Quoting

/-- A text in single quotes. -/
def single (s : String) : String :=
  if s = "'" then "\\'"
  else "'" ++ String.join (s.toList.map fun c => if c = '\'' then "'\\''" else String.singleton c) ++ "'"

/-- A text in single quotes, with those in it between double quotes. -/
def singleDouble (s : String) : String :=
  let rec go : Nat → List Char → String
    | 0, _ => ""
    | fuel + 1, cs =>
      let plain := cs.takeWhile (· != '\'')
      let rest := cs.drop plain.length
      let quotes := rest.takeWhile (· == '\'')
      let after := rest.drop quotes.length
      "'" ++ String.ofList plain ++ "'" ++
        (if quotes.isEmpty then "" else "\"" ++ String.ofList quotes ++ "\"") ++
        (if after.isEmpty then "" else go fuel after)
  go (s.length + 1) s.toList

/-- A text in double quotes. -/
def double (s : String) : String :=
  "\"" ++ String.join (s.toList.map fun c =>
    if c = '"' ∨ c = '\\' ∨ c = '$' ∨ c = '\x60' then "\\" ++ String.singleton c
    else String.singleton c) ++ "\""

/-- A printable character. -/
def isPrintable (c : Char) : Bool := ' ' ≤ c && c ≤ '~'

/-- A number in octal digits, three at least. -/
def octal (n : Nat) : String :=
  let ds := Nat.toDigits 8 n
  String.ofList (List.replicate (3 - ds.length) '0' ++ ds)

/-- A character of a quoted text with escapes. -/
def escaped (c : Char) : String :=
  match c with
  | '\n' => "\\n"
  | '\t' => "\\t"
  | '\r' => "\\r"
  | '\\' => "\\\\"
  | '\'' => "\\'"
  | c =>
    if c = Char.ofNat 7 then "\\a"
    else if c = Char.ofNat 8 then "\\b"
    else if c = Char.ofNat 11 then "\\v"
    else if c = Char.ofNat 12 then "\\f"
    else if c = Char.ofNat 27 then "\\E"
    else if isPrintable c then String.singleton c
    else "\\" ++ octal c.toNat

/-- The characters of a text. -/
def unitsOf (wide : Bool) (s : String) : List (List Char) :=
  if wide then Letters.units s.toList else s.toList.map ([·])

/-- A quoted text with escapes. -/
def withEscapes (wide : Bool) (s : String) : String :=
  "$'" ++ String.join ((unitsOf wide s).map fun unit =>
    if 1 < unit.length && Letters.isPrintable unit then String.ofList unit
    else String.join (unit.map escaped)) ++ "'"

/-- Whether a text has characters that cannot be printed. -/
def needsEscapes (wide : Bool) (s : String) : Bool :=
  (unitsOf wide s).any fun unit => !Letters.isPrintable unit

/-- Whether a text would be read as something else without quotes. -/
def needsQuotes (s : String) : Bool :=
  let cs := s.toList
  let before : List (Option Char) := none :: cs.map some
  (cs.zip before).any fun (c, last) =>
    " \t\n'\"\\|&;()<>!\x7b\x7d*[?]^$\x60".toList.contains c ||
      (c == '~' && (last == none || last == some '=' || last == some ':')) ||
      (c == '#' && (last == none || last == some ' ' || last == some '\t'))

/-- A text as it is, if it can be read so, and in quotes otherwise. -/
def asNeeded (wide : Bool) (s : String) : String :=
  if s = "" then "''"
  else if needsEscapes wide s then withEscapes wide s
  else if needsQuotes s then single s
  else s

/-- A text as it is shown when it is used: in single quotes rather than with escapes. -/
def shown (wide : Bool) (s : String) : String :=
  if s = "" then "''"
  else if needsQuotes s then single s
  else if needsEscapes wide s then withEscapes wide s
  else s

/-- A text in quotes in any case. -/
def reusable (wide : Bool) (s : String) : String :=
  if needsEscapes wide s then withEscapes wide s else single s

/-- A text as it is, or with escapes if it needs them. -/
def displayed (wide : Bool) (s : String) : String :=
  if needsEscapes wide s then withEscapes wide s else s

/-- A text in double quotes, or with escapes if it needs them. -/
def declared (wide : Bool) (s : String) : String :=
  if needsEscapes wide s then withEscapes wide s else double s

/-- A text with a backslash in front of what would be read as something else. -/
def withBackslashes (wide : Bool) (s : String) : String :=
  if s = "" then "''"
  else if needsEscapes wide s then withEscapes wide s
  else
    let cs := s.toList
    let before : List (Option Char) := none :: cs.map some
    String.join ((cs.zip before).map fun (c, last) =>
      if " \t\n'\"\\|&;()<>!\x7b\x7d*[?]^$\x60,".toList.contains c ||
          (c == '~' && (last == none || last == some '=' || last == some ':')) ||
          (c == '#' && last == none) then "\\" ++ String.singleton c
      else String.singleton c)

/-! ## Names in the messages of programs -/

/-- Whether a character of a name is read by a shell as something else. `first` and `only` say where it
stands. -/
def isSpecial (first only : Bool) (c : Char) : Bool :=
  " !\"$&()*;<=>[^\x60|?\\':".toList.contains c || !isPrintable c ||
    (first && (c == '#' || c == '~')) || (only && (c == '\x7b' || c == '\x7d'))

/-- A control character, or one that is no letter of this alphabet, as a shell has it in quotes. -/
def controlText (c : Char) : String :=
  match c with
  | '\n' => "\\n"
  | '\t' => "\\t"
  | '\r' => "\\r"
  | c =>
    if c = Char.ofNat 7 then "\\a"
    else if c = Char.ofNat 8 then "\\b"
    else if c = Char.ofNat 11 then "\\v"
    else if c = Char.ofNat 12 then "\\f"
    else "\\" ++ octal c.toNat

/-- A name in quotes, in a form in which a shell can read it. -/
def piecewise (wide : Bool) (s : String) : String :=
  let harmless (c : Char) : Bool := c.isAlphanum || "%+,-./:@]_\x7b\x7d ' ".toList.contains c
  if s.toList.contains '\'' && s.all harmless then "\"" ++ s ++ "\""
  else
    let (text, _) := (unitsOf wide s).foldl (fun (text, control) unit =>
      if unit = ['\''] then (text ++ "'\\''", false)
      else if Letters.isPrintable unit then
        ((if control then text ++ "''" else text) ++ String.ofList unit, false)
      else
        ((if control then text else text ++ "'$'") ++ String.join (unit.map controlText), true))
      ("'", false)
    text ++ "'"

/-- A text that a message quotes from a call of the program. The marks around it are made quotes when the
message is written. -/
def cited (s : String) : String := "\u2018" ++ s ++ "\u2019"

/-- A name as it is, or in quotes if it would be read as something else. -/
def named (wide : Bool) (s : String) : String :=
  let us := unitsOf wide s
  let special := (us.zipIdx).any fun (unit, i) =>
    match unit with
    | [c] => isSpecial (i = 0) (us.length = 1) c
    | unit => !Letters.isPrintable unit
  if s = "" || special then piecewise wide s else s

/-- A message with the texts that it quotes in the quotes of the language; `wide` says that these are
characters of several bytes. -/
def localized (wide : Bool) (message : String) : String :=
  let opening := '\u2018'
  let closing := '\u2019'
  if !(message.any fun c => c == opening) then message
  else
    let escape (unit : List Char) : String :=
      if unit = ['\\'] then "\\\\"
      else if unit = ['\''] && !wide then "\\'"
      else if Letters.isPrintable unit && (wide || unit.length = 1) then String.ofList unit
      else String.join (unit.map controlText)
    let encode (c : Char) : String := if wide then String.ofList (Letters.bytesOf c) else "'"
    let (text, _) := (Letters.units message.toList).foldl (fun (text, inside) unit =>
      if unit = [opening] then (text ++ encode opening, true)
      else if unit = [closing] then (text ++ encode closing, false)
      else if inside then (text ++ escape unit, inside)
      else (text ++ String.ofList unit, inside)) ("", false)
    text

end CrossBench.Shell.Quoting
