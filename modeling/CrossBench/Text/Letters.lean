/-!
# Characters of several bytes, and their kinds

A text is a row of bytes, and in most languages one character may take several of them. `units` divides
a text into its characters; a byte that belongs to none is a unit by itself. `decode` puts a single
character in place of each unit, so that whatever looks at characters one by one can be applied to the
text, and `narrow` is the way back. Where every byte is a character, those of the second half are no
letters, and it puts strays in their places.

Lists in brackets name single characters, ranges of characters, and kinds of characters that have a
name. A byte that belongs to no character is of no kind.
-/

namespace CrossBench.Letters

/-- How many bytes follow the first one of a character. -/
def following (c : Char) : Nat :=
  let n := c.toNat
  if n < 0xC2 then 0 else if n < 0xE0 then 1 else if n < 0xF0 then 2 else if n < 0xF5 then 3 else 0

/-- Whether a second byte may follow a first one. -/
def mayFollow (first second : Char) : Bool :=
  let a := first.toNat
  let b := second.toNat
  let low := if a = 0xE0 then 0xA0 else if a = 0xF0 then 0x90 else 0x80
  let high := if a = 0xED then 0x9F else if a = 0xF4 then 0x8F else 0xBF
  low ≤ b && b ≤ high

/-- The first unit of a text that begins with a byte, and what follows. -/
def takeUnit (c : Char) (rest : List Char) : List Char × List Char :=
  let n := following c
  let more := rest.take n
  let fits := more.length = n && more.all (fun b => 0x80 ≤ b.toNat && b.toNat ≤ 0xBF) &&
    more.head?.all (mayFollow c)
  if fits then (c :: more, rest.drop n) else ([c], rest)

/-- The units of a text; `n` of them at most. -/
def unitsUpTo : Nat → List Char → List (List Char)
  | 0, _ => []
  | _, [] => []
  | n + 1, c :: rest =>
    let (unit, after) := takeUnit c rest
    unit :: unitsUpTo n after

/-- The units of a text. -/
def units (cs : List Char) : List (List Char) :=
  if cs.all fun c => c.toNat < 0x80 then cs.map ([·]) else unitsUpTo cs.length cs

/-- Where the characters are that stand for bytes which belong to no character. -/
def strayBase : Nat := 0x10FF00

/-- The character that a unit is. -/
def charOf (unit : List Char) : Char :=
  let n (c : Char) : Nat := c.toNat % 64
  match unit with
  | [c] => if c.toNat < 0x80 || 0xFF < c.toNat then c else Char.ofNat (strayBase + c.toNat)
  | [a, b] => Char.ofNat (a.toNat % 32 * 64 + n b)
  | [a, b, c] => Char.ofNat ((a.toNat % 16 * 64 + n b) * 64 + n c)
  | [a, b, c, d] => Char.ofNat (((a.toNat % 8 * 64 + n b) * 64 + n c) * 64 + n d)
  | _ => ' '

/-- The bytes of a character, one character each. -/
def bytesOf (c : Char) : List Char :=
  if strayBase ≤ c.toNat then [Char.ofNat (c.toNat - strayBase)]
  else (String.utf8EncodeChar c).map fun b => Char.ofNat b.toNat

/-- A text as characters that can be told apart: those of several bytes if it is `wide`. -/
def decode (wide : Bool) (cs : List Char) : List Char :=
  if cs.all fun c => c.toNat < 0x80 then cs
  else if wide then (unitsUpTo cs.length cs).map charOf
  else cs.map fun c => if c.toNat < 0x80 then c else Char.ofNat (strayBase + c.toNat)

/-- The bytes of characters, one character each. -/
def narrow (cs : List Char) : List Char :=
  if cs.all fun c => c.toNat < 0x80 then cs else cs.flatMap bytesOf

/-- The same for a text that comes with something for each byte. What comes with the first byte of a
unit is kept. -/
def decodeWith {α : Type} (wide : Bool) (text : List (Char × α)) : List (Char × α) :=
  let rec go : Nat → List (Char × α) → List (Char × α)
    | 0, _ => []
    | _, [] => []
    | n + 1, (c, a) :: rest =>
      let unit := if wide then (takeUnit c ((rest.take 3).map (·.1))).1 else [c]
      (charOf unit, a) :: go n (rest.drop (unit.length - 1))
  if text.all fun (c, _) => c.toNat < 0x80 then text else go text.length text

/-- The character of a number, as a text. -/
def encoded (code : Nat) : List Char := bytesOf (Char.ofNat code)

/-- Whether a unit is a character that can be printed. -/
def isPrintable (unit : List Char) : Bool :=
  match unit with
  | [c] => ' ' ≤ c && c ≤ '~'
  | unit => 0xA0 ≤ (charOf unit).toNat

/-- How many cells of a line a character takes that can be printed. -/
def cells (c : Char) : Nat :=
  let n := c.toNat
  let within (ranges : List (Nat × Nat)) : Bool := ranges.any fun r => r.1 ≤ n && n ≤ r.2
  if n < 0x300 then 1
  else if within [(0x300, 0x36F), (0x483, 0x489), (0x591, 0x5BD), (0x610, 0x61A), (0x64B, 0x65F), (0x1AB0, 0x1AFF),
      (0x1DC0, 0x1DFF), (0x200B, 0x200F), (0x202A, 0x202E), (0x2060, 0x2064), (0x20D0, 0x20F0), (0x3099, 0x309A),
      (0xFE00, 0xFE0F), (0xFE20, 0xFE2F), (0xFEFF, 0xFEFF), (0xE0100, 0xE01EF)] then 0
  else if within [(0x1100, 0x115F), (0x231A, 0x231B), (0x2329, 0x232A), (0x23E9, 0x23EC), (0x2614, 0x2615),
      (0x2648, 0x2653), (0x26A1, 0x26A1), (0x26BD, 0x26BE), (0x2705, 0x2705), (0x270A, 0x270B), (0x2728, 0x2728),
      (0x274C, 0x274C), (0x2753, 0x2755), (0x2795, 0x2797), (0x2B1B, 0x2B1C), (0x2B50, 0x2B50), (0x2E80, 0x303E),
      (0x3041, 0x33FF), (0x3400, 0x4DBF), (0x4E00, 0xA4CF), (0xA960, 0xA97F), (0xAC00, 0xD7A3), (0xF900, 0xFAFF),
      (0xFE30, 0xFE6F), (0xFF01, 0xFF60), (0xFFE0, 0xFFE6), (0x1F300, 0x1F320), (0x1F32D, 0x1F335),
      (0x1F337, 0x1F37C), (0x1F37E, 0x1F393), (0x1F3A0, 0x1F3CA), (0x1F3E0, 0x1F3F0), (0x1F400, 0x1F43E),
      (0x1F440, 0x1F440), (0x1F442, 0x1F4FC), (0x1F4FF, 0x1F53D), (0x1F550, 0x1F567), (0x1F5FB, 0x1F64F),
      (0x1F680, 0x1F6C5), (0x1F900, 0x1F9FF), (0x20000, 0x3FFFD)] then 2
  else 1

/-- The number of cells that a text takes. -/
def width (wide : Bool) (s : String) : Nat :=
  if wide then (units s.toList).foldl (fun n u => n + if isPrintable u then cells (charOf u) else 1) 0
  else s.length

/-- The capital of a small letter, beyond those of one byte too. -/
def toUpper (c : Char) : Char :=
  let n := c.toNat
  if n < 0x80 then c.toUpper
  else if (0xE0 ≤ n && n ≤ 0xFE && n ≠ 0xF7) then Char.ofNat (n - 32)
  else if n = 0xFF then Char.ofNat 0x178
  else if n = 0xB5 then Char.ofNat 0x39C
  else if (0x100 ≤ n && n ≤ 0x137) || (0x14A ≤ n && n ≤ 0x177) then
    if n = 0x131 then 'I' else Char.ofNat (n - n % 2)
  else if (0x139 ≤ n && n ≤ 0x148) || (0x179 ≤ n && n ≤ 0x17E) then Char.ofNat (n - (n + 1) % 2)
  else if 0x3B1 ≤ n && n ≤ 0x3C9 && n ≠ 0x3C2 then Char.ofNat (n - 32)
  else if n = 0x3C2 then Char.ofNat 0x3A3
  else if 0x430 ≤ n && n ≤ 0x44F then Char.ofNat (n - 32)
  else if 0x450 ≤ n && n ≤ 0x45F then Char.ofNat (n - 80)
  else c

/-- The small letter of a capital, beyond those of one byte too. -/
def toLower (c : Char) : Char :=
  let n := c.toNat
  if n < 0x80 then c.toLower
  else if (0xC0 ≤ n && n ≤ 0xDE && n ≠ 0xD7) then Char.ofNat (n + 32)
  else if n = 0x178 then Char.ofNat 0xFF
  else if (0x100 ≤ n && n ≤ 0x137) || (0x14A ≤ n && n ≤ 0x177) then
    if n = 0x130 then 'i' else Char.ofNat (n + 1 - n % 2)
  else if (0x139 ≤ n && n ≤ 0x148) || (0x179 ≤ n && n ≤ 0x17E) then Char.ofNat (n + n % 2)
  else if 0x391 ≤ n && n ≤ 0x3A9 && n ≠ 0x3A2 then Char.ofNat (n + 32)
  else if 0x410 ≤ n && n ≤ 0x42F then Char.ofNat (n + 32)
  else if 0x400 ≤ n && n ≤ 0x40F then Char.ofNat (n + 80)
  else c

/-- Whether a character beyond those of one byte is a letter. -/
def isLetter (c : Char) : Bool :=
  let n := c.toNat
  n = 0xAA || n = 0xB5 || n = 0xBA || (0xC0 ≤ n && n ≤ 0x2C1 && n ≠ 0xD7 && n ≠ 0xF7) ||
    (0x370 ≤ n && n < 0x2000 && n ≠ 0x37E && n ≠ 0x387) || (0x2C00 ≤ n && n < 0x2E00) ||
    (0x3005 ≤ n && n ≤ 0x3007) || (0x3040 ≤ n && n < 0xD7FC && n ≠ 0x30FB) ||
    (0xF900 ≤ n && n < 0xFE00) || (0xFE70 ≤ n && n < 0xFEFF) || (0xFF21 ≤ n && n ≤ 0xFF3A) ||
    (0xFF41 ≤ n && n ≤ 0xFF5A) || (0xFF66 ≤ n && n ≤ 0xFFDC) || (0x10000 ≤ n && n < 0x1F000) ||
    (0x20000 ≤ n && n < 0x40000)

/-- A text in capitals. -/
def upper (wide : Bool) (s : String) : String :=
  if wide then String.ofList (narrow ((decode true s.toList).map toUpper)) else s.map Char.toUpper

/-- A text in small letters. -/
def lower (wide : Bool) (s : String) : String :=
  if wide then String.ofList (narrow ((decode true s.toList).map toLower)) else s.map Char.toLower

end CrossBench.Letters

/-! ## Kinds -/

namespace CrossBench

/-- What a list in brackets names. -/
inductive Range where
  | between (low high : Char)
  | named (kind : String)
  deriving DecidableEq

/-- Whether a character of several bytes is of a kind that has a name. -/
def isOfWideKind (kind : String) (c : Char) : Bool :=
  let n := c.toNat
  let space : Bool := n = 0x1680 || (0x2000 ≤ n && n ≤ 0x200A && n ≠ 0x2007) || n = 0x2028 ||
    n = 0x2029 || n = 0x205F || n = 0x3000
  let letter := Letters.isLetter c
  match kind with
  | "alpha" => letter
  | "alnum" => letter
  | "word" => letter
  | "upper" => Letters.toLower c != c
  | "lower" => Letters.toUpper c != c || n = 0xDF
  | "space" => space
  | "blank" => space
  | "punct" => 0xA0 ≤ n && !letter && !space
  | "print" => 0xA0 ≤ n
  | "graph" => 0xA0 ≤ n && !space
  | "cntrl" => n < 0xA0
  | _ => false

/-- Whether a character is of a kind that has a name. -/
def isOfKind (kind : String) (c : Char) : Bool :=
  if Letters.strayBase ≤ c.toNat then false
  else if 0x80 ≤ c.toNat then isOfWideKind kind c
  else
  let printable : Bool := ' ' < c && c ≤ '~'
  match kind with
  | "alpha" => c.isAlpha
  | "digit" => c.isDigit
  | "alnum" => c.isAlphanum
  | "upper" => c.isUpper
  | "lower" => c.isLower
  | "space" => c == ' ' || ('\t' ≤ c && c ≤ '\r')
  | "blank" => c == ' ' || c == '\t'
  | "punct" => printable && !c.isAlphanum
  | "print" => c == ' ' || printable
  | "graph" => printable
  | "cntrl" => c < ' ' || c == Char.ofNat 127
  | "xdigit" => c.isDigit || ('a' ≤ c && c ≤ 'f') || ('A' ≤ c && c ≤ 'F')
  | "word" => c.isAlphanum || c == '_'
  | "ascii" => c ≤ Char.ofNat 127
  | _ => false

/-- The kinds of characters that have a name. -/
def kindNames : List String :=
  ["alpha", "digit", "alnum", "upper", "lower", "space", "blank", "punct", "print", "graph", "cntrl",
    "xdigit"]

namespace Range

/-- Whether a character is in a range. -/
def admits (r : Range) (c : Char) : Bool :=
  match r with
  | between low high => low ≤ c && c ≤ high
  | named kind => isOfKind kind c

end Range

end CrossBench
