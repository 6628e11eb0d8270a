import CrossBench.Decimal.Notation
import CrossBench.Shell.Print.Format
import CrossBench.Text.Radix
import CrossBench.Tool.Input
import CrossBench.Tool.Moment

/-!
# Bytes as numbers and as text

`od` shows bytes as numbers or characters, in lines of so many bytes that begin with where they are. A line
like the one above it is left out. Several kinds of numbers are shown one above the other, so that those of
the same bytes stand in the same columns. Other programs write bytes as the digits of an alphabet and read
them back.
-/

namespace CrossBench.Tool.Dump

open Shell Shell.Act
open Decimal (Reading Magnitude)

/-- What bytes are shown as. -/
inductive Form where
  | signed
  | unsigned
  | octal
  | hexadecimal
  | fraction
  | character
  | named
  deriving DecidableEq

/-- A way to show bytes: as what, how many at a time, and whether the characters stand behind them. -/
structure View where
  kind : Form
  size : Nat
  trailer : Bool

namespace View

/-- The greatest number of characters of a value. -/
def width (v : View) : Nat :=
  match v.kind with
  | .signed => ([(1, 4), (2, 6), (4, 11), (8, 20)].lookup v.size).getD 20
  | .unsigned => ([(1, 3), (2, 5), (4, 10), (8, 20)].lookup v.size).getD 20
  | .octal => ([(1, 3), (2, 6), (4, 11), (8, 22)].lookup v.size).getD 22
  | .hexadecimal => 2 * v.size
  | .fraction => if v.size = 4 then 15 else 24
  | .character => 3
  | .named => 3

/-- The number of digits that a value has at least. -/
def digits (v : View) : Nat :=
  match v.kind with
  | .octal => v.width
  | .hexadecimal => v.width
  | _ => 0

end View

/-- The number that bytes spell, the lowest digit first unless `big`. -/
def numberOf (big : Bool) (bytes : List UInt8) : Nat :=
  (if big then bytes else bytes.reverse).foldl (fun n b => n * 256 + b.toNat) 0

/-- The double or the number of four bytes that bits stand for: its sign, its magnitude, and whether it has
fewer digits than others. -/
def readingOf (size n : Nat) : Bool × Magnitude × Bool :=
  let (bits, low) : Nat × Int := if size = 4 then (23, -149) else (52, -1074)
  let top := size * 8 - 1
  let negative : Bool := n / Nat.pow 2 top = 1
  let most := Nat.pow 2 (top - bits) - 1
  let exponent := n / Nat.pow 2 bits % (most + 1)
  let fraction := n % Nat.pow 2 bits
  if exponent = most then (negative, if fraction = 0 then .infinite else .nan, false)
  else
    let m := if exponent = 0 then fraction else Nat.pow 2 bits + fraction
    let q : Int := low + ((max exponent 1 : Nat) : Int) - 1
    (negative, .quotient (m * Decimal.powerAbove 2 q) (Decimal.powerAbove 2 (-q)), exponent = 0)

/-- Whether the number that digits spell is nearest to a quotient among those of a size. -/
def isNearest (size num den : Nat) (fewer : Bool) (text : String) : Bool :=
  match decimalDigits? text.toList with
  | none => false
  | some (n, e, _) =>
    let a := n * Decimal.powerAbove 10 e
    let b := Decimal.powerAbove 10 (-e)
    if fewer then
      let unit := Nat.pow 2 (if size = 4 then 149 else 1074)
      Decimal.roundDiv (a * unit) b = Decimal.roundDiv (num * unit) den
    else
      let (x, y) := Decimal.nearest (if size = 4 then 24 else 53) a b
      x * den = num * y

/-- The shortest digits that tell a number from its neighbours, from so many digits on. -/
def shortestText (size num den : Nat) (fewer : Bool) : Nat → Nat → String
  | 0, digits => Decimal.generalText false digits num den
  | n + 1, digits =>
    let text := Decimal.generalText false digits num den
    if isNearest size num den fewer text then text else shortestText size num den fewer n (digits + 1)

/-- A number with a fraction as a text. -/
def fractionText (size n : Nat) : String :=
  let (negative, m, fewer) := readingOf size n
  let sign := if negative then "-" else ""
  match m with
  | .nan => sign ++ "nan"
  | .infinite => sign ++ "inf"
  | .quotient num den =>
    sign ++ (if num = 0 then "0"
      else shortestText size num den fewer 17 (if fewer then 1 else if size = 4 then 6 else 15))

/-- The names of the characters that cannot be seen. -/
def controlNames : List String :=
  ["nul", "soh", "stx", "etx", "eot", "enq", "ack", "bel", "bs", "ht", "nl", "vt", "ff", "cr", "so", "si",
    "dle", "dc1", "dc2", "dc3", "dc4", "nak", "syn", "etb", "can", "em", "sub", "esc", "fs", "gs", "rs", "us",
    "sp"]

/-- Digits, with zeros in front up to a number. -/
def padded (width base n : Nat) : String :=
  let ds := Nat.toDigits base n
  String.ofList (List.replicate (width - ds.length) '0' ++ ds)

/-- A character as it is shown by itself. -/
def characterText (n : Nat) : String :=
  match n with
  | 0 => "\\0"
  | 7 => "\\a"
  | 8 => "\\b"
  | 9 => "\\t"
  | 10 => "\\n"
  | 11 => "\\v"
  | 12 => "\\f"
  | 13 => "\\r"
  | n => if 32 ≤ n && n < 127 then String.singleton (Char.ofNat n) else padded 3 8 n

/-- A value as a text. -/
def View.text (v : View) (n : Nat) : String :=
  match v.kind with
  | .signed =>
    let limit := Nat.pow 2 (8 * v.size)
    if limit ≤ 2 * n then "-" ++ toString (limit - n) else toString n
  | .unsigned => toString n
  | .octal => padded v.digits 8 n
  | .hexadecimal => padded v.digits 16 n
  | .fraction => fractionText v.size n
  | .character => characterText n
  | .named =>
    let n := n % 128
    if n = 127 then "del"
    else (controlNames[n]?).getD (String.singleton (Char.ofNat n))

/-- How bytes are shown. -/
structure Style where
  views : List View
  /-- How many bytes a line has. -/
  block : Nat
  /-- How many characters the bytes of a line take. -/
  room : Nat
  /-- The base of the places and how many digits they have; none if they are left out. -/
  places : Option (Nat × Nat)
  /-- Whether lines like the one above are shown. -/
  all : Bool
  big : Bool

namespace Style

/-- A place in front of a line. -/
def place (s : Style) (n : Nat) : String :=
  match s.places with
  | none => ""
  | some (base, digits) => padded digits base n

/-- The values of some bytes in a row. -/
def row (s : Style) (v : View) (bytes : List UInt8) : String :=
  let fields := s.block / v.size
  let blank := (s.block - bytes.length) / v.size
  let pad := s.room - v.width * fields
  let bytes := bytes ++ List.replicate (s.block - bytes.length) 0
  let shown := (List.range (fields - blank)).map fun i =>
    let before := pad * (fields - i) / fields
    let behind := pad * (fields - i - 1) / fields
    let text := v.text (numberOf s.big ((bytes.drop (i * v.size)).take v.size))
    String.ofList (List.replicate (before - behind + v.width - text.length) ' ') ++ text
  String.join shown

/-- The characters of some bytes, behind their values. -/
def trailer (s : Style) (v : View) (bytes : List UInt8) : String :=
  let fields := s.block / v.size
  let blank := (s.block - bytes.length) / v.size
  let pad := s.room - v.width * fields
  let gap := blank * v.width + pad * blank / fields
  let shown := bytes.map fun b => if 32 ≤ b.toNat && b.toNat < 127 then Char.ofNat b.toNat else '.'
  String.ofList (List.replicate gap ' ') ++ "  >" ++ String.ofList shown ++ "<"

/-- The lines for some bytes at a place. -/
def lines (s : Style) (at_ : Nat) (bytes : List UInt8) : String :=
  let front := s.place at_
  let empty := String.ofList (List.replicate front.length ' ')
  String.join (s.views.zipIdx.map fun (v, i) =>
    (if i = 0 then front else empty) ++ s.row v bytes
      ++ (if v.trailer then s.trailer v bytes else "") ++ "\n")

end Style

/-- How far bytes have been shown. -/
structure Progress where
  /-- Where the next bytes are. -/
  place : Nat
  /-- The bytes that do not fill a line yet. -/
  rest : List UInt8
  /-- The last full line. -/
  previous : Option (List UInt8)
  /-- Whether lines are being left out. -/
  omitting : Bool

/-- Shows the full lines of what there is. -/
def fullLines (s : Style) : Nat → Progress → List String → Progress × List String
  | 0, p, shown => (p, shown)
  | n + 1, p, shown =>
    if p.rest.length < s.block then (p, shown)
    else
      let bytes := p.rest.take s.block
      let p' := { p with place := p.place + s.block, rest := p.rest.drop s.block, previous := some bytes }
      if !s.all && p.previous = some bytes then
        fullLines s n { p' with omitting := true } (if p.omitting then shown else "*\n" :: shown)
      else fullLines s n { p' with omitting := false } (s.lines p.place bytes :: shown)

/-- The number that a text is in any of the usual bases, with a letter behind it that multiplies it. -/
def anySize? (s : String) : Option Nat :=
  match s.toList with
  | '0' :: x :: rest =>
    if x = 'x' || x = 'X' then
      let ds := rest.takeWhile fun c => Arithmetic.digitOf c < 16
      if ds.isEmpty then none
      else scaled (Arithmetic.ofDigits 16 ds) (rest.drop ds.length)
    else
      let ds := (x :: rest).takeWhile fun c => '0' ≤ c && c ≤ '7'
      scaled (Arithmetic.ofDigits 8 ds) ((x :: rest).drop ds.length)
  | _ => size? s
where
  /-- A number with what multiplies it. -/
  scaled (n : Nat) (rest : List Char) : Option Nat :=
    if rest.isEmpty then some n else (size? ("1" ++ String.ofList rest)).map (n * ·)

/-- Takes the ways to show bytes from a text. -/
def viewsOf (whole : String) : Nat → List Char → Except String (List View)
  | 0, _ => .ok []
  | _, [] => .ok []
  | n + 1, c :: rest => do
    let trailing (rest : List Char) : Bool × List Char :=
      match rest with
      | 'z' :: rest => (true, rest)
      | rest => (false, rest)
    let kind? : Option Form :=
      match c with
      | 'd' => some .signed
      | 'u' => some .unsigned
      | 'o' => some .octal
      | 'x' => some .hexadecimal
      | 'f' => some .fraction
      | 'c' => some .character
      | 'a' => some .named
      | _ => none
    match kind? with
    | none => .error ("invalid character '" ++ String.singleton c ++ "' in type string " ++ cited whole)
    | some kind =>
      let sized : Bool := kind != .character && kind != .named
      let letters : List (Char × Nat) :=
        if kind = .fraction then [('F', 4), ('D', 8), ('L', 16)] else [('C', 1), ('S', 2), ('I', 4), ('L', 8)]
      let usual := if kind = .fraction then 8 else if sized then 4 else 1
      let ds := rest.takeWhile Char.isDigit
      let (size, rest) : Nat × List Char :=
        match rest with
        | l :: more =>
          if !sized then (1, rest)
          else
            match letters.lookup l with
            | some size => (size, more)
            | none => if ds.isEmpty then (usual, rest) else (Arithmetic.ofDigits 10 ds, rest.drop ds.length)
        | [] => (usual, [])
      let known := if kind = .fraction then [4, 8] else [1, 2, 4, 8]
      unless known.contains size || !sized do
        throw ("invalid type string " ++ cited whole ++ ";\nthis system doesn't provide a " ++ toString size
          ++ "-byte " ++ (if kind = .fraction then "floating point" else "integral") ++ " type")
      let (trailer, rest) := trailing rest
      return ⟨kind, size, trailer⟩ :: (← viewsOf whole n rest)

/-- The ways to show bytes that a letter stands for. -/
def letterViews : List (String × String) :=
  [("a", "a"), ("B", "o2"), ("b", "o1"), ("c", "c"), ("D", "u4"), ("d", "u2"), ("e", "fD"), ("F", "fD"),
    ("f", "fF"), ("H", "x4"), ("h", "x2"), ("I", "dL"), ("i", "dI"), ("L", "dL"), ("l", "dL"), ("O", "o4"),
    ("o", "o2"), ("s", "d2"), ("X", "x4"), ("x", "x2")]

/-- What is left to be skipped and to be read. -/
structure Limits where
  skip : Nat
  left : Option Nat

/-- Goes through the bytes of files between limits, of which it tells what is left, whether all files
could be read, and whether any could be opened. -/
def eachPart {α : Type} (files : List String) (limits : Limits) (first : α) (act : α → ByteArray → Act α) :
    Act (α × Limits × Bool × Bool) :=
  files.foldlM (fun ((a, limits, fine, opened) : α × Limits × Bool × Bool) name => do
    if limits.left = some 0 && limits.skip = 0 then return (a, limits, fine, true)
    let result ← withInput name fun fd => repeating (a, limits) fun (a, l) => do
      if l.skip = 0 && l.left = some 0 then return .inr (.ok (a, l))
      match ← readSome fd ((l.left.map fun n => min blockSize (l.skip + n)).getD blockSize) with
      | .error e => return .inr (.error e)
      | .ok bytes =>
        if bytes.isEmpty then return .inr (.ok (a, l))
        let skipped := min l.skip bytes.size
        let part := bytes.extract skipped bytes.size
        let part := (l.left.map fun n => part.extract 0 n).getD part
        return .inl (← act a part, ⟨l.skip - skipped, l.left.map (· - part.size)⟩)
    match result with
    | .ok (a, limits) => return (a, limits, fine, true)
    | .error e =>
      say (unreadable name e)
      return (a, limits, false, opened || decide (e = .isDirectory))) (first, limits, true, false)

/-- The strings of printable characters of some length that end with a zero, with their places. -/
def stringsIn (least : Nat) : List UInt8 → Nat → List UInt8 → List (Nat × List UInt8)
  | [], _, _ => []
  | b :: rest, at_, taken =>
    if b = 0 then
      let found := if least ≤ taken.length then [(at_ - taken.length, taken.reverse)] else []
      found ++ stringsIn least rest (at_ + 1) []
    else if 32 ≤ b.toNat && b.toNat < 127 then stringsIn least rest (at_ + 1) (b :: taken)
    else stringsIn least rest (at_ + 1) []

/-- The complaint about files that are too short. -/
def pastEnd : String := "cannot skip past end of combined input"

/-- Shows bytes as numbers. -/
def od : Act Nat := do
  let g ← given
    { letters := "aBbcDdeFfHhIiLlOosvXx", valued := "AjNSt", free := "w"
      words := [("output-duplicates", "v"), ("traditional", "traditional")]
      valuedWords := [("skip-bytes", "j"), ("address-radix", "A"), ("read-bytes", "N"), ("format", "t"),
        ("endian", "endian")]
      freeWords := [("strings", "S"), ("width", "w")] }
  let places ←
    match g.value? "A" with
    | none => pure (some (8, 7))
    | some "d" => pure (some (10, 7))
    | some "o" => pure (some (8, 7))
    | some "x" => pure (some (16, 6))
    | some "n" => pure none
    | some other =>
      stop 1 ("invalid output address radix '" ++ String.ofList (other.toList.take 1)
        ++ "'; it must be one character from [doxn]")
  let count (letter : String) : Act (Option Nat) := do
    match g.value? letter with
    | none => return none
    | some text =>
      match anySize? text with
      | some n => return some n
      | none => stop 1 ("invalid -" ++ letter ++ " argument '" ++ text ++ "'")
  let skip ← count "j"
  let left ← count "N"
  let big ←
    match g.value? "endian" with
    | none => pure false
    | some word =>
      match wordAmong ["little", "big"] word with
      | some w => pure (decide (w = "big"))
      | none => misuseOf "--endian" word ["little", "big"]
  let views ← g.options.foldlM (fun (views : List View) (name, value) => do
    let text := if name = "t" then some value else letterViews.lookup name
    match text with
    | none => return views
    | some text =>
      match viewsOf text (text.length + 1) text.toList with
      | .ok more => return views ++ more
      | .error why => stop 1 why) []
  let views := if views.isEmpty then [⟨.octal, 2, false⟩] else views
  let limits : Limits := ⟨skip.getD 0, left⟩
  let files := orInput g.operands
  if g.has "S" then
    let least ←
      match g.value? "S" with
      | none | some "" => pure 3
      | some _ => pure ((← count "S").getD 3)
    let (bytes, limits, fine, _) ← eachPart files limits ByteArray.empty fun all part => return all ++ part
    if 0 < limits.skip then stop 1 pastEnd
    let front (n : Nat) : String :=
      match places with
      | none => ""
      | some (base, digits) => padded digits base n ++ " "
    (stringsIn least bytes.toList (skip.getD 0) []).forM fun (at_, s) =>
      out (front at_ ++ ofBytes s ++ "\n")
    return if fine then 0 else 1
  let unit := views.foldl (fun n v => max n v.size) 1
  let usual := if unit < 16 then unit * (16 / unit) else unit
  let block ←
    match g.value? "w" with
    | none => pure usual
    | some text =>
      match if text = "" then some 32 else anySize? text with
      | none => stop 1 ("invalid -w argument '" ++ text ++ "'")
      | some n =>
        if 0 < n && n % unit = 0 then pure n
        else
          say ("warning: invalid width " ++ toString n ++ "; using " ++ toString unit ++ " instead")
          pure unit
  let room := views.foldl (fun room v => max room ((v.width + 1) * (block / v.size))) 0
  let style : Style := ⟨views, block, room, places, g.has "v", big⟩
  let start : Progress := ⟨skip.getD 0, [], none, false⟩
  let (p, limits, fine, opened) ← eachPart files limits start fun p part => do
    let p := { p with rest := p.rest ++ part.toList }
    let (p, shown) := fullLines style (p.rest.length + 1) p []
    out (String.join shown.reverse)
    return p
  if 0 < limits.skip then stop 1 pastEnd
  unless p.rest.isEmpty do out (style.lines p.place p.rest)
  let ending := if opened then style.place (p.place + p.rest.length) else ""
  unless ending = "" do out (ending ++ "\n")
  return if fine then 0 else 1

end CrossBench.Tool.Dump

namespace CrossBench.Tool.Encoding

open Shell Shell.Act

/-! ## Bytes as text -/

/-- How the programs are called. -/
def grammar (encodings : List String) : Grammar :=
  { letters := "di", valued := "w"
    words := [("decode", "d"), ("ignore-garbage", "i")] ++ encodings.map fun e => (e, e)
    valuedWords := [("wrap", "w")] }

/-- Lines of so many characters. -/
def wrapped (width : Nat) : Nat → List Char → List Char
  | 0, _ => []
  | _, [] => []
  | fuel + 1, c :: cs => (c :: cs).take width ++ '\n' :: wrapped width fuel ((c :: cs).drop width)

/-- Writes a file as digits, or what digits are. -/
def convert (r : Radix) (g : Given) : Act Nat := do
  let width ←
    match g.value? "w" with
    | none => pure 76
    | some text =>
      match decimal? text with
      | some n => pure n
      | none => stop 1 ("invalid wrap size: " ++ cited text)
  match g.operands with
  | _ :: b :: _ => misuse 1 ("extra operand " ++ cited b)
  | operands =>
    let name := operands.headD "-"
    match ← contents name with
    | .error e =>
      if e = .isDirectory then stop 1 ("read error: " ++ e.plainMessage) else stop 1 (unreadable name e)
    | .ok bytes =>
      if g.has "d" then
        let cs := charsOf bytes
        let cs := if g.has "i" then cs.filter fun c => c = Radix.filler || (r.value? c).isSome else cs
        let (found, right) := r.decode cs
        outBytes ⟨found⟩
        if right then return 0 else stop 1 "invalid input"
      else
        let cs := r.encode bytes
        outChars (if width = 0 then cs else wrapped width (cs.length + 1) cs)
        return 0

/-- Writes bytes with sixty-four digits. -/
def base64 : Act Nat := do convert .base64 (← given (grammar []))

/-- Writes bytes with thirty-two digits. -/
def base32 : Act Nat := do convert .base32 (← given (grammar []))

/-- The encodings that can be chosen. -/
def encodings : List (String × Radix) :=
  [("base64", .base64), ("base64url", .base64url), ("base32", .base32), ("base32hex", .base32hex),
    ("base16", .base16), ("base2msbf", .base2 false), ("base2lsbf", .base2 true)]

/-- Writes bytes with digits that can be chosen. -/
def basenc : Act Nat := do
  let g ← given (grammar (encodings.map (·.1)))
  let chosen := g.options.reverse.findSome? fun o => (encodings.find? fun e => e.1 = o.1).map (·.2)
  match chosen with
  | some r => convert r g
  | none => misuse 1 "missing encoding type"

end CrossBench.Tool.Encoding
