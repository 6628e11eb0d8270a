import CrossBench.Decimal.Notation
import CrossBench.Shell.Arithmetic.Basic
import CrossBench.Shell.Print.Escape
import CrossBench.Shell.Quoting
import CrossBench.Text.Calendar

/-!
# Printing by a format

`printf` prints its arguments as a format says, and repeats the format while there are arguments left.
The shells and the program of that name differ in what they know and in how they complain.
-/

/-!
## Reading numbers with fractions

The number in front of a text: digits with a point and an exponent, or the word for what is no finite
number.
-/

namespace CrossBench.Shell

open Decimal (Magnitude)

/-- A number in front of a text: whether it is negative, how large it is, and what follows. -/
structure Leading where
  negative : Bool
  magnitude : Magnitude
  rest : List Char

/-- The digits of a number, its power of ten, and what follows. -/
def decimalDigits? (cs : List Char) : Option (Nat × Int × List Char) :=
  let whole := cs.takeWhile Char.isDigit
  let after := cs.drop whole.length
  let (fraction, after) : List Char × List Char :=
    match after with
    | '.' :: rest =>
      let f := rest.takeWhile Char.isDigit
      if whole = [] ∧ f = [] then ([], after) else (f, rest.drop f.length)
    | after => ([], after)
  if whole = [] ∧ fraction = [] then none
  else
    let (exponent, after) : Int × List Char :=
      match after with
      | e :: rest =>
        if e = 'e' ∨ e = 'E' then
          let (sign, ds) : Int × List Char :=
            match rest with
            | '-' :: ds => (-1, ds)
            | '+' :: ds => (1, ds)
            | ds => (1, ds)
          let ds := ds.takeWhile Char.isDigit
          if ds = [] then (0, after)
          else
            let signs := if rest.head? = some '-' ∨ rest.head? = some '+' then 1 else 0
            (sign * (Arithmetic.ofDigits 10 ds : Nat), rest.drop (ds.length + signs))
        else (0, after)
      | [] => (0, [])
    some (Arithmetic.ofDigits 10 (whole ++ fraction), exponent - fraction.length, after)

/-- The number in front of a text, behind white space, to so many binary digits. -/
def leadingNumber? (bits : Nat) (cs : List Char) : Option Leading :=
  let cs := cs.dropWhile fun c => c == ' ' || ('\t' ≤ c && c ≤ '\r')
  let negative := cs.head? == some '-'
  let unsigned := if negative || cs.head? == some '+' then cs.drop 1 else cs
  let word := (unsigned.take 8).map Char.toLower
  if "infinity".toList.isPrefixOf word then some ⟨negative, .infinite, unsigned.drop 8⟩
  else if "inf".toList.isPrefixOf word then some ⟨negative, .infinite, unsigned.drop 3⟩
  else if "nan".toList.isPrefixOf word then some ⟨negative, .nan, unsigned.drop 3⟩
  else
    match unsigned with
    | '0' :: x :: h :: rest =>
      if (x = 'x' ∨ x = 'X') && Arithmetic.digitOf h < 16 then
        let ds := (h :: rest).takeWhile fun c => Arithmetic.digitOf c < 16
        some ⟨negative, .quotient (Arithmetic.ofDigits 16 ds) 1, (h :: rest).drop ds.length⟩
      else decimal unsigned negative
    | _ => decimal unsigned negative
where
  /-- A decimal number. -/
  decimal (cs : List Char) (negative : Bool) : Option Leading :=
    (decimalDigits? cs).map fun (n, e, rest) =>
      if n = 0 then ⟨negative, .quotient 0 1, rest⟩
      else if 20000 < e.natAbs then
        ⟨negative, if 0 < e then .infinite else .quotient 0 1, rest⟩
      else
        let (num, den) :=
          Decimal.nearest bits (n * Decimal.powerAbove 10 e) (Decimal.powerAbove 10 (-e))
        ⟨negative, .quotient num den, rest⟩

end CrossBench.Shell

namespace CrossBench.Shell

open Decimal (Magnitude)

/-- Which `printf` it is. -/
inductive Printing where
  | plain
  | extended
  | tool
  deriving DecidableEq

/-- A conversion in a format: its flags, width, precision and letter. -/
structure Conversion where
  flags : List Char
  width : Option Int
  precision : Option Int
  letter : Char
  /-- What stands in parentheses in front of the letter. -/
  inner : List Char
  /-- What is written in the format, up to the letter. -/
  written : List Char

/-- What has been printed. -/
structure Printed where
  /-- The characters and the complaints between them, the last first. -/
  pieces : List (Char ⊕ String)
  status : Nat
  arguments : List String
  /-- Whether nothing is printed any more. -/
  ended : Bool

namespace Printed

/-- The print with more characters. -/
def put (p : Printed) (cs : List Char) : Printed :=
  { p with pieces := cs.foldl (fun pieces c => .inl c :: pieces) p.pieces }

/-- The print with a complaint. -/
def complain (p : Printed) (why : String) (status : Nat) : Printed :=
  { p with pieces := .inr why :: p.pieces, status := max p.status status }

/-- The next argument, if there is one. -/
def next (p : Printed) : Option String × Printed :=
  match p.arguments with
  | [] => (none, p)
  | a :: rest => (some a, { p with arguments := rest })

/-- The text that has been printed. -/
def text (p : Printed) : String :=
  String.ofList (p.pieces.foldl (fun cs piece =>
    match piece with
    | .inl c => c :: cs
    | .inr _ => cs) [])

/-- The complaints. -/
def complaints (p : Printed) : List String :=
  p.pieces.foldl (fun found piece =>
    match piece with
    | .inl _ => found
    | .inr why => why :: found) []

/-- The texts in front of the complaints, each with its complaint, and the text behind the last. -/
def parts (p : Printed) : List (String × String) × String :=
  let (found, cs) := p.pieces.foldr (fun piece (found, cs) =>
    match piece with
    | .inl c => (found, c :: cs)
    | .inr why => ((String.ofList cs.reverse, why) :: found, [])) (([] : List (String × String)), [])
  (found.reverse, String.ofList cs.reverse)

end Printed

namespace Printing

/-- The escapes in a format. -/
def formatEscapes : Printing → Escapes
  | .plain => .plainFormat
  | .extended => .extendedFormat
  | .tool => .toolFormat

/-- The escapes in a text. -/
def textEscapes : Printing → Escapes
  | .plain => .plainText
  | .extended => .extendedText
  | .tool => .toolText

/-- The complaint about a number that is none, or more than one. -/
def numberFault (k : Printing) (argument : String) (none_ : Bool) : String :=
  match k with
  | .plain => argument ++ (if none_ then ": expected numeric value" else ": not completely converted")
  | .extended => argument ++ ": invalid number"
  | .tool =>
    Quoting.cited argument ++ ": "
      ++ (if none_ then "expected a numeric value" else "value not completely converted")

/-- The complaint about a number that is too large. -/
def rangeFault (k : Printing) (argument : String) : String × Nat :=
  match k with
  | .plain => (argument ++ ": Numerical result out of range", 1)
  | .extended => ("warning: " ++ argument ++ ": Numerical result out of range", 0)
  | .tool => (Quoting.cited argument ++ ": Numerical result out of range", 1)

/-- The number of the character in front of a text, and what follows. -/
def characterOf (k : Printing) (wide : Bool) (cs : List Char) : Nat × List Char :=
  match cs with
  | [] => (0, [])
  | c :: rest =>
    if k = .plain || !wide then (c.toNat, rest)
    else
      let (unit, after) := Letters.takeUnit c rest
      (if unit.length = 1 then c.toNat else (Letters.charOf unit).toNat, after)

/-- The number of a character that stands behind a quote, and what has been said about it. -/
def quotedNumber (k : Printing) (wide : Bool) (cs : List Char) (p : Printed) : Int × Printed :=
  let (n, rest) := k.characterOf wide cs
  let p :=
    if k = .tool && rest ≠ [] then
      p.complain ("warning: " ++ String.ofList rest
        ++ ": character(s) following character constant have been ignored") 0
    else p
  (n, p)

/-- The number that an argument is: behind a quote, that of a character. -/
def integerOf (k : Printing) (wide signed : Bool) (argument : Option String) (p : Printed) :
    Int × Printed :=
  match argument with
  | none => (0, p)
  | some a =>
    match a.toList with
    | [] => if k = .tool then (0, p.complain (k.numberFault a true) 1) else (0, p)
    | '\'' :: rest => if rest = [] && k = .tool then (0, p.complain (k.numberFault a true) 1) else k.quotedNumber wide rest p
    | '"' :: rest => if rest = [] && k = .tool then (0, p.complain (k.numberFault a true) 1) else k.quotedNumber wide rest p
    | cs =>
      match Arithmetic.leadingInteger? none cs with
      | none => (0, p.complain (k.numberFault a true) 1)
      | some (n, rest) =>
        let p := if rest = [] then p else p.complain (k.numberFault a false) 1
        let low : Int := -Arithmetic.greatest - 1
        let high : Int := if signed then Arithmetic.greatest else Nat.pow 2 64 - 1
        if n < low ∨ high < n then
          let (why, status) := k.rangeFault a
          let p := if rest = [] then p.complain why status else p
          (if n < 0 then low else high, p)
        else (n, p)

/-- Characters in a field. -/
def inField (width : Option Int) (left : Bool) (fill : Char) (cs : List Char) : List Char :=
  match width with
  | none => cs
  | some w =>
    let left := left || w < 0
    let space := List.replicate (w.natAbs - cs.length) (if left then ' ' else fill)
    if left then cs ++ space else space ++ cs

/-- A number in a field: zeros stand behind its sign. -/
def numberField (c : Conversion) (zeros : Bool) (sign digits : List Char) : List Char :=
  let left := c.flags.contains '-'
  if zeros && c.flags.contains '0' && !left then
    let room := ((c.width.getD 0).toNat) - sign.length - digits.length
    sign ++ List.replicate room '0' ++ digits
  else inField c.width left ' ' (sign ++ digits)

/-- The sign of a number. -/
def signOf (c : Conversion) (negative : Bool) : List Char :=
  if negative then ['-']
  else if c.flags.contains '+' then ['+']
  else if c.flags.contains ' ' then [' ']
  else []

/-- The digits of an integer, as many as asked for at least. -/
def integerDigits (c : Conversion) (base n : Nat) : List Char :=
  let ds := if n = 0 ∧ c.precision = some 0 then [] else Nat.toDigits base n
  List.replicate ((c.precision.getD 1).toNat - ds.length) '0' ++ ds

/-- An integer as a conversion has it. -/
def integerText (c : Conversion) (n : Int) : List Char :=
  let zeros : Bool := c.precision.any (0 ≤ ·)
  match c.letter with
  | 'd' => numberField c (!zeros) (signOf c (n < 0)) (integerDigits c 10 n.natAbs)
  | 'i' => numberField c (!zeros) (signOf c (n < 0)) (integerDigits c 10 n.natAbs)
  | letter =>
    let m := Arithmetic.wordOf n
    let base := if letter = 'o' then 8 else if letter = 'u' then 10 else 16
    let ds := integerDigits c base m
    let ds := if letter = 'X' then ds.map Char.toUpper else ds
    let front : List Char :=
      if c.flags.contains '#' ∧ m ≠ 0 then
        match letter with
        | 'x' => ['0', 'x']
        | 'X' => ['0', 'X']
        | 'o' => if ds.head? = some '0' then [] else ['0']
        | _ => []
      else []
    numberField c (!zeros) front ds

/-- A number with a fraction as a conversion has it. -/
def fractionText (c : Conversion) (negative : Bool) (m : Magnitude) : List Char :=
  let upper := c.letter.isUpper
  let places : Nat :=
    match c.precision with
    | some p => if p < 0 then 6 else p.toNat
    | none => 6
  let sign := signOf c negative
  let cased (s : String) : List Char := (if upper then s.map Char.toUpper else s).toList
  match m with
  | .nan => numberField c false sign (cased "nan")
  | .infinite => numberField c false sign (cased "inf")
  | .quotient num den =>
    let text :=
      match c.letter.toLower with
      | 'f' => Decimal.fixedText places num den
      | 'e' => Decimal.scientificText places num den
      | _ => Decimal.generalText (c.flags.contains '#') places num den
    numberField c true sign (cased text)

/-- The modifiers of a letter that mean nothing here. -/
def modifiers (k : Printing) : List Char :=
  match k with
  | .plain => []
  | _ => ['h', 'j', 'l', 'L', 't', 'z']

/-- A width or a precision: digits, or an argument. -/
def takeCount (k : Printing) (wide : Bool) (cs : List Char) (p : Printed) : Option Int × List Char × Printed :=
  match cs with
  | '*' :: rest =>
    let (a, p) := p.next
    let (n, p) := k.integerOf wide true a p
    (some n, rest, p)
  | cs =>
    let ds := cs.takeWhile Char.isDigit
    (if ds = [] then none else some (Arithmetic.ofDigits 10 ds : Nat), cs.drop ds.length, p)

/-- Takes a conversion behind its percent sign. -/
def takeConversion (k : Printing) (wide : Bool) (cs : List Char) (p : Printed) :
    Option Conversion × List Char × Printed :=
  let flags := cs.takeWhile fun c => "-+ #0'".toList.contains c
  let (width, rest, p) := k.takeCount wide (cs.drop flags.length) p
  let (precision, rest, p) : Option Int × List Char × Printed :=
    match rest with
    | '.' :: rest =>
      let (n, rest, p) := k.takeCount wide rest p
      (some (n.getD 0), rest, p)
    | rest => (none, rest, p)
  let inner : List Char :=
    match k, rest with
    | .extended, '(' :: inside => if inside.contains ')' then inside.takeWhile (· != ')') else []
    | _, _ => []
  let rest :=
    match k, rest with
    | .extended, '(' :: inside => if inside.contains ')' then (inside.dropWhile (· != ')')).drop 1 else rest
    | _, _ => rest
  let rest := rest.dropWhile k.modifiers.contains
  match rest with
  | [] => (none, [], p)
  | letter :: after =>
    (some ⟨flags, width, precision, letter, inner, cs.take (cs.length - after.length)⟩, after, p)

/-- Where and when something is printed. -/
structure Setting where
  /-- Whether characters may take several bytes. -/
  wide : Bool
  now : Instant
  /-- When the program was started. -/
  started : Instant
  zone : Zone

/-- Prints an argument as a conversion says; `none` if there is no such conversion. -/
def convert (k : Printing) (g : Setting) (c : Conversion) (p : Printed) : Option Printed :=
  let left := c.flags.contains '-'
  let cut (cs : List Char) : List Char :=
    match c.precision with
    | some n => if n < 0 then cs else cs.take n.toNat
    | none => cs
  match c.letter with
  | '%' => if c.written = ['%'] then some (p.put ['%']) else none
  | 's' =>
    let (a, p) := p.next
    some (p.put (inField c.width left ' ' (cut (a.getD "").toList)))
  | 'c' =>
    let (a, p) := p.next
    some (p.put (inField c.width left ' ' [(a.getD "").toList.head?.getD (Char.ofNat 0)]))
  | 'b' =>
    let (a, p) := p.next
    let a := a.getD ""
    let (text, stop, complaints) := k.textEscapes.undo g.wide (a.length + 1) a.toList
    let p := complaints.foldl (fun p why => p.complain why (if k = .tool then 1 else 0)) p
    some { p.put (inField c.width left ' ' (cut text)) with ended := stop }
  | 'q' =>
    if k = .plain then none
    else
      let (a, p) := p.next
      let a := a.getD ""
      let text := if k = .tool then Quoting.named g.wide a else Quoting.withBackslashes g.wide a
      some (p.put (inField c.width left ' ' (cut text.toList)))
  | 'Q' =>
    if k = .extended then
      let (a, p) := p.next
      let text := Quoting.withBackslashes g.wide (String.ofList (cut (a.getD "").toList))
      some (p.put (inField c.width left ' ' text.toList))
    else none
  | 'T' =>
    if k = .extended then
      let (a, p) := p.next
      let t : Instant :=
        match a.bind (Arithmetic.integer? (some 10)) with
        | some n => if n = -1 then g.now else if n = -2 then g.started else ⟨n, 0⟩
        | none => g.now
      some (p.put (inField c.width left ' '
        (cut (Calendar.text g.zone t (if c.inner = [] then "%X" else String.ofList c.inner)).toList)))
    else none
  | letter =>
    if letter = 'd' ∨ letter = 'i' then
      let (a, p) := p.next
      let (n, p) := k.integerOf g.wide true a p
      some (p.put (integerText c n))
    else if letter = 'o' ∨ letter = 'u' ∨ letter = 'x' ∨ letter = 'X' then
      let (a, p) := p.next
      let (n, p) := k.integerOf g.wide false a p
      some (p.put (integerText c n))
    else if "eEfFgGaA".toList.contains letter then
      let (a, p) := p.next
      match a with
      | none => some (p.put (fractionText c false (.quotient 0 1)))
      | some a =>
        let quote : Option (List Char) :=
          match a.toList with
          | '\'' :: e :: more => some (e :: more)
          | '"' :: e :: more => some (e :: more)
          | _ => none
        match quote, leadingNumber? (if k = .plain then 53 else 64) a.toList with
        | some cs, _ =>
          let (n, p) := k.quotedNumber g.wide cs p
          some (p.put (fractionText c false (.quotient n.toNat 1)))
        | none, none =>
          let p := if a = "" && k ≠ .tool then p else p.complain (k.numberFault a true) 1
          some (p.put (fractionText c false (.quotient 0 1)))
        | none, some l =>
          let p := if l.rest = [] then p else p.complain (k.numberFault a false) 1
          some (p.put (fractionText c l.negative l.magnitude))
    else none

/-- Goes through the format once. -/
def once (k : Printing) (g : Setting) : Nat → List Char → Printed → Printed
  | 0, _, p => p
  | _, [], p => p
  | fuel + 1, '\\' :: rest, p =>
    let t := k.formatEscapes.take g.wide rest
    let p := t.complaint.toList.foldl (fun p why => p.complain why (if k = .tool then 1 else 0)) p
    if t.stops then { p with ended := true } else once k g fuel (rest.drop t.length) (p.put t.text)
  | fuel + 1, '%' :: rest, p =>
    match k.takeConversion g.wide rest p with
    | (none, _, p) =>
      let why :=
        match k with
        | .plain => "missing format character"
        | .extended => "\x60%" ++ String.ofList rest ++ "': missing format character"
        | .tool => "%" ++ String.ofList rest ++ ": invalid conversion specification"
      { p.complain why (if k = .plain then 2 else 1) with ended := true }
    | (some c, after, p) =>
      match k.convert g c p with
      | some p => if p.ended then p else once k g fuel after p
      | none =>
        let why :=
          match k with
          | .plain => "%" ++ String.ofList c.written ++ ": invalid directive"
          | .extended => "\x60" ++ String.singleton c.letter ++ "': invalid format character"
          | .tool => "%" ++ String.ofList c.written ++ ": invalid conversion specification"
        { p.complain why (if k = .plain then 2 else 1) with ended := true }
  | fuel + 1, c :: rest, p => once k g fuel rest (p.put [c])

/-- Goes through the format while there are arguments left. -/
def again (k : Printing) (g : Setting) (form : List Char) : Nat → Printed → Printed
  | 0, p => p
  | fuel + 1, p =>
    let before := p.arguments.length
    let p := once k g (form.length + 1) form p
    if p.ended || p.arguments.isEmpty || p.arguments.length = before then p
    else again k g form fuel p

/-- Prints arguments as a format says. -/
def print (k : Printing) (g : Setting) (form : String) (arguments : List String) : Printed :=
  again k g form.toList (arguments.length + 1) ⟨[], 0, arguments, false⟩

end Printing

end CrossBench.Shell
