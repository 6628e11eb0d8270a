import CrossBench.Shell.Print.Format

/-!
# Numbers of record programs

Every number is a double. A text stands for the number in front of it, and an integer is written with
all its digits, while other numbers are written as a format says. Remainders are exact.
-/

namespace CrossBench.Tool.Records

open Shell
open Decimal (Magnitude Reading)

/-- What is no number. -/
def noNumber : Float := 0.0 / 0.0

/-- The double without an upper bound. -/
def infinite (negative : Bool) : Float := if negative then -1.0 / 0.0 else 1.0 / 0.0

/-- The double of a natural number times a power of two, of which it has no more digits than a double
can hold. -/
def floatOf (negative : Bool) (m : Nat) (q : Int) : Float :=
  let sign : Nat := if negative then Nat.pow 2 63 else 0
  if m < Nat.pow 2 52 then .ofBits (.ofNat (sign + m))
  else
    let exponent := q + 1075
    if 2047 ≤ exponent then infinite negative
    else .ofBits (.ofNat (sign + exponent.toNat * Nat.pow 2 52 + (m - Nat.pow 2 52)))

/-- The double that is nearest to a quotient. -/
def floatOfQuotient (negative : Bool) (num den : Nat) : Float :=
  if num = 0 then .ofBits (if negative then .ofNat (Nat.pow 2 63) else 0)
  else
    let wanted : Int := 53 - ((Decimal.bitLength num : Int) - (Decimal.bitLength den : Int))
    let scaled (shift : Int) : Nat :=
      Decimal.roundDiv (num * Decimal.powerAbove 2 shift) (den * Decimal.powerAbove 2 (-shift))
    let shift := if Nat.pow 2 53 ≤ scaled wanted then wanted - 1 else wanted
    let shift := min shift 1074
    let m := scaled shift
    if Nat.pow 2 53 ≤ m then floatOf negative (m / 2) (1 - shift) else floatOf negative m (-shift)

/-- The double that a magnitude comes to. -/
def floatOfMagnitude (negative : Bool) : Magnitude → Float
  | .quotient num den => floatOfQuotient negative num den
  | .infinite => infinite negative
  | .nan => noNumber

/-- The number in front of a text, and what follows; zero if there is none. -/
def leading (cs : List Char) : Float × List Char :=
  match leadingNumber? 53 cs with
  | some l => (floatOfMagnitude l.negative l.magnitude, l.rest)
  | none => (0, cs)

/-- The number that a text stands for. -/
def numberIn (s : String) : Float := (leading s.toList).1

/-- White space between and around fields. -/
def isBlank (c : Char) : Bool := c == ' ' || ('\t' ≤ c && c ≤ '\r')

/-- The number that a text of the input is, if it has the form of one. -/
def inputNumber? (s : String) : Option Float :=
  let cs := s.toList.dropWhile isBlank
  let back := cs.reverse.dropWhile isBlank
  let likely : Bool :=
    match cs, back with
    | c :: _, d :: _ =>
      (d.isDigit || d == '.') && (c.isDigit || c == '+' || c == '-' || c == '.')
    | _, _ => false
  if !likely then none
  else
    match leadingNumber? 53 cs with
    | some l => if l.rest.all isBlank then some (floatOfMagnitude l.negative l.magnitude) else none
    | none => none

/-- The sign of a double, and its magnitude. -/
def magnitudeOf (x : Float) : Bool × Magnitude :=
  match Reading.ofFloat x with
  | .nan => (true, .nan)
  | .infinite negative => (negative, .infinite)
  | .finite negative m q => (negative, .quotient (m * Decimal.powerAbove 2 q) (Decimal.powerAbove 2 (-q)))

/-- The integer towards zero from a double; `none` for what is no finite number. -/
def truncated? (x : Float) : Option Int :=
  match Reading.ofFloat x with
  | .finite negative m q =>
    let n : Int := (m * Decimal.powerAbove 2 q / Decimal.powerAbove 2 (-q) : Nat)
    some (if negative then -n else n)
  | _ => none

/-- The integer that a double is, if it is one. -/
def whole? (x : Float) : Option Int :=
  match Reading.ofFloat x with
  | .finite negative m q =>
    let den := Decimal.powerAbove 2 (-q)
    let num := m * Decimal.powerAbove 2 q
    if num % den = 0 then some (if negative then -(num / den : Nat) else (num / den : Nat)) else none
  | _ => none

/-- The integer towards zero from a double, between two limits. -/
def clamped (low high : Int) (x : Float) : Int :=
  match Reading.ofFloat x with
  | .nan => low
  | .infinite negative => if negative then low else high
  | .finite .. => max low (min high ((truncated? x).getD 0))

/-- What is left of a double when another one has been taken from it as often as it fits. -/
def remainder (x y : Float) : Float :=
  match Reading.ofFloat x, Reading.ofFloat y with
  | .finite negative m q, .finite _ n p =>
    if n = 0 then noNumber
    else
      let low := min q p
      let a := m * Decimal.powerAbove 2 (q - low)
      let b := n * Decimal.powerAbove 2 (p - low)
      let r := a % b
      floatOfQuotient negative (r * Decimal.powerAbove 2 low) (Decimal.powerAbove 2 (-low))
  | .finite .., .infinite _ => x
  | _, _ => noNumber

/-- A double as a conversion of a format has it. -/
def converted (c : Shell.Conversion) (x : Float) : List Char :=
  let (negative, m) := magnitudeOf x
  Printing.fractionText c negative m

/-- The conversion behind a percent sign, and what follows, if counts are digits. -/
def plainConversion? (cs : List Char) : Option (Shell.Conversion × List Char) :=
  let flags := cs.takeWhile fun c => "-+ #0".toList.contains c
  let rest := cs.drop flags.length
  let width := rest.takeWhile Char.isDigit
  let rest := rest.drop width.length
  let number (ds : List Char) : Int := (Arithmetic.ofDigits 10 ds : Nat)
  let (precision, rest) : Option Int × List Char :=
    match rest with
    | '.' :: rest =>
      let ds := rest.takeWhile Char.isDigit
      (some (number ds), rest.drop ds.length)
    | rest => (none, rest)
  match rest with
  | [] => none
  | letter :: after =>
    some (⟨flags, if width = [] then none else some (number width), precision, letter, [], []⟩, after)

/-- A double as a format for numbers says. -/
def formatted (x : Float) : Nat → List Char → List Char
  | 0, _ => []
  | _, [] => []
  | n + 1, '%' :: '%' :: rest => '%' :: formatted x n rest
  | n + 1, '%' :: rest =>
    match plainConversion? rest with
    | none => '%' :: formatted x n rest
    | some (c, after) =>
      let text :=
        if "diouxX".toList.contains c.letter then
          Printing.integerText c ((truncated? x).getD 0)
        else converted c x
      text ++ formatted x n after
  | n + 1, c :: rest => c :: formatted x n rest

/-- The greatest integer that is written with all its digits. -/
def greatestWhole : Int := Nat.pow 2 64

/-- The least integer that is written with all its digits. -/
def leastWhole : Int := -(Nat.pow 2 63 : Nat)

/-- A double as a text: an integer has all its digits, and others are as a format says. -/
def numberText (form : String) (x : Float) : String :=
  let other : Unit → String := fun _ => String.ofList (formatted x (form.length + 1) form.toList)
  match whole? x with
  | some n => if leastWhole ≤ n ∧ n ≤ greatestWhole then toString n else other ()
  | none => other ()

end CrossBench.Tool.Records
