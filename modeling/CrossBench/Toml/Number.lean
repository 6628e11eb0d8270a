import CrossBench.Toml.Text

/-!
# Numbers, dates and times

An integer is written in decimal, with an optional sign and without zeros in front, or in
hexadecimal, octal or binary behind `0x`, `0o` or `0b` and then without a sign. A float is a decimal
integer with a fraction, an exponent or both, or one of the words `inf` and `nan`. A single `_` may
stand between two digits. Integers have to fit into 64 bits, and a float that is too large for a
double is refused.
-/

namespace CrossBench.Toml

open Reader

/-- The number that decimal digits spell. -/
def decimalValue (digits : List Char) : Nat :=
  digits.foldl (fun n c => n * 10 + (c.toNat - 48)) 0

/-- Whether a digit belongs to a base. -/
def isBaseDigit (base : Nat) (c : Char) : Bool :=
  if base = 16 then c.isDigit || ('a' ≤ c && c ≤ 'f') || ('A' ≤ c && c ≤ 'F')
  else c.isDigit && c.toNat - 48 < base

/-- The value of a digit. -/
def digitValue (c : Char) : Nat :=
  if c.isDigit then c.toNat - 48 else if 'a' ≤ c then c.toNat - 87 else c.toNat - 55

/-- Whether an integer fits into 64 bits. -/
def fitsWord (n : Int) : Bool :=
  let half : Int := (Nat.pow 2 63 : Nat)
  0 ≤ n + half && n < half

/-- Whether `digits * 10 ^ exponent` is so large that the nearest double would be infinite. The
number of digits decides all but the close cases. -/
def overflows (digits : Nat) (exponent : Int) : Bool :=
  let size : Int := (Nat.toDigits 10 digits).length + exponent
  if digits = 0 then false
  else if size < 300 then false
  else if 320 < size then true
  else (Nat.pow 2 1024 - Nat.pow 2 970) * Nat.pow 10 (-exponent).toNat
    ≤ digits * Nat.pow 10 exponent.toNat

/-- Digits of a class, at least one, without the `_` between them. -/
def digits (p : Char → Bool) : Reader (List Char) := do
  let first ← satisfy p
  let rest ← many do
    let _ ← option (char '_')
    satisfy p
  return first :: rest

/-- A sign, and whether it is a minus. -/
def sign : Reader Bool :=
  (do char '-'; return true) <|> (do char '+'; return false) <|> pure false

/-- A decimal number without zeros in front. -/
def wholeNumber : Reader (List Char) :=
  (do char '0'; return ['0']) <|> digits Char.isDigit

/-- An integer in a base that has a mark of its own. -/
def basedInteger (mark : Char) (base : Nat) : Reader Int := do
  literal ['0', mark]
  let ds ← digits (isBaseDigit base)
  return (ds.foldl (fun n c => n * base + digitValue c) 0 : Nat)

/-- An integer in decimal. -/
def decimalInteger : Reader Int := do
  let negative ← sign
  let n := decimalValue (← wholeNumber)
  return if negative then -(n : Int) else n

/-- An integer. -/
def integer : Reader Int := do
  let n ← basedInteger 'x' 16 <|> basedInteger 'o' 8 <|> basedInteger 'b' 2 <|> decimalInteger
  if fitsWord n then return n else refuse

/-- The digits of an exponent and their sign. -/
def exponent : Reader Int := do
  char 'e' <|> char 'E'
  let negative ← sign
  let n := decimalValue (← digits Char.isDigit)
  return if negative then -(n : Int) else n

/-- The digits of a fraction. -/
def fraction : Reader (List Char) := do
  char '.'
  digits Char.isDigit

/-- A float with a fraction, an exponent or both. One that is too large is refused, but not one that
is too far below zero. -/
def decimalFloat : Reader Unit := do
  let negative ← sign
  let whole ← wholeNumber
  let places ← option fraction
  let power ←
    match places with
    | none => some <$> exponent
    | some _ => option exponent
  let behind := places.getD []
  let tooLarge := overflows (decimalValue (whole ++ behind)) (power.getD 0 - behind.length)
  if !negative && tooLarge then refuse

/-- A float that is no number or not finite. -/
def specialFloat : Reader Unit := do
  let _ ← sign
  literal ['i', 'n', 'f'] <|> literal ['n', 'a', 'n']

/-- A float, as it is written. -/
def float : Reader String := written (decimalFloat <|> specialFloat)

/-!
## Dates and times

A moment is a date, a time, or a date and a time divided by `T` or a blank; only the latter may have
an offset. Days have to exist in the Gregorian calendar, and a minute may have a sixty-first second.
-/

/-- A year with a twenty-ninth of February. -/
def isLeapYear (year : Nat) : Bool :=
  year % 4 = 0 && (year % 100 != 0 || year % 400 = 0)

/-- The number of days of a month. -/
def daysIn (year month : Nat) : Nat :=
  match month with
  | 2 => if isLeapYear year then 29 else 28
  | 4 => 30
  | 6 => 30
  | 9 => 30
  | 11 => 30
  | _ => 31

/-- A number of exactly `n` digits. -/
def fixedNumber : Nat → Reader Nat
  | 0 => pure 0
  | n + 1 => do
    let d ← satisfy Char.isDigit
    let rest ← fixedNumber n
    return (d.toNat - 48) * Nat.pow 10 n + rest

/-- A number of two digits in a range. -/
def twoDigits (low high : Nat) : Reader Nat := do
  let n ← fixedNumber 2
  if low ≤ n ∧ n ≤ high then return n else refuse

/-- A date. -/
def date : Reader Unit := do
  let year ← fixedNumber 4
  char '-'
  let month ← twoDigits 1 12
  char '-'
  let _ ← twoDigits 1 (daysIn year month)

/-- A time of the day. -/
def time : Reader Unit := do
  let _ ← twoDigits 0 23
  char ':'
  let _ ← twoDigits 0 59
  char ':'
  let _ ← twoDigits 0 60
  let _ ← option (do
    char '.'
    let _ ← satisfy Char.isDigit
    takeWhile Char.isDigit)

/-- The offset of a time from that of Greenwich. -/
def offset : Reader Unit :=
  char 'Z' <|> char 'z' <|> do
    char '+' <|> char '-'
    let _ ← twoDigits 0 23
    char ':'
    let _ ← twoDigits 0 59

/-- A date, a time or both, as they are written. -/
def moment : Reader String :=
  written <|
    (do date
        let _ ← option do
          char 'T' <|> char 't' <|> char ' '
          time
          option offset)
      <|> time

end CrossBench.Toml
