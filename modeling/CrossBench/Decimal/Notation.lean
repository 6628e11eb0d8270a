import CrossBench.Decimal.Binary

/-!
# Numbers in three notations

A number that is a quotient of natural numbers, written with so many places, with so many places and
an exponent, or with so many digits in whichever notation is shorter. `nearest` brings a quotient to
the precision of a binary format first.
-/

namespace CrossBench.Decimal

/-- A number that is not negative, as a quotient, or what is no such number. -/
inductive Magnitude where
  | quotient (num den : Nat)
  | infinite
  | nan
  deriving DecidableEq, Inhabited

/-- The number of digits of a number in binary. -/
def bitLength (n : Nat) : Nat := if n = 0 then 0 else Nat.log2 n + 1

/-- The nearest quotient with so many binary digits, a tie to the even one. -/
def nearest (bits num den : Nat) : Nat × Nat :=
  if num = 0 ∨ den = 0 then (0, 1)
  else
    let shift : Int := (bits : Int) - ((bitLength num : Int) - (bitLength den : Int))
    let scaled (shift : Int) : Nat := roundDiv (num * powerAbove 2 shift) (den * powerAbove 2 (-shift))
    let shift := if bits < bitLength (scaled shift) then shift - 1 else shift
    let m := scaled shift
    (m * powerAbove 2 (-shift), powerAbove 2 shift)

/-- A quotient with so many places. -/
def fixedText (places num den : Nat) : String := pointed places (roundDiv (num * Nat.pow 10 places) den)

/-- The power of ten below a quotient that is not zero. -/
def tenExponent (num den : Nat) : Int :=
  let guess : Int := (toString num).length - (toString den).length
  if num * powerAbove 10 (-guess) < den * powerAbove 10 guess then guess - 1 else guess

/-- The digits of a quotient, one more than `places`, and the power of ten of the first. -/
def scientificDigits (places num den : Nat) : Nat × Int :=
  if num = 0 then (0, 0)
  else
    let e := tenExponent num den
    let digits (e : Int) : Nat :=
      roundDiv (num * powerAbove 10 (places - e)) (den * powerAbove 10 (e - places))
    let n := digits e
    if Nat.pow 10 (places + 1) ≤ n then (digits (e + 1), e + 1) else (n, e)

/-- An exponent, with two digits at least. -/
def exponentText (e : Int) : String :=
  let ds := toString e.natAbs
  (if e < 0 then "-" else "+") ++ (if ds.length < 2 then "0" ++ ds else ds)

/-- A quotient with so many places and an exponent. -/
def scientificText (places num den : Nat) : String :=
  let (n, e) := scientificDigits places num den
  pointed places n ++ "e" ++ exponentText e

/-- A text without zeros at its end, and without a point there. -/
def withoutZeros (s : String) : String :=
  if s.toList.contains '.' then
    let cs := s.toList.reverse.dropWhile (· == '0')
    String.ofList (match cs with
      | '.' :: rest => rest.reverse
      | cs => cs.reverse)
  else s

/-- A quotient with so many digits in whichever notation is shorter, with the zeros at its end if
`full`. -/
def generalText (full : Bool) (digits num den : Nat) : String :=
  let p := max digits 1
  let (n, e) := scientificDigits (p - 1) num den
  let trim (s : String) : String := if full then s else withoutZeros s
  if e < -4 ∨ (p : Int) ≤ e then trim (pointed (p - 1) n) ++ "e" ++ exponentText e
  else trim (fixedText ((p : Int) - 1 - e).toNat num den)

example : fixedText 2 314159 100000 = "3.14" := by decide +kernel
example : scientificText 3 314159 10 = "3.142e+04" := by decide +kernel
example : generalText false 6 1000000 1 = "1e+06" := by decide +kernel
example : generalText false 6 1 10000 = "0.0001" := by decide +kernel

end CrossBench.Decimal
