/-!
# The exact value of a double, and decimals with a fixed number of places

A finite double is a sign together with a natural number times a power of two. `Reading.ofBits`
takes these apart from the 64 bits of the double; all printing of doubles in this library is exact
arithmetic on the natural numbers that it gives.

`fixed places x` is the multiple of `10 ^ -places` that is nearest to the exact binary value of `x`,
ties going to the even last digit, written with exactly that many digits behind the point. The sign
is that of the double, so `-0.0` has one.
-/

namespace CrossBench.Decimal

/-- What a double stands for. -/
inductive Reading where
  | nan
  | infinite (negative : Bool)
  /-- The value `m * 2 ^ q`, negated if `negative`. Zeros keep their sign. -/
  | finite (negative : Bool) (m : Nat) (q : Int)
  deriving DecidableEq

namespace Reading

/-- The sign, the eleven bits of the exponent and the fifty-two bits of the fraction. -/
def ofBits (bits : UInt64) : Reading :=
  let n := bits.toNat
  let negative : Bool := n / Nat.pow 2 63 = 1
  let exponent : Nat := n / Nat.pow 2 52 % Nat.pow 2 11
  let fraction : Nat := n % Nat.pow 2 52
  if exponent = Nat.pow 2 11 - 1 then
    if fraction = 0 then .infinite negative else .nan
  else if exponent = 0 then .finite negative fraction (-1074)
  else .finite negative (Nat.pow 2 52 + fraction) (exponent - 1075)

/-- What `x` stands for. -/
def ofFloat (x : Float) : Reading := ofBits x.toBits

end Reading

/-- A quotient of natural numbers rounded to the nearest natural number, a tie to the even one. -/
def roundDiv (num den : Nat) : Nat :=
  let whole := num / den
  let rest := num % den
  if 2 * rest < den then whole
  else if den < 2 * rest then whole + 1
  else if whole % 2 = 0 then whole else whole + 1

/-- `b ^ e` if the exponent is not negative, and 1 otherwise: the power of `b` that a number gets as
a factor when two numbers are brought over a common denominator. -/
def powerAbove (b : Nat) (e : Int) : Nat := Nat.pow b e.toNat

example : Reading.ofBits 0x3FF8000000000000 = .finite false (3 * 2 ^ 51) (-52) := by decide
example : Reading.ofBits 0x8000000000000000 = .finite true 0 (-1074) := by decide
example : roundDiv 5 2 = 2 ∧ roundDiv 7 2 = 4 ∧ roundDiv 8 3 = 3 := by decide

/-- `m * 2 ^ q` in units of `10 ^ -places`, rounded to the nearest unit. -/
def units (places m : Nat) (q : Int) : Nat :=
  roundDiv (m * Nat.pow 10 places * powerAbove 2 q) (powerAbove 2 (-q))

/-- A number of units of `10 ^ -places`, written out. -/
def pointed (places n : Nat) : String :=
  let fraction := Nat.toDigits 10 (n % Nat.pow 10 places)
  Nat.repr (n / Nat.pow 10 places)
    ++ (if places = 0 then ""
        else "." ++ String.ofList (List.replicate (places - fraction.length) '0' ++ fraction))

/-- `x` with the given number of places. -/
def fixed (places : Nat) (x : Float) : String :=
  match Reading.ofFloat x with
  | .nan => "NaN"
  | .infinite negative => if negative then "-inf" else "inf"
  | .finite negative m q =>
    (if negative then "-" else "") ++ pointed places (units places m q)

example : pointed 2 (units 2 5 (-3)) = "0.62" := by decide +kernel
example : pointed 2 (units 2 7 (-3)) = "0.88" := by decide +kernel
example : pointed 6 (units 6 1 0) = "1.000000" := by decide +kernel

end CrossBench.Decimal
