import CrossBench.Decimal.Binary

/-!
# The shortest decimal that reads back

A decimal *reads back* as a double if it lies in the interval of reals that round to it; the ends of
the interval belong to it when the double's last bit is zero. `shortest` looks for the smallest
number of digits for which a decimal of that length reads back, and takes the one nearest to the
double. On each grid of decimals only the two neighbours of the double have to be tried: if any
point of the grid lies in the interval, so does one of them.

`Layout` says how the digits are laid out; `text` applies it.
-/

namespace CrossBench.Decimal

/-- The positive decimal `digits * 10 ^ exponent`. -/
structure Scientific where
  digits : Nat
  exponent : Int
  deriving DecidableEq

/-- Decides `a * 10 ^ k ≤ b * 2 ^ q`, on natural numbers. -/
def decimalLe (a : Nat) (k : Int) (b : Nat) (q : Int) : Bool :=
  a * powerAbove 10 k * powerAbove 2 (-q) ≤ b * powerAbove 2 q * powerAbove 10 (-k)

/-- Decides `b * 2 ^ q ≤ a * 10 ^ k`, on natural numbers. -/
def binaryLe (b : Nat) (q : Int) (a : Nat) (k : Int) : Bool :=
  b * powerAbove 2 q * powerAbove 10 (-k) ≤ a * powerAbove 10 k * powerAbove 2 (-q)

/-- The interval of reals that round to the double `m * 2 ^ q`, in quarters of its unit. The gap
below a power of two is half as wide as the one above. -/
structure Interval where
  low : Nat
  high : Nat
  quarter : Int
  closed : Bool

/-- The interval of `m * 2 ^ q`. -/
def Interval.of (m : Nat) (q : Int) : Interval where
  low := if m = Nat.pow 2 52 ∧ -1074 < q then 4 * m - 1 else 4 * m - 2
  high := 4 * m + 2
  quarter := q - 2
  closed := m % 2 = 0

/-- Whether `a * 10 ^ k` lies in the interval. -/
def Interval.holds (i : Interval) (a : Nat) (k : Int) : Bool :=
  if i.closed then binaryLe i.low i.quarter a k && decimalLe a k i.high i.quarter
  else !decimalLe a k i.low i.quarter && !binaryLe i.high i.quarter a k

/-- `m * 2 ^ q` divided by `10 ^ k`, rounded down. -/
def gridFloor (m : Nat) (q k : Int) : Nat :=
  m * powerAbove 2 q * powerAbove 10 (-k) / (powerAbove 2 (-q) * powerAbove 10 k)

/-- Whether the upper neighbour on the grid is nearer to `m * 2 ^ q` than the lower one, `a`. In
the middle the even one counts as nearer. -/
def upperNearer (m : Nat) (q : Int) (a : Nat) (k : Int) : Bool :=
  let twice := 2 * m * powerAbove 2 q * powerAbove 10 (-k)
  let middle := (2 * a + 1) * powerAbove 2 (-q) * powerAbove 10 k
  middle < twice || (middle == twice && a % 2 == 1)

/-- The point of the grid `10 ^ k` that reads back as `m * 2 ^ q` and is nearest to it. -/
def onGrid? (m : Nat) (q k : Int) : Option Nat :=
  let i := Interval.of m q
  let a := gridFloor m q k
  match i.holds a k && a != 0, i.holds (a + 1) k with
  | true, true => some (if upperNearer m q a k then a + 1 else a)
  | true, false => some a
  | false, true => some (a + 1)
  | false, false => none

/-- The position of the first digit of `m * 2 ^ q`: the least `e` with `m * 2 ^ q < 10 ^ e`. Every
double is at least `10 ^ -400`, so four hundred places behind the point show it. -/
def leading (m : Nat) (q : Int) : Int :=
  ((Nat.toDigits 10 (gridFloor m q (-400))).length : Int) - 400

/-- The first hit on the grids from `n` digits on, with at most `fuel` more. -/
def searchFrom (m : Nat) (q : Int) (fuel : Nat) (n : Nat) : Scientific :=
  let k := leading m q - n
  match onGrid? m q k, fuel with
  | some a, _ => ⟨a, k⟩
  | none, 0 => ⟨gridFloor m q k, k⟩
  | none, fuel + 1 => searchFrom m q fuel (n + 1)

/-- The shortest decimal that reads back as `m * 2 ^ q`. Seventeen digits always do. -/
def shortest (m : Nat) (q : Int) : Scientific := searchFrom m q 16 1

/-- How a decimal is laid out. -/
structure Layout where
  /-- The least position of the point, counted from the first digit, that is written positionally. -/
  lowestPoint : Int
  /-- The greatest such position. -/
  highestPoint : Int
  /-- The sign in front of an exponent that is not negative. -/
  exponentSign : String

/-- The digits with the point `point` places to the right of the place before the first digit. -/
def Layout.positional (digits : List Char) (point : Int) : List Char :=
  let count := digits.length
  if point ≤ 0 then '0' :: '.' :: List.replicate (-point).toNat '0' ++ digits
  else if count ≤ point.toNat then
    digits ++ List.replicate (point.toNat - count) '0' ++ ['.', '0']
  else digits.take point.toNat ++ '.' :: digits.drop point.toNat

/-- The digits with an exponent. -/
def Layout.scientific (layout : Layout) (digits : List Char) (point : Int) : List Char :=
  let fraction := digits.drop 1
  digits.take 1 ++ (if fraction = [] then [] else '.' :: fraction)
    ++ 'e' :: (if point - 1 < 0 then "-" else layout.exponentSign).toList
    ++ Nat.toDigits 10 (point - 1).natAbs

/-- A decimal, laid out. Zeros at the end of its digits are not significant. -/
def Layout.text (layout : Layout) (d : Scientific) : String :=
  let all := Nat.toDigits 10 d.digits
  let point := d.exponent + all.length
  let digits := (all.reverse.dropWhile (· == '0')).reverse
  String.ofList
    (if layout.lowestPoint ≤ point ∧ point ≤ layout.highestPoint
      then Layout.positional digits point
      else layout.scientific digits point)

example : shortest (2 ^ 52) (-52) = ⟨1, 0⟩ := by decide +kernel
example : shortest 1 (-1074) = ⟨5, -324⟩ := by decide +kernel
example : shortest 0x1999999999999A (-56) = ⟨1, -1⟩ := by decide +kernel

end CrossBench.Decimal
