import CrossBench.Shell.Bytes

/-!
# Bytes as digits

Bytes can be written with the digits of an alphabet: several bytes together are as many digits as have
the same number of bits. Behind the last bytes a mark stands for each digit that is not needed.
-/

namespace CrossBench

/-- An alphabet of digits. -/
structure Radix where
  digits : Array Char
  /-- How many bits a digit has. -/
  bits : Nat
  /-- How many digits stand together, and for how many bytes. -/
  group : Nat
  bytes : Nat
  /-- Whether the first digit of a byte is its least significant one. -/
  turned : Bool := false
  /-- Whether what is known of a group is read though the group is not whole. -/
  lenient : Bool := false

namespace Radix

/-- Capital letters. -/
def capitals : String := "ABCDEFGHIJKLMNOPQRSTUVWXYZ"

/-- Decimal digits. -/
def numerals : String := "0123456789"

/-- The alphabet of sixty-four digits with these last two. -/
def ofSixtyFour (last : String) : Radix :=
  ⟨(capitals ++ capitals.map Char.toLower ++ numerals ++ last).toList.toArray, 6, 4, 3, false, true⟩

/-- Sixty-four digits. -/
def base64 : Radix := ofSixtyFour "+/"

/-- Sixty-four digits that can stand in addresses. -/
def base64url : Radix := ofSixtyFour "-_"

/-- Thirty-two digits. -/
def base32 : Radix := ⟨(capitals ++ "234567").toList.toArray, 5, 8, 5, false, false⟩

/-- Thirty-two digits in the order of their codes. -/
def base32hex : Radix := ⟨(numerals ++ "ABCDEFGHIJKLMNOPQRSTUV").toList.toArray, 5, 8, 5, false, false⟩

/-- Sixteen digits. -/
def base16 : Radix := ⟨(numerals ++ "ABCDEF").toList.toArray, 4, 2, 1, false, false⟩

/-- Two digits. -/
def base2 (turned : Bool) : Radix := ⟨#['0', '1'], 1, 8, 1, turned, false⟩

/-- The mark for a digit that is not needed. -/
def filler : Char := '='

/-- A byte with its bits in reverse order. -/
def turn (b : Nat) : Nat := (List.range 8).foldl (fun n i => n * 2 + b / Nat.pow 2 i % 2) 0

/-- A group of bytes as digits. -/
def groupText (r : Radix) (part : List UInt8) : List Char :=
  let number := part.foldl (fun n b => n * 256 + (if r.turned then turn b.toNat else b.toNat)) 0
  let number := number * Nat.pow 256 (r.bytes - part.length)
  let needed := (8 * part.length + r.bits - 1) / r.bits
  (List.range r.group).map fun i =>
    if i < needed then
      r.digits.getD (number / Nat.pow 2 (r.bits * (r.group - 1 - i)) % Nat.pow 2 r.bits) filler
    else filler

/-- Bytes as digits; at most `fuel` groups are written. -/
def encodeUpTo (r : Radix) : Nat → List UInt8 → List Char
  | 0, _ => []
  | _, [] => []
  | fuel + 1, b :: bs => r.groupText ((b :: bs).take r.bytes) ++ encodeUpTo r fuel ((b :: bs).drop r.bytes)

/-- Bytes as digits. -/
def encode (r : Radix) (bytes : ByteArray) : List Char := r.encodeUpTo (bytes.size + 1) bytes.data.toList

/-- The value of a digit. -/
def value? (r : Radix) (c : Char) : Option Nat := r.digits.findIdx? (· == c)

/-- The bytes that some digits are, so far as they are known. -/
def bytesOf (r : Radix) (digits : List Nat) : List UInt8 :=
  let bits := r.bits * digits.length
  let number := digits.foldl (fun n d => n * Nat.pow 2 r.bits + d) 0 / Nat.pow 2 (bits % 8)
  (List.range (bits / 8)).map fun i =>
    let b := number / Nat.pow 256 (bits / 8 - 1 - i) % 256
    UInt8.ofNat (if r.turned then turn b else b)

/-- The bytes that a group of digits is, and whether it is a right one. -/
def groupBytes (r : Radix) (part : List Char) : List UInt8 × Bool :=
  let own := (part.map r.value?).takeWhile Option.isSome
  let bytes := r.bytesOf (own.filterMap id)
  let rest := part.drop own.length
  let ends := (List.range r.bytes).any fun n => 0 < n && (8 * n + r.bits - 1) / r.bits = own.length
  if part.length < r.group then (if r.lenient then bytes else [], false)
  else (bytes, rest = [] || (ends && rest.all (· == filler)))

/-- The bytes that digits are up to the first wrong group, and whether there is none; at most `fuel`
groups are read. -/
def decodeUpTo (r : Radix) : Nat → List Char → Array UInt8 → Array UInt8 × Bool
  | 0, _, found => (found, true)
  | _, [], found => (found, true)
  | fuel + 1, c :: cs, found =>
    let (bytes, right) := r.groupBytes ((c :: cs).take r.group)
    let found := found ++ bytes.toArray
    if right then decodeUpTo r fuel ((c :: cs).drop r.group) found else (found, false)

/-- The bytes that digits are up to the first wrong group, and whether there is none. Line ends do not
matter. -/
def decode (r : Radix) (cs : List Char) : Array UInt8 × Bool :=
  let cs := cs.filter (· != '\n')
  r.decodeUpTo (cs.length + 1) cs #[]

end Radix

end CrossBench
