/-!
# Reading bytes as text

File names, captured output and configuration files are bytes; what the harness prints is text.
This file holds the one decoder that both readings go through: `decodeParts` walks the bytes once
and answers, piece by piece, either a character or the mark that a maximal ill-formed piece was
found there.

* `decode?` accepts a byte string only if every piece is a character.
* `decodeLossy` writes U+FFFD for each ill-formed piece.
* `encode` is the way back.

An ill-formed piece is as long as it can be while still being the start of some encoded character,
so `E2 82 41` is one replacement followed by `A`, and `C0 AF` is two replacements.
-/

namespace CrossBench.Utf8

/-- What is still missing of a character whose first bytes have been read: the number of bytes
left, the range the next byte has to lie in, and the bits collected so far. -/
structure Pending where
  left : Nat
  low : UInt8
  high : UInt8
  code : Nat

/-- What the first byte of a piece says. -/
inductive Lead where
  | single (c : Char)
  | more (p : Pending)
  | malformed

/-- The first byte of a piece decides its length and, with the second byte's range, rules out
overlong forms, surrogates and values above U+10FFFF. -/
def Lead.of (b : UInt8) : Lead :=
  if b < 0x80 then .single (Char.ofNat b.toNat)
  else if b < 0xC2 then .malformed
  else if b < 0xE0 then .more ⟨1, 0x80, 0xBF, b.toNat - 0xC0⟩
  else if b = 0xE0 then .more ⟨2, 0xA0, 0xBF, 0⟩
  else if b = 0xED then .more ⟨2, 0x80, 0x9F, 0xD⟩
  else if b < 0xF0 then .more ⟨2, 0x80, 0xBF, b.toNat - 0xE0⟩
  else if b = 0xF0 then .more ⟨3, 0x90, 0xBF, 0⟩
  else if b < 0xF4 then .more ⟨3, 0x80, 0xBF, b.toNat - 0xF0⟩
  else if b = 0xF4 then .more ⟨3, 0x80, 0x8F, 4⟩
  else .malformed

/-- The bits of `p` with those of one more byte behind them. -/
def Pending.extend (p : Pending) (b : UInt8) : Nat := p.code * 64 + b.toNat % 64

/-- The pieces of a byte string: a character, or `none` for an ill-formed piece. The first argument
is the character that is under way. -/
def decodeFrom : Option Pending → List UInt8 → List (Option Char)
  | none, [] => []
  | some _, [] => [none]
  | none, b :: rest =>
    match Lead.of b with
    | .single c => some c :: decodeFrom none rest
    | .more p => decodeFrom (some p) rest
    | .malformed => none :: decodeFrom none rest
  | some p, b :: rest =>
    if p.low ≤ b ∧ b ≤ p.high then
      if p.left ≤ 1 then some (Char.ofNat (p.extend b)) :: decodeFrom none rest
      else decodeFrom (some ⟨p.left - 1, 0x80, 0xBF, p.extend b⟩) rest
    else
      match Lead.of b with
      | .single c => none :: some c :: decodeFrom none rest
      | .more q => none :: decodeFrom (some q) rest
      | .malformed => none :: none :: decodeFrom none rest

/-- The pieces of a whole byte string. -/
def decodeParts (bytes : List UInt8) : List (Option Char) := decodeFrom none bytes

/-- The text of a well-formed byte string. -/
def decode? (bytes : List UInt8) : Option String :=
  ((decodeParts bytes).mapM id).map String.ofList

/-- The text of any byte string, with U+FFFD for each ill-formed piece. -/
def decodeLossy (bytes : List UInt8) : String :=
  String.ofList ((decodeParts bytes).map (·.getD '\uFFFD'))

/-- The bytes of a text. -/
def encode (s : String) : List UInt8 := s.toList.flatMap String.utf8EncodeChar

@[simp] theorem encode_empty : encode "" = [] := rfl

@[simp] theorem encode_append (s t : String) : encode (s ++ t) = encode s ++ encode t := by
  simp [encode]

/-- Different texts have different bytes. -/
theorem encode_injective {s t : String} (same : encode s = encode t) : s = t := by
  have bytes : s.toList.utf8Encode = t.toList.utf8Encode :=
    congrArg List.toByteArray same
  rwa [String.utf8Encode_toList, String.utf8Encode_toList, String.toByteArray_inj] at bytes

end CrossBench.Utf8
