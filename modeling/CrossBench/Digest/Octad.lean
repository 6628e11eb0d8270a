import CrossBench.Digest.Chained

/-!
# Digests of eight words

The family SHA-2 has states of eight words, of four or of eight bytes. What they begin with and what is
added in each round are parts of roots of the first prime numbers.
-/

namespace CrossBench.Digest

/-! ## Constants -/

/-- Whether a number is prime. -/
def isPrime (n : Nat) : Bool := 2 ≤ n && (List.range n).all fun d => d < 2 || n % d ≠ 0

/-- The first eighty prime numbers. -/
def primes : List Nat := (List.range 410).filter isPrime

/-- The whole part of a root: the greatest number below `2 ^ bits` more than `base` whose power is not
above `n`. -/
def root (degree n : Nat) : Nat → Nat → Nat
  | 0, base => base
  | bits + 1, base =>
    let next := base + Nat.pow 2 bits
    if Nat.pow next degree ≤ n then root degree n bits next else root degree n bits base

/-- The first bits behind the point of a root. -/
def rootBits (degree bits n : Nat) : Nat := root degree (n * Nat.pow 2 (degree * bits)) (bits + 5) 0 % Nat.pow 2 bits

/-- What is added in the rounds of the digests with words of eight bytes; the upper halves are added in
those with words of four bytes. -/
def cubeRoots : Array UInt64 := (primes.map fun p => UInt64.ofNat (rootBits 3 64 p)).toArray

/-- What the longer digests begin with: parts of the square roots of eight prime numbers. -/
def squareRoots (skipped : Nat) : Array UInt64 :=
  (((primes.drop skipped).take 8).map fun p => UInt64.ofNat (rootBits 2 64 p)).toArray

/-- The upper half of a word. -/
def upper (x : UInt64) : UInt32 := (x >>> 32).toUInt32

/-- The lower half of a word. -/
def lower (x : UInt64) : UInt32 := x.toUInt32

/-! ## Words of four bytes -/

/-- A state of eight words of four bytes. -/
structure Octad where
  a : UInt32
  b : UInt32
  c : UInt32
  d : UInt32
  e : UInt32
  f : UInt32
  g : UInt32
  h : UInt32

namespace Octad

/-- The state of some words. -/
def ofArray (ws : Array UInt32) : Octad :=
  ⟨ws.getD 0 0, ws.getD 1 0, ws.getD 2 0, ws.getD 3 0, ws.getD 4 0, ws.getD 5 0, ws.getD 6 0, ws.getD 7 0⟩

/-- The words of a state. -/
def words (s : Octad) : List UInt32 := [s.a, s.b, s.c, s.d, s.e, s.f, s.g, s.h]

/-- The sum of two states, word by word. -/
def add (s t : Octad) : Octad :=
  ⟨s.a + t.a, s.b + t.b, s.c + t.c, s.d + t.d, s.e + t.e, s.f + t.f, s.g + t.g, s.h + t.h⟩

/-- The words for the rounds. -/
def schedule (bytes : ByteArray) (place : Nat) : Array UInt32 :=
  let first := ((List.range 16).map fun i => Order.mostFirst.word bytes (place + 4 * i)).toArray
  (List.range 48).foldl (fun ws i =>
    let x := ws.getD (i + 1) 0
    let y := ws.getD (i + 14) 0
    let low := turnRight x 7 ^^^ turnRight x 18 ^^^ (x >>> 3)
    let high := turnRight y 17 ^^^ turnRight y 19 ^^^ (y >>> 10)
    ws.push (ws.getD i 0 + low + ws.getD (i + 9) 0 + high)) first

/-- A round. -/
def round (ws : Array UInt32) (s : Octad) (i : Nat) : Octad :=
  let high := turnRight s.e 6 ^^^ turnRight s.e 11 ^^^ turnRight s.e 25
  let choice := (s.e &&& s.f) ^^^ (~~~s.e &&& s.g)
  let first := s.h + high + choice + upper (cubeRoots.getD i 0) + ws.getD i 0
  let low := turnRight s.a 2 ^^^ turnRight s.a 13 ^^^ turnRight s.a 22
  let most := (s.a &&& s.b) ^^^ (s.a &&& s.c) ^^^ (s.b &&& s.c)
  ⟨first + low + most, s.a, s.b, s.c, s.d + first, s.e, s.f, s.g⟩

/-- The state behind a message. -/
def digest (first : Octad) (message : ByteArray) : ByteArray :=
  let bytes := padded .mostFirst 64 8 message
  let s := foldBlocks 64 bytes first fun s place =>
    s.add ((List.range 64).foldl (round (schedule bytes place)) s)
  bytesOfWords .mostFirst 4 (s.words.map (·.toNat))

end Octad

/-- The digest SHA-256. -/
def sha256 (message : ByteArray) : ByteArray :=
  Octad.digest (.ofArray ((squareRoots 0).map upper)) message

/-- The digest SHA-224. -/
def sha224 (message : ByteArray) : ByteArray :=
  (Octad.digest (.ofArray ((squareRoots 8).map lower)) message).extract 0 28

/-! ## Words of eight bytes -/

/-- A state of eight words of eight bytes. -/
structure LongOctad where
  a : UInt64
  b : UInt64
  c : UInt64
  d : UInt64
  e : UInt64
  f : UInt64
  g : UInt64
  h : UInt64

namespace LongOctad

/-- The state of some words. -/
def ofArray (ws : Array UInt64) : LongOctad :=
  ⟨ws.getD 0 0, ws.getD 1 0, ws.getD 2 0, ws.getD 3 0, ws.getD 4 0, ws.getD 5 0, ws.getD 6 0, ws.getD 7 0⟩

/-- The words of a state. -/
def words (s : LongOctad) : List UInt64 := [s.a, s.b, s.c, s.d, s.e, s.f, s.g, s.h]

/-- The sum of two states, word by word. -/
def add (s t : LongOctad) : LongOctad :=
  ⟨s.a + t.a, s.b + t.b, s.c + t.c, s.d + t.d, s.e + t.e, s.f + t.f, s.g + t.g, s.h + t.h⟩

/-- The words for the rounds. -/
def schedule (bytes : ByteArray) (place : Nat) : Array UInt64 :=
  let first := ((List.range 16).map fun i => Order.mostFirst.longWord bytes (place + 8 * i)).toArray
  (List.range 64).foldl (fun ws i =>
    let x := ws.getD (i + 1) 0
    let y := ws.getD (i + 14) 0
    let low := turnLong x 1 ^^^ turnLong x 8 ^^^ (x >>> 7)
    let high := turnLong y 19 ^^^ turnLong y 61 ^^^ (y >>> 6)
    ws.push (ws.getD i 0 + low + ws.getD (i + 9) 0 + high)) first

/-- A round. -/
def round (ws : Array UInt64) (s : LongOctad) (i : Nat) : LongOctad :=
  let high := turnLong s.e 14 ^^^ turnLong s.e 18 ^^^ turnLong s.e 41
  let choice := (s.e &&& s.f) ^^^ (~~~s.e &&& s.g)
  let first := s.h + high + choice + cubeRoots.getD i 0 + ws.getD i 0
  let low := turnLong s.a 28 ^^^ turnLong s.a 34 ^^^ turnLong s.a 39
  let most := (s.a &&& s.b) ^^^ (s.a &&& s.c) ^^^ (s.b &&& s.c)
  ⟨first + low + most, s.a, s.b, s.c, s.d + first, s.e, s.f, s.g⟩

/-- The state behind a message. -/
def digest (first : LongOctad) (message : ByteArray) : ByteArray :=
  let bytes := padded .mostFirst 128 16 message
  let s := foldBlocks 128 bytes first fun s place =>
    s.add ((List.range 80).foldl (round (schedule bytes place)) s)
  bytesOfWords .mostFirst 8 (s.words.map (·.toNat))

end LongOctad

/-- The digest SHA-512. -/
def sha512 (message : ByteArray) : ByteArray := LongOctad.digest (.ofArray (squareRoots 0)) message

/-- The digest SHA-384. -/
def sha384 (message : ByteArray) : ByteArray :=
  (LongOctad.digest (.ofArray (squareRoots 8)) message).extract 0 48

/-! ## The digest BLAKE2b -/

/-- The orders in which the words of a block are taken in the rounds. -/
def blakeOrders : Array (Array Nat) :=
  #[#[0, 1, 2, 3, 4, 5, 6, 7, 8, 9, 10, 11, 12, 13, 14, 15],
    #[14, 10, 4, 8, 9, 15, 13, 6, 1, 12, 0, 2, 11, 7, 5, 3],
    #[11, 8, 12, 0, 5, 2, 15, 13, 10, 14, 3, 6, 7, 1, 9, 4],
    #[7, 9, 3, 1, 13, 12, 11, 14, 2, 6, 5, 10, 4, 0, 15, 8],
    #[9, 0, 5, 7, 2, 4, 10, 15, 14, 1, 11, 12, 6, 8, 3, 13],
    #[2, 12, 6, 10, 0, 11, 8, 3, 4, 13, 7, 5, 15, 14, 1, 9],
    #[12, 5, 1, 15, 14, 13, 4, 10, 0, 7, 6, 3, 9, 2, 8, 11],
    #[13, 11, 7, 14, 12, 1, 3, 9, 5, 0, 15, 4, 8, 6, 2, 10],
    #[6, 15, 14, 9, 11, 3, 0, 8, 12, 2, 13, 7, 1, 4, 10, 5],
    #[10, 2, 8, 4, 7, 6, 1, 5, 15, 11, 9, 14, 3, 12, 13, 0]]

/-- Mixes four words of a state of sixteen with two of a block. -/
def blakeMix (v : Array UInt64) (a b c d : Nat) (x y : UInt64) : Array UInt64 :=
  let get (v : Array UInt64) (i : Nat) : UInt64 := v.getD i 0
  let p := get v a + get v b + x
  let s := turnLong (get v d ^^^ p) 32
  let r := get v c + s
  let q := turnLong (get v b ^^^ r) 24
  let p := p + q + y
  let s := turnLong (s ^^^ p) 16
  let r := r + s
  let q := turnLong (q ^^^ r) 63
  (((v.set! a p).set! b q).set! c r).set! d s

/-- Takes in a block; `count` bytes have been taken in with it. -/
def blakeBlock (bytes : ByteArray) (place count : Nat) (last : Bool) (h : Array UInt64) : Array UInt64 :=
  let initial := squareRoots 0
  let words := ((List.range 16).map fun i => Order.leastFirst.longWord bytes (place + 8 * i)).toArray
  let v := h ++ initial
  let v := v.modify 12 (· ^^^ UInt64.ofNat count)
  let v := if last then v.modify 14 (~~~ ·) else v
  let v := (List.range 12).foldl (fun v i =>
    let order := blakeOrders.getD (i % 10) #[]
    let word (j : Nat) : UInt64 := words.getD (order.getD j 0) 0
    let v := blakeMix v 0 4 8 12 (word 0) (word 1)
    let v := blakeMix v 1 5 9 13 (word 2) (word 3)
    let v := blakeMix v 2 6 10 14 (word 4) (word 5)
    let v := blakeMix v 3 7 11 15 (word 6) (word 7)
    let v := blakeMix v 0 5 10 15 (word 8) (word 9)
    let v := blakeMix v 1 6 11 12 (word 10) (word 11)
    let v := blakeMix v 2 7 8 13 (word 12) (word 13)
    blakeMix v 3 4 9 14 (word 14) (word 15)) v
  ((List.range 8).map fun i => h.getD i 0 ^^^ v.getD i 0 ^^^ v.getD (i + 8) 0).toArray

/-- The digest BLAKE2b of so many bytes. -/
def blake2b (size : Nat) (message : ByteArray) : ByteArray :=
  let first := (squareRoots 0).modify 0 (· ^^^ UInt64.ofNat (0x01010000 + size))
  let blocks := max 1 ((message.size + 127) / 128)
  let bytes := message ++ ⟨Array.replicate (blocks * 128 - message.size) 0⟩
  let h := (List.range blocks).foldl (fun h i =>
    let last := decide (i + 1 = blocks)
    blakeBlock bytes (128 * i) (if last then message.size else 128 * (i + 1)) last h) first
  (bytesOfWords .leastFirst 8 (h.toList.map (·.toNat))).extract 0 size

end CrossBench.Digest
