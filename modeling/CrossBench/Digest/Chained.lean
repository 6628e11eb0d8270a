/-!
# Digests of four and five words

MD5 and SHA-1 take in a message block by block. For each block a state of a few words goes through
rounds, in each of which one word of it is made of all of them and a word of the block.
-/

/-!
## Words in bytes

Digests are reckoned in words of four or eight bytes, whose first byte is the most or the least
significant one. A message is filled up to whole blocks: with one bit, with zeros, and with its own
length.
-/

namespace CrossBench.Digest

/-- Which byte of a word comes first. -/
inductive Order where
  | mostFirst
  | leastFirst
  deriving DecidableEq

/-- A number as so many bytes. -/
def Order.bytes (o : Order) (count n : Nat) : ByteArray :=
  let least := (List.range count).map fun i => UInt8.ofNat (n / Nat.pow 256 i)
  ⟨(match o with
    | .mostFirst => least.reverse
    | .leastFirst => least).toArray⟩

/-- A byte as a word. -/
def byteAt (bytes : ByteArray) (place : Nat) : UInt32 := (bytes.data.getD place 0).toUInt32

/-- The word of four bytes at a place. -/
def Order.word (o : Order) (bytes : ByteArray) (place : Nat) : UInt32 :=
  let a := byteAt bytes place
  let b := byteAt bytes (place + 1)
  let c := byteAt bytes (place + 2)
  let d := byteAt bytes (place + 3)
  match o with
  | .mostFirst => (a <<< 24) ||| (b <<< 16) ||| (c <<< 8) ||| d
  | .leastFirst => (d <<< 24) ||| (c <<< 16) ||| (b <<< 8) ||| a

/-- The word of eight bytes at a place. -/
def Order.longWord (o : Order) (bytes : ByteArray) (place : Nat) : UInt64 :=
  let first := (o.word bytes place).toUInt64
  let second := (o.word bytes (place + 4)).toUInt64
  match o with
  | .mostFirst => (first <<< 32) ||| second
  | .leastFirst => (second <<< 32) ||| first

/-- A word turned to the left. -/
def turnLeft (x n : UInt32) : UInt32 := (x <<< n) ||| (x >>> (32 - n))

/-- A word turned to the right. -/
def turnRight (x n : UInt32) : UInt32 := (x >>> n) ||| (x <<< (32 - n))

/-- A long word turned to the right. -/
def turnLong (x n : UInt64) : UInt64 := (x >>> n) ||| (x <<< (64 - n))

/-- A message filled up to whole blocks; its length takes `lengthSize` bytes. -/
def padded (o : Order) (block lengthSize : Nat) (message : ByteArray) : ByteArray :=
  let zeros := (2 * block - (message.size + 1 + lengthSize) % block) % block
  message ++ ⟨#[0x80]⟩ ++ ⟨Array.replicate zeros 0⟩ ++ o.bytes lengthSize (8 * message.size)

/-- Goes through the blocks of a message. -/
def foldBlocks {σ : Type} (block : Nat) (message : ByteArray) (first : σ) (step : σ → Nat → σ) : σ :=
  (List.range (message.size / block)).foldl (fun s i => step s (block * i)) first

/-- Words as bytes. -/
def bytesOfWords (o : Order) (size : Nat) (words : List Nat) : ByteArray :=
  words.foldl (fun bytes n => bytes ++ o.bytes size n) .empty

/-- Bytes in hexadecimal digits. -/
def hexadecimal (bytes : ByteArray) : String :=
  let digit (n : Nat) : Char := Char.ofNat (if n < 10 then 48 + n else 87 + n)
  String.ofList (bytes.data.toList.flatMap fun b => [digit (b.toNat / 16), digit (b.toNat % 16)])

/-!
## Checksums

Short numbers that tell whether bytes have been changed by chance.
-/

/-- Takes a bit from the left end of a word of a cyclic code. -/
def cyclicStep (n : UInt32) : UInt32 :=
  if n &&& 0x80000000 = 0 then n <<< 1 else (n <<< 1) ^^^ 0x04c11db7

/-- What a byte at the left end of a word does to it. -/
def cyclicTable : Array UInt32 :=
  ((List.range 256).map fun i =>
    (List.range 8).foldl (fun n _ => cyclicStep n) (UInt32.ofNat i <<< 24)).toArray

/-- Takes a byte into a cyclic code. -/
def cyclicByte (n : UInt32) (b : UInt8) : UInt32 :=
  (n <<< 8) ^^^ cyclicTable.getD ((n >>> 24).toNat ^^^ b.toNat) 0

/-- The bytes of a number, the least first, without zeros behind them. -/
def lengthBytes : Nat → Nat → List UInt8
  | 0, _ => []
  | fuel + 1, n => if n = 0 then [] else UInt8.ofNat n :: lengthBytes fuel (n / 256)

/-- The cyclic code of bytes and their number. -/
def cyclicSum (bytes : ByteArray) : Nat :=
  let n := bytes.foldl cyclicByte 0
  (~~~ ((lengthBytes 9 bytes.size).foldl cyclicByte n)).toNat

/-- The sum of bytes, with the sum turned to the right in front of each byte. -/
def turnedSum (bytes : ByteArray) : Nat :=
  (bytes.foldl (fun (n : UInt32) b =>
    ((n >>> 1) + ((n &&& 1) <<< 15) + b.toUInt32) &&& 0xffff) 0).toNat

/-- The sum of bytes, folded to sixteen bits. -/
def plainSum (bytes : ByteArray) : Nat :=
  let n := (bytes.foldl (fun (n : UInt64) b => n + b.toUInt64) 0).toNat % 4294967296
  let r := n % 65536 + n / 65536
  r % 65536 + r / 65536

end CrossBench.Digest

namespace CrossBench.Digest

/-! ## Four words -/

/-- A state of four words. -/
structure Quad where
  a : UInt32
  b : UInt32
  c : UInt32
  d : UInt32

/-- What is added in each round of MD5: parts of the sines of the numbers from 1 on. -/
def sines : Array UInt32 :=
  #[0xd76aa478, 0xe8c7b756, 0x242070db, 0xc1bdceee, 0xf57c0faf, 0x4787c62a, 0xa8304613, 0xfd469501,
    0x698098d8, 0x8b44f7af, 0xffff5bb1, 0x895cd7be, 0x6b901122, 0xfd987193, 0xa679438e, 0x49b40821,
    0xf61e2562, 0xc040b340, 0x265e5a51, 0xe9b6c7aa, 0xd62f105d, 0x02441453, 0xd8a1e681, 0xe7d3fbc8,
    0x21e1cde6, 0xc33707d6, 0xf4d50d87, 0x455a14ed, 0xa9e3e905, 0xfcefa3f8, 0x676f02d9, 0x8d2a4c8a,
    0xfffa3942, 0x8771f681, 0x6d9d6122, 0xfde5380c, 0xa4beea44, 0x4bdecfa9, 0xf6bb4b60, 0xbebfbc70,
    0x289b7ec6, 0xeaa127fa, 0xd4ef3085, 0x04881d05, 0xd9d4d039, 0xe6db99e5, 0x1fa27cf8, 0xc4ac5665,
    0xf4292244, 0x432aff97, 0xab9423a7, 0xfc93a039, 0x655b59c3, 0x8f0ccc92, 0xffeff47d, 0x85845dd1,
    0x6fa87e4f, 0xfe2ce6e0, 0xa3014314, 0x4e0811a1, 0xf7537e82, 0xbd3af235, 0x2ad7d2bb, 0xeb86d391]

/-- By how much words are turned in the rounds of MD5. -/
def turns : Array UInt32 := #[7, 12, 17, 22, 5, 9, 14, 20, 4, 11, 16, 23, 6, 10, 15, 21]

/-- A round of MD5. -/
def quadRound (bytes : ByteArray) (place : Nat) (s : Quad) (i : Nat) : Quad :=
  let (mixed, word) : UInt32 × Nat :=
    match i / 16 with
    | 0 => ((s.b &&& s.c) ||| (~~~s.b &&& s.d), i)
    | 1 => ((s.d &&& s.b) ||| (~~~s.d &&& s.c), (5 * i + 1) % 16)
    | 2 => (s.b ^^^ s.c ^^^ s.d, (3 * i + 5) % 16)
    | _ => (s.c ^^^ (s.b ||| ~~~s.d), 7 * i % 16)
  let sum := s.a + mixed + sines.getD i 0 + Order.leastFirst.word bytes (place + 4 * word)
  ⟨s.d, s.b + turnLeft sum (turns.getD (i / 16 * 4 + i % 4) 0), s.b, s.c⟩

/-- The digest MD5. -/
def md5 (message : ByteArray) : ByteArray :=
  let bytes := padded .leastFirst 64 8 message
  let s := foldBlocks 64 bytes (⟨0x67452301, 0xefcdab89, 0x98badcfe, 0x10325476⟩ : Quad) fun s place =>
    let t := (List.range 64).foldl (quadRound bytes place) s
    ⟨s.a + t.a, s.b + t.b, s.c + t.c, s.d + t.d⟩
  bytesOfWords .leastFirst 4 [s.a.toNat, s.b.toNat, s.c.toNat, s.d.toNat]

/-! ## Five words -/

/-- A state of five words. -/
structure Quint where
  a : UInt32
  b : UInt32
  c : UInt32
  d : UInt32
  e : UInt32

/-- The words for the rounds of SHA-1: those of the block, and more that are made of these. -/
def quintSchedule (bytes : ByteArray) (place : Nat) : Array UInt32 :=
  let first := ((List.range 16).map fun i => Order.mostFirst.word bytes (place + 4 * i)).toArray
  (List.range 64).foldl (fun ws i =>
    ws.push (turnLeft (ws.getD (i + 13) 0 ^^^ ws.getD (i + 8) 0 ^^^ ws.getD (i + 2) 0 ^^^ ws.getD i 0) 1)) first

/-- A round of SHA-1. -/
def quintRound (words : Array UInt32) (s : Quint) (i : Nat) : Quint :=
  let (mixed, constant) : UInt32 × UInt32 :=
    match i / 20 with
    | 0 => ((s.b &&& s.c) ||| (~~~s.b &&& s.d), 0x5a827999)
    | 1 => (s.b ^^^ s.c ^^^ s.d, 0x6ed9eba1)
    | 2 => ((s.b &&& s.c) ||| (s.b &&& s.d) ||| (s.c &&& s.d), 0x8f1bbcdc)
    | _ => (s.b ^^^ s.c ^^^ s.d, 0xca62c1d6)
  ⟨turnLeft s.a 5 + mixed + s.e + constant + words.getD i 0, s.a, turnLeft s.b 30, s.c, s.d⟩

/-- The digest SHA-1. -/
def sha1 (message : ByteArray) : ByteArray :=
  let bytes := padded .mostFirst 64 8 message
  let first : Quint := ⟨0x67452301, 0xefcdab89, 0x98badcfe, 0x10325476, 0xc3d2e1f0⟩
  let s := foldBlocks 64 bytes first fun s place =>
    let t := (List.range 80).foldl (quintRound (quintSchedule bytes place)) s
    ⟨s.a + t.a, s.b + t.b, s.c + t.c, s.d + t.d, s.e + t.e⟩
  bytesOfWords .mostFirst 4 [s.a.toNat, s.b.toNat, s.c.toNat, s.d.toNat, s.e.toNat]

end CrossBench.Digest
