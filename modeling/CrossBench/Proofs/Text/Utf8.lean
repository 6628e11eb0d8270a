import CrossBench.Text.Utf8
import Mathlib

/-!
# Texts and their bytes

A character has one to four bytes.  The first one says how many bytes are behind it and
begins with the first bits of the character's number; each of the others has six more
bits.  Two things follow from how the numbers are divided among the four lengths.

* **Texts are ordered as their bytes are** (`Utf8.encode_lt_encode_iff`): of two numbers
  with the same length the first bits that differ decide, and a greater length has a
  greater first byte.
* **What can be read is what was written** (`Utf8.decode?_eq_some_iff`): a byte string is
  well-formed if it is the bytes of some text, and then it is read as that text.  The
  reader takes one byte after the other, so what carries the proof is which numbers a
  character under way can still come to (`Pending.Admits`).
-/

namespace CrossBench.Utf8

open String (utf8EncodeChar)

/-! ## The bytes of a character

A number is divided into its first bits and groups of six behind them.  `Sized` says how
many groups there are.
-/

/-- The least number of a character with so many bytes behind the first one. -/
def least : ℕ → ℕ
  | 0 => 0
  | 1 => 0x80
  | 2 => 0x800
  | 3 => 0x10000
  | _ => 0x110000

/-- What is added to the first bits of a character to say how many bytes are behind them. -/
def mark : ℕ → ℕ
  | 0 => 0
  | 1 => 0xC0
  | 2 => 0xE0
  | _ => 0xF0

/-- The last bits of a number, six in each of so many bytes. -/
def tailBytes : ℕ → ℕ → List UInt8
  | 0, _ => []
  | k + 1, v => UInt8.ofNat (v / 64 ^ k % 64 + 128) :: tailBytes k v

theorem tailBytes_succ (k v : ℕ) :
    tailBytes (k + 1) v = UInt8.ofNat (v / 64 ^ k % 64 + 128) :: tailBytes k v := rfl

/-- A number that has so many bytes behind the first one. -/
structure Sized (k v : ℕ) : Prop where
  few : k ≤ 3
  le : least k ≤ v
  lt : v < least (k + 1)

theorem toNat_ofNat_of_lt {n : ℕ} (less : n < 256) : (UInt8.ofNat n).toNat = n := by
  rw [UInt8.toNat_ofNat', Nat.mod_eq_of_lt less]

theorem isValidChar_toNat (c : Char) : c.toNat.isValidChar := c.valid

theorem exists_sized {v : ℕ} (valid : v.isValidChar) : ∃ k, Sized k v := by
  have limit : v < 0x110000 := by
    unfold Nat.isValidChar at valid
    omega
  by_cases one : v < 0x80
  · exact ⟨0, by decide, Nat.zero_le v, one⟩
  by_cases two : v < 0x800
  · exact ⟨1, by decide, not_lt.mp one, two⟩
  by_cases three : v < 0x10000
  · exact ⟨2, by decide, not_lt.mp two, three⟩
  · exact ⟨3, by decide, not_lt.mp three, limit⟩

namespace Sized

variable {k l v w : ℕ}

/-- The bytes of a character, by the number of bytes behind the first one. -/
theorem encodeChar {c : Char} (sized : Sized k c.toNat) :
    utf8EncodeChar c = UInt8.ofNat (mark k + c.toNat / 64 ^ k) :: tailBytes k c.toNat := by
  obtain ⟨few, le, lt⟩ := sized
  have number : c.val.toNat = c.toNat := rfl
  simp only [utf8EncodeChar, number]
  generalize c.toNat = v at le lt
  -- one, two, three or four bytes
  interval_cases k <;> simp only [least] at le lt
  · rw [if_pos (by omega)]
    simp [mark, tailBytes]
  · have first : v / 64 % 32 = v / 64 := by omega
    rw [if_neg (by omega), if_pos (by omega), first]
    simp [mark, tailBytes, Nat.add_comm]
  · have first : v / 4096 % 16 = v / 4096 := by omega
    rw [if_neg (by omega), if_neg (by omega), if_pos (by omega), first]
    simp [mark, tailBytes, Nat.add_comm]
  · have first : v / 262144 % 8 = v / 262144 := by omega
    rw [if_neg (by omega), if_neg (by omega), if_neg (by omega), first]
    simp [mark, tailBytes, Nat.add_comm]

/-- The first byte is as great as the mark of its size and the leading bits make it. -/
theorem toNat_first (sized : Sized k v) :
    (UInt8.ofNat (mark k + v / 64 ^ k)).toNat = mark k + v / 64 ^ k := by
  obtain ⟨few, -, lt⟩ := sized
  refine toNat_ofNat_of_lt ?_
  interval_cases k <;> simp only [mark, least] at lt ⊢ <;> omega

/-- Of two numbers with different lengths the smaller one has the smaller first byte. -/
theorem first_lt (hv : Sized k v) (hw : Sized l w) (less : v < w) :
    k = l ∨ mark k + v / 64 ^ k < mark l + w / 64 ^ l := by
  obtain ⟨few, le, lt⟩ := hv
  obtain ⟨few', le', lt'⟩ := hw
  rcases lt_trichotomy k l with shorter | same | longer
  · right
    interval_cases l <;> interval_cases k <;> simp only [mark, least] at * <;> omega
  · exact .inl same
  · -- a greater length begins where a smaller one ends
    interval_cases k <;> interval_cases l <;> simp only [least, Nat.reduceAdd] at * <;> omega

end Sized

/-! ## Bytes that stand for themselves

Dots, slashes, hyphens and line breaks are such bytes, so a text is divided at them as its
bytes are.
-/

/-- Bytes behind the first one are not less than 128. -/
theorem le_of_mem_tailBytes {k v : ℕ} {b : UInt8} (mem : b ∈ tailBytes k v) : 128 ≤ b.toNat := by
  induction k with
  | zero => cases mem
  | succ k ih =>
      rcases List.mem_cons.mp mem with rfl | mem
      · rw [toNat_ofNat_of_lt (by omega)]
        omega
      · exact ih mem

/-- A byte below 128 is in no other character than the one that it stands for. -/
theorem mem_encodeChar_iff {c d : Char} (low : d.toNat < 128) :
    UInt8.ofNat d.toNat ∈ utf8EncodeChar c ↔ d = c := by
  have first : (UInt8.ofNat d.toNat).toNat = d.toNat := toNat_ofNat_of_lt (by omega)
  obtain ⟨k, sized⟩ := exists_sized (isValidChar_toNat c)
  rw [sized.encodeChar, List.mem_cons]
  constructor
  · rintro (same | mem)
    · have same := congrArg UInt8.toNat same
      rw [sized.toNat_first, first] at same
      obtain ⟨few, le, -⟩ := sized
      interval_cases k <;> simp only [mark, least] at same le <;> try omega
      exact Char.toNat_inj.mp (by simpa using same)
    · -- no byte behind the first one is below 128
      have high := le_of_mem_tailBytes mem
      omega
  · rintro rfl
    obtain ⟨few, le, -⟩ := sized
    left
    interval_cases k <;> simp only [least] at le <;> try omega
    simp [mark]

/-- A byte below 128 stands for its character, and only there. -/
theorem mem_encode_iff {d : Char} (low : d.toNat < 128) {s : String} :
    UInt8.ofNat d.toNat ∈ encode s ↔ d ∈ s.toList := by
  rw [encode, List.mem_flatMap]
  constructor
  · rintro ⟨c, mem, byte⟩
    exact (mem_encodeChar_iff low).mp byte ▸ mem
  · intro mem
    exact ⟨d, mem, (mem_encodeChar_iff low).mpr rfl⟩

/-- Such a byte is all that there is of its character. -/
theorem encodeChar_of_lt {d : Char} (low : d.toNat < 128) :
    utf8EncodeChar d = [UInt8.ofNat d.toNat] := by
  have sized : Sized 0 d.toNat := ⟨by decide, Nat.zero_le _, low⟩
  rw [sized.encodeChar]
  simp [mark, tailBytes]

/-- So a text begins with such a character exactly if its bytes begin with this byte. -/
theorem head?_encode_eq_some_iff {d : Char} (low : d.toNat < 128) {s : String} :
    (encode s).head? = some (UInt8.ofNat d.toNat) ↔ s.toList.head? = some d := by
  unfold encode
  cases s.toList with
  | nil => exact iff_of_false nofun nofun
  | cons c rest =>
      rw [List.flatMap_cons, List.head?_append, List.head?_cons, Option.some.injEq]
      constructor
      · intro first
        -- a character has a first byte, so the one that is found is its own
        have filled : utf8EncodeChar c ≠ [] := by
          obtain ⟨k, sized⟩ := exists_sized (isValidChar_toNat c)
          rw [sized.encodeChar]
          exact List.cons_ne_nil _ _
        rw [List.head?_eq_some_head filled, Option.some_or, Option.some.injEq] at first
        exact ((mem_encodeChar_iff low).mp (first ▸ List.head_mem filled)).symm
      · rintro rfl
        rw [encodeChar_of_lt low]
        rfl

/-! ## The order of texts

Character by character, and within a character byte by byte.
-/

/-- Numbers with the same first bits are ordered as their last bits are. -/
theorem tailBytes_lt {k v w : ℕ} (same : v / 64 ^ k = w / 64 ^ k) (less : v < w)
    (x y : List UInt8) : tailBytes k v ++ x < tailBytes k w ++ y := by
  induction k with
  | zero =>
      rw [pow_zero, Nat.div_one, Nat.div_one] at same
      exact absurd same less.ne
  | succ k ih =>
      rw [tailBytes_succ, tailBytes_succ, List.cons_append, List.cons_append,
        List.cons_lt_cons_iff]
      -- the first six bits decide, unless they are the same
      by_cases next : v / 64 ^ k = w / 64 ^ k
      · exact .inr ⟨by rw [next], ih next⟩
      · left
        have le : v / 64 ^ k ≤ w / 64 ^ k := Nat.div_le_div_right less.le
        rw [pow_succ, ← Nat.div_div_eq_div_mul, ← Nat.div_div_eq_div_mul] at same
        rw [UInt8.lt_iff_toNat_lt, toNat_ofNat_of_lt (by omega), toNat_ofNat_of_lt (by omega)]
        omega

/-- The bytes of a smaller character are smaller, whatever is behind them. -/
theorem encodeChar_lt {c d : Char} (less : c < d) (x y : List UInt8) :
    utf8EncodeChar c ++ x < utf8EncodeChar d ++ y := by
  have number : c.toNat < d.toNat := less
  obtain ⟨k, sized⟩ := exists_sized (isValidChar_toNat c)
  obtain ⟨l, sized'⟩ := exists_sized (isValidChar_toNat d)
  rw [sized.encodeChar, sized'.encodeChar, List.cons_append, List.cons_append,
    List.cons_lt_cons_iff, UInt8.lt_iff_toNat_lt, sized.toNat_first, sized'.toNat_first]
  rcases sized.first_lt sized' number with rfl | lower
  · have le : c.toNat / 64 ^ k ≤ d.toNat / 64 ^ k := Nat.div_le_div_right number.le
    rcases le.eq_or_lt with same | lower
    · exact .inr ⟨by rw [same], tailBytes_lt same number x y⟩
    · exact .inl (Nat.add_lt_add_left lower _)
  · exact .inl lower

theorem encode_lt_encode {s t : String} (less : s < t) : encode s < encode t := by
  unfold encode
  rw [String.lt_iff_toList_lt] at less
  generalize s.toList = cs, t.toList = ds at less
  induction less with
  | @nil d ds =>
      obtain ⟨k, sized⟩ := exists_sized (isValidChar_toNat d)
      rw [List.flatMap_cons, sized.encodeChar]
      exact List.nil_lt_cons _ _
  | rel lower => exact encodeChar_lt lower _ _
  | cons _ ih =>
      rw [List.flatMap_cons, List.flatMap_cons]
      exact List.append_left_lt ih

/-- **Texts are ordered as their bytes are.** -/
theorem encode_lt_encode_iff {s t : String} : encode s < encode t ↔ s < t := by
  refine ⟨fun less => ?_, encode_lt_encode⟩
  rcases lt_trichotomy s t with lower | rfl | higher
  · exact lower
  · exact absurd less (List.lt_irrefl _)
  · exact absurd less (List.lt_asymm (encode_lt_encode higher))

theorem encode_le_encode_iff {s t : String} : encode s ≤ encode t ↔ s ≤ t := by
  rw [← List.not_lt, encode_lt_encode_iff]
  exact String.not_lt

/-! ## First bytes

The table of the first bytes, as a relation with a case for each of its rows.
-/

/-- The first bytes that have others behind them, and what they say about the next one.
The ranges leave out numbers that fewer bytes are enough for, surrogates, and numbers
that are too great. -/
inductive Begins : UInt8 → Pending → Prop
  | two {n : ℕ} (more : 2 ≤ n) (less : n < 32) :
      Begins (UInt8.ofNat (0xC0 + n)) ⟨1, 0x80, 0xBF, n⟩
  | three {n : ℕ} (more : 0 < n) (less : n < 16) (other : n ≠ 13) :
      Begins (UInt8.ofNat (0xE0 + n)) ⟨2, 0x80, 0xBF, n⟩
  | leastOfThree : Begins 0xE0 ⟨2, 0xA0, 0xBF, 0⟩
  | surrogates : Begins 0xED ⟨2, 0x80, 0x9F, 13⟩
  | four {n : ℕ} (more : 0 < n) (less : n < 4) :
      Begins (UInt8.ofNat (0xF0 + n)) ⟨3, 0x80, 0xBF, n⟩
  | leastOfFour : Begins 0xF0 ⟨3, 0x90, 0xBF, 0⟩
  | greatestOfFour : Begins 0xF4 ⟨3, 0x80, 0x8F, 4⟩

/-- A byte that begins a longer character is read as such. -/
theorem lead_of_begins {b : UInt8} {p : Pending} (begins : Begins b p) :
    Lead.of b = .more p := by
  cases begins with
  | @two n more less => interval_cases n <;> rfl
  | @three n more less other => interval_cases n <;> first | rfl | exact absurd rfl other
  | @four n more less => interval_cases n <;> rfl
  | leastOfThree | surrogates | leastOfFour | greatestOfFour => rfl

theorem lead_of_lt {b : UInt8} (less : b.toNat < 0x80) :
    Lead.of b = .single (Char.ofNat b.toNat) :=
  if_pos (UInt8.lt_iff_toNat_lt.mpr less)

/-- A byte that can come first is a character by itself, or it has others behind it. -/
theorem lt_or_begins {b : UInt8} (known : Lead.of b ≠ .malformed) :
    b.toNat < 0x80 ∨ ∃ p, Begins b p := by
  have range : b.toNat < 0x80 ∨ 0xC2 ≤ b.toNat ∧ b.toNat < 0xF5 := by
    by_contra outside
    unfold Lead.of at known
    simp only [UInt8.lt_iff_toNat_lt, ← UInt8.toNat_inj, UInt8.reduceToNat] at known
    by_cases less : b.toNat < 0xC2
    · rw [if_neg (by omega), if_pos less] at known
      exact known rfl
    · -- past all nine ranges of the table
      iterate 9 rw [if_neg (by omega)] at known
      exact known rfl
  refine range.imp_right fun ⟨two, limit⟩ => ?_
  have same : UInt8.ofNat b.toNat = b := UInt8.ofNat_toNat
  rcases Nat.lt_or_ge b.toNat 0xE0 with less | three
  · obtain ⟨n, sum⟩ := Nat.exists_eq_add_of_le (by omega : 0xC0 ≤ b.toNat)
    rw [← same, sum]
    exact ⟨_, .two (by omega) (by omega)⟩
  rcases Nat.lt_or_ge b.toNat 0xF0 with less | four
  · obtain ⟨n, sum⟩ := Nat.exists_eq_add_of_le three
    rw [← same, sum]
    rcases (by omega : n = 0 ∨ n = 13 ∨ 0 < n ∧ n ≠ 13) with rfl | rfl | ⟨more, other⟩
    · exact ⟨_, .leastOfThree⟩
    · exact ⟨_, .surrogates⟩
    · exact ⟨_, .three more (by omega) other⟩
  · obtain ⟨n, sum⟩ := Nat.exists_eq_add_of_le four
    rw [← same, sum]
    rcases (by omega : n = 0 ∨ n = 4 ∨ 0 < n ∧ n < 4) with rfl | rfl | ⟨more, less⟩
    · exact ⟨_, .leastOfFour⟩
    · exact ⟨_, .greatestOfFour⟩
    · exact ⟨_, .four more less⟩

/-! ## Characters under way

What the reader keeps between two bytes.  The invariant says which numbers it can still come
to, and each byte narrows them down.
-/

/-- A number that a character under way can come to: its first bits have been read, and
its next byte is in the range. -/
def Pending.Admits (p : Pending) (v : ℕ) : Prop :=
  v / 64 ^ p.left = p.code ∧ p.low.toNat ≤ v / 64 ^ (p.left - 1) % 64 + 128 ∧
    v / 64 ^ (p.left - 1) % 64 + 128 ≤ p.high.toNat

/-- Something is missing of a character under way, and the range of its next byte has no
other bytes than those behind a first one. -/
structure Pending.Open (p : Pending) : Prop where
  some : 0 < p.left
  low : 128 ≤ p.low.toNat
  high : p.high.toNat ≤ 191

theorem Begins.isOpen {b : UInt8} {p : Pending} (begins : Begins b p) : p.Open := by
  cases begins <;> constructor <;> simp

/-- The numbers that a first byte leads to are those of characters with this first byte. -/
theorem Begins.sized {b : UInt8} {p : Pending} {v : ℕ} (begins : Begins b p)
    (admits : p.Admits v) :
    Sized p.left v ∧ v.isValidChar ∧ b = UInt8.ofNat (mark p.left + v / 64 ^ p.left) := by
  rw [admits.1]
  unfold Nat.isValidChar
  cases begins <;> simp [Pending.Admits] at admits <;>
    exact ⟨⟨by simp, by simp [least]; omega, by simp [least]; omega⟩, by omega, rfl⟩

/-- The first byte of a longer character begins one that admits it. -/
theorem Sized.exists_begins {k v : ℕ} (sized : Sized (k + 1) v) (valid : v.isValidChar) :
    ∃ p, Begins (UInt8.ofNat (mark (k + 1) + v / 64 ^ (k + 1))) p ∧ p.left = k + 1 ∧
      p.Admits v := by
  obtain ⟨few, le, lt⟩ := sized
  unfold Nat.isValidChar at valid
  have few : k ≤ 2 := Nat.le_of_succ_le_succ few
  -- the length is two, three or four bytes
  interval_cases k <;> simp only [least, Nat.reduceAdd] at le lt ⊢
  · exact ⟨_, .two (by omega) (by omega), rfl, by simp [Pending.Admits]; omega⟩
  · have first : v / 64 ^ 2 = 0 ∨ v / 64 ^ 2 = 13 ∨ 0 < v / 64 ^ 2 ∧ v / 64 ^ 2 ≠ 13 := by omega
    rcases first with least | surrogates | ⟨more, other⟩
    · rw [least]
      exact ⟨_, .leastOfThree, rfl, by simp [Pending.Admits]; omega⟩
    · rw [surrogates]
      exact ⟨_, .surrogates, rfl, by simp [Pending.Admits]; omega⟩
    · exact ⟨_, .three more (by omega) other, rfl, by simp [Pending.Admits]; omega⟩
  · have first : v / 64 ^ 3 = 0 ∨ v / 64 ^ 3 = 4 ∨ 0 < v / 64 ^ 3 ∧ v / 64 ^ 3 < 4 := by omega
    rcases first with least | greatest | ⟨more, less⟩
    · rw [least]
      exact ⟨_, .leastOfFour, rfl, by simp [Pending.Admits]; omega⟩
    · rw [greatest]
      exact ⟨_, .greatestOfFour, rfl, by simp [Pending.Admits]; omega⟩
    · exact ⟨_, .four more less, rfl, by simp [Pending.Admits]; omega⟩

section Reading

variable {b : UInt8} {bytes rest : List UInt8} {c : Char} {parts : List (Option Char)}

/-- One step of the reader inside a character. -/
theorem decodeFrom_some_cons_iff {p : Pending} :
    decodeFrom (some p) (b :: rest) = some c :: parts ↔
      (p.low ≤ b ∧ b ≤ p.high) ∧
        if p.left ≤ 1 then c = Char.ofNat (p.extend b) ∧ decodeFrom none rest = parts
        else decodeFrom (some ⟨p.left - 1, 0x80, 0xBF, p.extend b⟩) rest = some c :: parts := by
  rw [decodeFrom]
  split
  next admitted =>
    rw [and_iff_right admitted]
    split
    · rw [List.cons.injEq, Option.some_inj, eq_comm (a := c)]
    · rfl
  next refused =>
    -- the character breaks off here, whatever the byte begins
    refine iff_of_false ?_ fun h => refused h.1
    split <;> simp

/-- **The rest of a character under way** is the last bits of a number that it can come to. -/
theorem decodeFrom_some_iff {k code : ℕ} {low high : UInt8} (hlow : 128 ≤ low.toNat)
    (hhigh : high.toNat ≤ 191) :
    decodeFrom (some ⟨k + 1, low, high, code⟩) bytes = some c :: parts ↔
      ∃ v rest, Pending.Admits ⟨k + 1, low, high, code⟩ v ∧ c = Char.ofNat v ∧
        bytes = tailBytes (k + 1) v ++ rest ∧ decodeFrom none rest = parts := by
  -- the next byte has six bits of the number, and the one behind it is read without bounds
  induction k generalizing low high code bytes with
  | zero =>
      cases bytes with
      | nil => simp [decodeFrom, tailBytes]
      | cons b rest =>
          rw [decodeFrom_some_cons_iff, if_pos le_rfl, UInt8.le_iff_toNat_le,
            UInt8.le_iff_toNat_le]
          simp only [Pending.Admits, Pending.extend, tailBytes, Nat.zero_add, pow_one,
            Nat.sub_self, pow_zero, Nat.div_one]
          constructor
          · rintro ⟨range, rfl, rfl⟩
            have bits : (code * 64 + b.toNat % 64) % 64 + 128 = b.toNat := by omega
            refine ⟨_, rest, by omega, rfl, ?_, rfl⟩
            rw [bits, UInt8.ofNat_toNat]
            rfl
          · rintro ⟨v, rest', admits, rfl, same, rfl⟩
            obtain ⟨rfl, rfl⟩ := List.cons.inj same
            rw [toNat_ofNat_of_lt (by omega)]
            have bits : code * 64 + (v % 64 + 128) % 64 = v := by omega
            exact ⟨admits.2, by rw [bits], rfl⟩
  | succ k ih =>
      cases bytes with
      | nil => simp [decodeFrom, tailBytes]
      | cons b rest =>
          rw [decodeFrom_some_cons_iff, if_neg (by simp), UInt8.le_iff_toNat_le,
            UInt8.le_iff_toNat_le]
          simp only [Nat.add_sub_cancel]
          rw [ih (by simp) (by simp)]
          simp only [Pending.Admits, Pending.extend, Nat.add_sub_cancel, UInt8.reduceToNat,
            pow_succ 64 (k + 1), ← Nat.div_div_eq_div_mul _ (64 ^ (k + 1))]
          constructor
          · rintro ⟨range, v, rest, admits, rfl, rfl, rfl⟩
            have bits : v / 64 ^ (k + 1) % 64 + 128 = b.toNat := by omega
            refine ⟨v, rest, by omega, rfl, ?_, rfl⟩
            rw [tailBytes_succ (k + 1), bits, UInt8.ofNat_toNat]
            rfl
          · rintro ⟨v, rest', admits, rfl, same, rfl⟩
            obtain ⟨rfl, rfl⟩ := List.cons.inj same
            rw [toNat_ofNat_of_lt (by omega)]
            exact ⟨admits.2, v, rest', by omega, rfl, rfl, rfl⟩

/-! ## Whole texts

By induction on the bytes, a character at a time.
-/

/-- **A character is read back from its bytes**, whatever follows them. -/
theorem decodeFrom_encodeChar (c : Char) (rest : List UInt8) :
    decodeFrom none (utf8EncodeChar c ++ rest) = some c :: decodeFrom none rest := by
  obtain ⟨k, sized⟩ := exists_sized (isValidChar_toNat c)
  rw [sized.encodeChar, List.cons_append, decodeFrom]
  cases k with
  | zero =>
      have first := sized.toNat_first
      simp only [mark, pow_zero, Nat.div_one, Nat.zero_add] at first ⊢
      rw [lead_of_lt (by rw [first]; exact sized.lt), first, Char.ofNat_toNat]
      rfl
  | succ k =>
      -- the first byte begins a character that can come to this number
      obtain ⟨⟨_, low, high, code⟩, begins, rfl, admits⟩ :=
        sized.exists_begins (isValidChar_toNat c)
      obtain ⟨-, hlow, hhigh⟩ := begins.isOpen
      rw [lead_of_begins begins]
      exact (decodeFrom_some_iff hlow hhigh).mpr
        ⟨c.toNat, rest, admits, (Char.ofNat_toNat c).symm, rfl, rfl⟩

theorem encodeChar_ofNat {k v : ℕ} (sized : Sized k v) (valid : v.isValidChar) :
    utf8EncodeChar (Char.ofNat v) = UInt8.ofNat (mark k + v / 64 ^ k) :: tailBytes k v := by
  have number : (Char.ofNat v).toNat = v := by rw [Char.toNat_ofNat, if_pos valid]
  rw [← number] at sized
  rw [sized.encodeChar, number]

/-- What is read as a character are the bytes of this character. -/
theorem eq_of_decodeFrom (read : decodeFrom none bytes = some c :: parts) :
    ∃ rest, bytes = utf8EncodeChar c ++ rest ∧ decodeFrom none rest = parts := by
  cases bytes with
  | nil => cases read
  | cons b rest =>
      rw [decodeFrom] at read
      by_cases known : Lead.of b = .malformed
      · rw [known] at read
        cases read
      rcases lt_or_begins known with less | ⟨⟨left, low, high, code⟩, begins⟩
      · rw [lead_of_lt less] at read
        cases read
        have sized : Sized 0 b.toNat := ⟨by decide, Nat.zero_le _, less⟩
        refine ⟨rest, ?_, rfl⟩
        rw [encodeChar_ofNat sized (by unfold Nat.isValidChar; omega)]
        simp [mark, tailBytes]
      · rw [lead_of_begins begins] at read
        obtain ⟨some, hlow, hhigh⟩ := begins.isOpen
        -- at least one more byte is due
        obtain ⟨k, rfl⟩ := Nat.exists_eq_succ_of_ne_zero some.ne'
        obtain ⟨v, rest, admits, rfl, rfl, rfl⟩ := (decodeFrom_some_iff hlow hhigh).mp read
        obtain ⟨sized, valid, rfl⟩ := begins.sized admits
        exact ⟨rest, by rw [encodeChar_ofNat sized valid]; rfl, rfl⟩

/-- Something is read of whatever there is. -/
theorem decodeFrom_ne_nil {under : Option Pending} {bytes : List UInt8}
    (some : under.isSome ∨ bytes ≠ []) : decodeFrom under bytes ≠ [] := by
  fun_induction decodeFrom under bytes <;> simp_all

/-- Bytes that are read as characters throughout are the bytes of these characters, and no others.
-/
theorem decodeParts_eq_iff {cs : List Char} :
    decodeParts bytes = cs.map some ↔ bytes = cs.flatMap utf8EncodeChar := by
  unfold decodeParts
  induction cs generalizing bytes with
  | nil =>
      refine ⟨fun read => ?_, fun empty => by rw [empty]; rfl⟩
      by_contra some
      -- something would be read of bytes that are there
      exact decodeFrom_ne_nil (.inr some) read
  | cons c cs ih =>
      rw [List.map_cons, List.flatMap_cons]
      constructor
      · intro read
        obtain ⟨rest, rfl, behind⟩ := eq_of_decodeFrom read
        rw [ih.mp behind]
      · rintro rfl
        rw [decodeFrom_encodeChar, ih.mpr rfl]

end Reading

theorem mapM_id_eq_some_iff {α : Type} {parts : List (Option α)} {as : List α} :
    parts.mapM id = some as ↔ parts = as.map some := by
  induction parts generalizing as with
  | nil => cases as <;> simp
  | cons part rest ih =>
      cases part with
      | none => cases as <;> simp
      | some a => cases as <;> simp [Option.bind_eq_some_iff, ih, and_comm]

/-- **What can be read is what was written**, and it is read as what it was. -/
theorem decode?_eq_some_iff {bytes : List UInt8} {s : String} :
    decode? bytes = some s ↔ bytes = encode s := by
  unfold decode? encode
  rw [Option.map_eq_some_iff, ← decodeParts_eq_iff]
  constructor
  · rintro ⟨cs, read, rfl⟩
    rw [String.toList_ofList]
    exact mapM_id_eq_some_iff.mp read
  · intro read
    exact ⟨s.toList, mapM_id_eq_some_iff.mpr read, String.ofList_toList⟩

end CrossBench.Utf8
