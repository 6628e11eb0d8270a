import CrossBench.Json.Value
import CrossBench.Proofs.Json.Reader
import Mathlib.Algebra.Group.Nat.Defs

/-!
# Numbers as words

Every number in a document is a word that a reader accepts.  For a natural number
this is a fact about its digits; for a double, the layouts of a decimal have to
follow the grammar: there are digits on both sides of a point, and none of them
is a zero in front of other digits.  Both come down to the shortest decimal not
being zero (`shortest_ne_zero`), which holds because a search that finds no short
decimal ends with seventeen digits of the double itself.

`unsigned?_numberLayout` says that the word is read as a decimal of the same
value, `Scientific.Same`.
-/

namespace CrossBench

namespace Decimal

/-! ## The shortest decimal is not zero

A reader tells zero from other numbers, and the significant digits of a number need one that
is not zero.  Both neighbours on a grid could be looked at for this, but only the lower one
can be zero.
-/

/-- Two decimals of the same value, compared on natural numbers. -/
def Scientific.Same (a b : Scientific) : Prop :=
  a.digits * powerAbove 10 (a.exponent - b.exponent)
    = b.digits * powerAbove 10 (b.exponent - a.exponent)

theorem powerAbove_pos {b : Nat} (hb : 0 < b) (e : Int) : 0 < powerAbove b e :=
  Nat.pow_pos hb

/-- What is found on a grid is not zero, as the lower neighbour is only taken if it is not. -/
theorem onGrid?_ne_zero {m : Nat} {q k : Int} {a : Nat}
    (found : onGrid? m q k = some a) : a ≠ 0 := by
  unfold onGrid? at found
  dsimp only at found
  split at found
  -- both round to the number: the upper one is a successor, the lower one was asked for not to be
  -- zero
  next both _ =>
    cases found
    have lower : gridFloor m q k ≠ 0 := by simpa using (Bool.and_eq_true_iff.mp both).2
    split
    · exact Nat.succ_ne_zero _
    · exact lower
  next lower _ =>
    cases found
    simpa using (Bool.and_eq_true_iff.mp lower).2
  next =>
    cases found
    exact Nat.succ_ne_zero _
  next => cases found

/-- A search ends with a decimal that is not zero if its last grid has a point
other than zero below the double. -/
theorem searchFrom_ne_zero {m : Nat} {q : Int} (fuel n : Nat)
    (last : gridFloor m q (leading m q - (n + fuel : Nat)) ≠ 0) :
    (searchFrom m q fuel n).digits ≠ 0 := by
  induction fuel generalizing n with
  | zero =>
      unfold searchFrom
      dsimp only
      split
      next a found => exact onGrid?_ne_zero found
      next => exact last
      next fuel _ zero => cases zero
  | succ fuel ih =>
      unfold searchFrom
      dsimp only
      split
      next a found => exact onGrid?_ne_zero found
      next _ zero => cases zero
      next left _ more =>
        cases more
        -- the last grid is the same one for the rest of the search
        have shift : n + 1 + fuel = n + (fuel + 1) := by omega
        exact ih (n + 1) (by rw [shift]; exact last)

/-- A grid whose step is not above the double has a point below it. -/
theorem gridFloor_ne_zero {m : Nat} {q k : Int}
    (below : powerAbove 2 (-q) * powerAbove 10 k ≤ m * powerAbove 2 q * powerAbove 10 (-k)) :
    gridFloor m q k ≠ 0 := by
  have step : 0 < powerAbove 2 (-q) * powerAbove 10 k :=
    Nat.mul_pos (powerAbove_pos (by decide) _) (powerAbove_pos (by decide) _)
  exact Nat.ne_of_gt (Nat.div_pos below step)

/-- What a point below a double says about it, on a grid behind the point. -/
theorem le_of_le_gridFloor {m : Nat} {q : Int} {a places : Nat}
    (below : a ≤ gridFloor m q (-places)) :
    a * powerAbove 2 (-q) ≤ m * powerAbove 2 q * 10 ^ places := by
  have coarse : powerAbove 10 (-places) = 1 := by simp [powerAbove]
  have step : powerAbove 10 (-(-places : Int)) = 10 ^ places := by simp [powerAbove]
  have bound := Nat.mul_le_of_le_div _ _ _ below
  rwa [coarse, step, Nat.mul_one] at bound

/-- On a grid this fine every double has a point below it. -/
theorem gridFloor_ne_zero_of_fine {m : Nat} {q : Int} (hm : m ≠ 0) (hq : -1074 ≤ q)
    {places : Nat} (fine : 1074 ≤ 3 * places) : gridFloor m q (-places) ≠ 0 := by
  have double : 1 ≤ m * powerAbove 2 q :=
    Nat.mul_pos (Nat.pos_of_ne_zero hm) (powerAbove_pos (by decide) _)
  have coarse : powerAbove 10 (-places) = 1 := by simp [powerAbove]
  have step : powerAbove 10 (-(-places : Int)) = 10 ^ places := by simp [powerAbove]
  apply gridFloor_ne_zero
  rw [coarse, step, Nat.mul_one]
  calc powerAbove 2 (-q)
    _ ≤ 2 ^ (3 * places) := Nat.pow_le_pow_right (by decide) (by omega)
    _ = 8 ^ places := Nat.pow_mul 2 3 places
    _ ≤ 10 ^ places := Nat.pow_le_pow_left (by decide) places
    _ ≤ m * powerAbove 2 q * 10 ^ places := Nat.le_mul_of_pos_left _ double

/-- The number of digits of a number that is not zero bounds it from below. -/
theorem pow_le_of_length {n places : Nat} (hn : n ≠ 0)
    (length : (Nat.toDigits 10 n).length = places + 1) : 10 ^ places ≤ n := by
  cases places with
  | zero => exact Nat.pos_of_ne_zero hn
  | succ places =>
      have long := Nat.length_toDigits_le_iff (b := 10) (n := n) (k := places + 1)
        (by decide) (Nat.succ_pos _)
      omega

/-- A bound by a power of ten, at any smaller power. -/
theorem powerAbove_le {a b places shift : Nat} {k : Int} (hk : k ≤ places - shift)
    (bound : 10 ^ places * a ≤ b * 10 ^ shift) :
    a * powerAbove 10 k ≤ b * powerAbove 10 (-k) := by
  have smaller : k.toNat + shift ≤ places + (-k).toNat := by omega
  apply Nat.le_of_mul_le_mul_right (c := 10 ^ shift) _ (Nat.pow_pos (by decide))
  calc a * 10 ^ k.toNat * 10 ^ shift
    _ = a * 10 ^ (k.toNat + shift) := by rw [Nat.mul_assoc, ← Nat.pow_add]
    _ ≤ a * 10 ^ (places + (-k).toNat) :=
        Nat.mul_le_mul_left a (Nat.pow_le_pow_right (by decide) smaller)
    _ = 10 ^ places * a * 10 ^ (-k).toNat := by
        rw [Nat.pow_add, ← Nat.mul_assoc, Nat.mul_comm a]
    _ ≤ b * 10 ^ shift * 10 ^ (-k).toNat := Nat.mul_le_mul_right _ bound
    _ = b * 10 ^ (-k).toNat * 10 ^ shift := Nat.mul_right_comm _ _ _

/-- **The shortest decimal of a double that is not zero is not zero.** -/
theorem shortest_ne_zero {m : Nat} {q : Int} (hm : m ≠ 0) (hq : -1074 ≤ q) :
    (shortest m q).digits ≠ 0 := by
  have positive : gridFloor m q (-(400 : Nat)) ≠ 0 :=
    gridFloor_ne_zero_of_fine hm hq (by decide)
  obtain ⟨places, length⟩ := Nat.exists_eq_add_one_of_ne_zero
    (Nat.ne_of_gt (Nat.length_toDigits_pos (b := 10) (n := gridFloor m q (-(400 : Nat)))))
  have leads : leading m q = (places + 1 : Nat) - 400 :=
    congrArg (fun digits : Nat => (digits : Int) - 400) length
  have bound := le_of_le_gridFloor (pow_le_of_length positive length)
  -- the last grid of the search is sixteen places below the first digit
  apply searchFrom_ne_zero
  apply gridFloor_ne_zero
  refine powerAbove_le ?_ bound
  rw [leads]
  omega

end Decimal

namespace Json

open Decimal

/-! ## Digits

The digits of a natural number, as a list of characters: which of them is first, and how
many zeros end it.
-/

theorem digitChar_ne_zero : ∀ n < 10, n ≠ 0 → Nat.digitChar n ≠ '0' := by decide

/-- A number that is not zero does not begin with a zero. -/
theorem head?_toDigits {n : Nat} (hn : n ≠ 0) :
    (Nat.toDigits 10 n).head? ≠ some '0' := by
  induction n using Nat.strongRecOn with
  | ind n ih =>
      by_cases small : n < 10
      · rw [Nat.toDigits_of_lt_base small]
        intro zero
        exact digitChar_ne_zero n small hn (Option.some.inj zero)
      · rw [Nat.toDigits_of_base_le (by decide) (by omega),
          List.head?_append,
          Option.or_of_isSome (List.isSome_head?.mpr Nat.toDigits_ne_nil)]
        exact ih (n / 10) (by omega) (by omega)

/-- Digits that do not begin with a zero are a whole number. -/
theorem isWhole_of_head? {digits : List Char} (any : digits ≠ [])
    (head : digits.head? ≠ some '0') : isWhole digits = true := by
  unfold isWhole
  split
  · exact absurd rfl any
  · exact absurd rfl head
  · rfl

/-- The digits of a number are a whole number. -/
theorem isWhole_toDigits (n : Nat) : isWhole (Nat.toDigits 10 n) = true := by
  by_cases zero : n = 0
  · rw [zero, Nat.toDigits_zero]
    rfl
  · exact isWhole_of_head? Nat.toDigits_ne_nil (head?_toDigits zero)

theorem isDigit_toDigits (n : Nat) : ∀ c ∈ Nat.toDigits 10 n, c.isDigit = true :=
  fun _ mem => Nat.isDigit_of_mem_toDigits (by decide) (by decide) mem

/-- Zeros at the end of a list, and what is in front of them. -/
theorem eq_append_zeros (cs : List Char) :
    ∃ zeros, cs = (cs.reverse.dropWhile (· == '0')).reverse ++ List.replicate zeros '0' := by
  have zeros : cs.reverse.takeWhile (· == '0')
      = List.replicate (cs.reverse.takeWhile (· == '0')).length '0' := by
    apply List.eq_replicate_of_mem
    intro c mem
    exact beq_iff_eq.mp (List.all_eq_true.mp List.all_takeWhile c mem)
  have parts := congrArg List.reverse
    (List.takeWhile_append_dropWhile (p := (· == '0')) (l := cs.reverse))
  rw [List.reverse_reverse, List.reverse_append, zeros, List.reverse_replicate] at parts
  exact ⟨_, parts.symm⟩

/-- **The significant digits of a number that is not zero.**  There is at least
one, and the first of them is not zero. -/
theorem significant {n : Nat} (hn : n ≠ 0) :
    ∃ digits zeros,
      ((Nat.toDigits 10 n).reverse.dropWhile (· == '0')).reverse = digits ∧
        Nat.toDigits 10 n = digits ++ List.replicate zeros '0' ∧
        digits ≠ [] ∧ digits.head? ≠ some '0' ∧ ∀ c ∈ digits, c.isDigit = true := by
  obtain ⟨zeros, parts⟩ := eq_append_zeros (Nat.toDigits 10 n)
  generalize ((Nat.toDigits 10 n).reverse.dropWhile (· == '0')).reverse = digits at parts
  -- with nothing but zeros the number would be zero
  have any : digits ≠ [] := by
    rintro rfl
    have value := congrArg (Nat.ofDigitChars 10 · 0) parts
    simp only [List.nil_append, Nat.ofDigitChars_ten_toDigits,
      Nat.ofDigitChars_replicate_zero, Nat.mul_zero] at value
    exact hn value
  refine ⟨digits, zeros, rfl, parts, any, ?_, ?_⟩
  · have head := head?_toDigits hn
    rwa [parts, List.head?_append, Option.or_of_isSome (List.isSome_head?.mpr any)] at head
  · intro c mem
    exact isDigit_toDigits n c (by rw [parts]; exact List.mem_append_left _ mem)

/-! ## The grammar of numbers

One equation for a text with all three parts, of which a part may be missing.  The layouts
below are cases of it.
-/

/-- Behind a number without an exponent, or behind its exponent, stands no digit
and no point. -/
theorem exponent?_head {rest : List Char} {e : Int} (found : exponent? rest = some e) :
    rest.takeWhile Char.isDigit = [] ∧ rest.dropWhile Char.isDigit = rest ∧
      fraction? rest = some ([], rest) := by
  cases rest with
  | nil => exact ⟨rfl, rfl, rfl⟩
  | cons mark rest =>
      by_cases letter : mark = 'e' ∨ mark = 'E'
      · rcases letter with rfl | rfl <;> exact ⟨rfl, rfl, rfl⟩
      · rw [exponent?, if_neg letter] at found
        cases found

/-- **Reading a number without a sign**: digits, a point with more digits if there
are more, and an exponent if there is one. -/
theorem unsigned?_notation (whole fraction rest : List Char) {e : Int}
    (left : ∀ c ∈ whole, c.isDigit = true) (first : isWhole whole = true)
    (right : ∀ c ∈ fraction, c.isDigit = true) (found : exponent? rest = some e) :
    unsigned? (whole ++ ((if fraction = [] then [] else '.' :: fraction) ++ rest))
      = some ⟨Nat.ofDigitChars 10 (whole ++ fraction) 0, e - fraction.length⟩ := by
  obtain ⟨none, stays, direct⟩ := exponent?_head found
  unfold unsigned?
  rw [List.takeWhile_append_of_pos left, List.dropWhile_append_of_pos left]
  split
  next empty =>
    simp [empty, none, stays, first, direct, found]
  next any =>
    -- the digits in front end at the point, those behind it where the rest begins
    have point : Char.isDigit '.' = false := by decide
    have behind : fraction? ('.' :: (fraction ++ rest)) = some (fraction, rest) := by
      simp only [fraction?]
      rw [List.takeWhile_append_of_pos right, List.dropWhile_append_of_pos right, none,
        stays, List.append_nil, if_neg any]
    simp [point, first, behind, found]

/-- The digits of a number are read as this number. -/
theorem natural?_toDigits (n : Nat) : natural? (Nat.toDigits 10 n) = some n := by
  have all : (Nat.toDigits 10 n).all Char.isDigit = true :=
    List.all_eq_true.mpr (isDigit_toDigits n)
  rw [natural?, if_pos ⟨Nat.toDigits_ne_nil, all⟩, Nat.ofDigitChars_ten_toDigits]

theorem unsigned?_toDigits (n : Nat) : unsigned? (Nat.toDigits 10 n) = some ⟨n, 0⟩ := by
  have read := unsigned?_notation _ [] [] (isDigit_toDigits n)
    (isWhole_toDigits n) (fun _ mem => nomatch mem) rfl
  simpa [Nat.ofDigitChars_ten_toDigits] using read

/-! ## Decimals as words

A layout puts the significant digits around a point or in front of an exponent.  Where it
pads with zeros, the decimal that is read has other digits and another exponent, so the two
are compared as numbers.
-/

/-- Zeros at the end multiply a number. -/
theorem ofDigitChars_append_zeros (digits : List Char) (zeros : Nat) :
    Nat.ofDigitChars 10 (digits ++ List.replicate zeros '0') 0
      = Nat.ofDigitChars 10 digits 0 * 10 ^ zeros := by
  rw [Nat.ofDigitChars_append, Nat.ofDigitChars_replicate_zero, Nat.mul_comm]

theorem ofDigitChars_zeros_append (digits : List Char) (zeros : Nat) :
    Nat.ofDigitChars 10 (List.replicate zeros '0' ++ digits) 0
      = Nat.ofDigitChars 10 digits 0 := by
  rw [Nat.ofDigitChars_append, Nat.ofDigitChars_replicate_zero, Nat.mul_zero]

theorem isDigit_zeros (n : Nat) : ∀ c ∈ List.replicate n '0', c.isDigit = true := by
  intro c mem
  rw [List.eq_of_mem_replicate mem]
  rfl

section Layouts

variable {digits : List Char} (any : digits ≠ [])
  (isDigit : ∀ c ∈ digits, c.isDigit = true)

include any isDigit

/-- All digits behind the point. -/
theorem unsigned?_behind (zeros : Nat) :
    unsigned? ('0' :: '.' :: (List.replicate zeros '0' ++ digits))
      = some ⟨Nat.ofDigitChars 10 digits 0, -(zeros + digits.length : Nat)⟩ := by
  have right : ∀ c ∈ List.replicate zeros '0' ++ digits, c.isDigit = true :=
    fun c mem => (List.mem_append.mp mem).elim (isDigit_zeros _ c) (isDigit c)
  have read := unsigned?_notation ['0'] _ [] (isDigit_zeros 1) rfl right rfl
  have value := ofDigitChars_zeros_append digits (zeros + 1)
  rw [List.replicate_succ] at value
  rw [if_neg (by simp [any]), List.append_nil, List.length_append, List.length_replicate,
    Int.zero_sub] at read
  rw [← value]
  exact read

/-- All digits in front of the point. -/
theorem unsigned?_front (head : digits.head? ≠ some '0') (zeros : Nat) :
    unsigned? (digits ++ List.replicate zeros '0' ++ ['.', '0'])
      = some ⟨Nat.ofDigitChars 10 digits 0 * 10 ^ (zeros + 1), -1⟩ := by
  have left : ∀ c ∈ digits ++ List.replicate zeros '0', c.isDigit = true :=
    fun c mem => (List.mem_append.mp mem).elim (isDigit c) (isDigit_zeros _ c)
  have first : isWhole (digits ++ List.replicate zeros '0') = true := by
    refine isWhole_of_head? (List.append_ne_nil_of_left_ne_nil any _) ?_
    rwa [List.head?_append, Option.or_of_isSome (List.isSome_head?.mpr any)]
  have read := unsigned?_notation _ ['0'] [] left first (isDigit_zeros 1) rfl
  have value := ofDigitChars_append_zeros digits (zeros + 1)
  rw [List.replicate_succ', ← List.append_assoc] at value
  rw [if_neg (List.cons_ne_nil _ _), List.append_nil, value] at read
  exact read

/-- Digits on both sides of the point. -/
theorem unsigned?_around (head : digits.head? ≠ some '0') {point : Nat}
    (positive : 0 < point) (inside : point < digits.length) :
    unsigned? (digits.take point ++ '.' :: digits.drop point)
      = some ⟨Nat.ofDigitChars 10 digits 0, -(digits.length - point : Nat)⟩ := by
  have left : ∀ c ∈ digits.take point, c.isDigit = true :=
    fun c mem => isDigit c (List.mem_of_mem_take mem)
  have right : ∀ c ∈ digits.drop point, c.isDigit = true :=
    fun c mem => isDigit c (List.mem_of_mem_drop mem)
  -- the digits in front of the point are the first ones, so no zero leads them
  have first : isWhole (digits.take point) = true := by
    refine isWhole_of_head? (fun empty => ?_) ?_
    · rcases List.take_eq_nil_iff.mp empty with zero | nil
      · omega
      · exact any nil
    · rwa [List.head?_take, if_neg (by omega)]
  have read := unsigned?_notation _ _ [] left first right rfl
  rw [if_neg (by rw [List.drop_eq_nil_iff]; omega), List.append_nil,
    List.take_append_drop, List.length_drop, Int.zero_sub] at read
  exact read

/-- Digits laid out around a point.  Zeros that the layout adds behind them are
read as well. -/
theorem unsigned?_positional (head : digits.head? ≠ some '0') (point : Int) :
    ∃ places : Nat, unsigned? (Layout.positional digits point)
      = some ⟨Nat.ofDigitChars 10 digits 0 * 10 ^ places,
          point - digits.length - places⟩ := by
  have count := List.length_pos_iff.mpr any
  -- the point stands before the digits, behind them or among them
  unfold Layout.positional
  dsimp only
  split
  next behind =>
    refine ⟨0, ?_⟩
    rw [List.cons_append, List.cons_append, unsigned?_behind any isDigit, Nat.pow_zero,
      Nat.mul_one]
    congr 2
    omega
  next =>
    split
    next front =>
      refine ⟨point.toNat - digits.length + 1, ?_⟩
      rw [unsigned?_front any isDigit head]
      congr 2
      omega
    next =>
      refine ⟨0, ?_⟩
      rw [unsigned?_around any isDigit head (by omega) (by omega), Nat.pow_zero,
        Nat.mul_one]
      congr 2
      omega

/-- Digits with an exponent behind them. -/
theorem unsigned?_scientific (point : Int) :
    unsigned? (numberLayout.scientific digits point)
      = some ⟨Nat.ofDigitChars 10 digits 0, point - digits.length⟩ := by
  have count := List.length_pos_iff.mpr any
  have left : ∀ c ∈ digits.take 1, c.isDigit = true :=
    fun c mem => isDigit c (List.mem_of_mem_take mem)
  have right : ∀ c ∈ digits.drop 1, c.isDigit = true :=
    fun c mem => isDigit c (List.mem_of_mem_drop mem)
  -- a single digit is a whole part whatever it is
  have first : isWhole (digits.take 1) = true := by
    cases digits with
    | nil => exact absurd rfl any
    | cons c rest =>
        unfold isWhole
        split <;> simp_all
  -- the exponent always carries its sign
  have exponent : exponent? ('e' ::
        (if point - 1 < 0 then "-" else numberLayout.exponentSign).toList
          ++ Nat.toDigits 10 (point - 1).natAbs) = some (point - 1) := by
    split
    next negative =>
      have read : integer? ('-' :: Nat.toDigits 10 (point - 1).natAbs)
          = some (-((point - 1).natAbs : Int)) := by
        rw [integer?, natural?_toDigits, Option.map_some]
      exact read.trans (congrArg some (by omega))
    next =>
      have read : integer? ('+' :: Nat.toDigits 10 (point - 1).natAbs)
          = some ((point - 1).natAbs : Int) := by
        rw [integer?, natural?_toDigits, Option.map_some]
        rfl
      exact read.trans (congrArg some (by omega))
  have read := unsigned?_notation _ _ _ left first right exponent
  rw [List.take_append_drop, List.length_drop] at read
  have shift : point - 1 - (digits.length - 1 : Nat) = point - digits.length := by omega
  rw [shift] at read
  unfold Layout.scientific
  dsimp only
  rw [List.append_assoc, List.append_assoc]
  exact read

end Layouts

/-- A number with zeros behind its digits. -/
theorem same_of_zeros (digits zeros places : Nat) (exponent : Int) :
    Scientific.Same ⟨digits * 10 ^ places, exponent + zeros - places⟩
      ⟨digits * 10 ^ zeros, exponent⟩ := by
  have left : places + (exponent + zeros - places - exponent).toNat = max places zeros := by
    omega
  have right : zeros + (exponent - (exponent + zeros - places)).toNat = max places zeros := by
    omega
  unfold Scientific.Same powerAbove
  dsimp only
  rw [Nat.mul_assoc, Nat.mul_assoc]
  exact congrArg (digits * ·)
    (((Nat.pow_add ..).symm.trans (congrArg (10 ^ ·) (left.trans right.symm))).trans
      (Nat.pow_add ..))

/-- **A decimal, written and read.**  The word for a decimal that is not zero is
read as a decimal of the same value. -/
theorem unsigned?_numberLayout {d : Scientific} (hd : d.digits ≠ 0) :
    ∃ value, unsigned? (numberLayout.text d).toList = some value ∧ value.Same d := by
  obtain ⟨digits, zeros, stripped, parts, any, head, isDigit⟩ := significant hd
  have digits_eq : Nat.ofDigitChars 10 digits 0 * 10 ^ zeros = d.digits := by
    rw [← ofDigitChars_append_zeros, ← parts, Nat.ofDigitChars_ten_toDigits]
  have length : (Nat.toDigits 10 d.digits).length = digits.length + zeros := by
    rw [parts, List.length_append, List.length_replicate]
  -- zeros dropped at the end and zeros added behind move only the exponent
  have same : ∀ places : Nat, Scientific.Same
      ⟨Nat.ofDigitChars 10 digits 0 * 10 ^ places, d.exponent + zeros - places⟩ d := by
    intro places
    have scaled := same_of_zeros (Nat.ofDigitChars 10 digits 0) zeros places d.exponent
    rwa [digits_eq] at scaled
  unfold Layout.text
  dsimp only
  rw [stripped, length, String.toList_ofList]
  split
  next =>
    obtain ⟨places, read⟩ := unsigned?_positional any isDigit head
      (d.exponent + (digits.length + zeros : Nat))
    refine ⟨_, read, ?_⟩
    have shift : d.exponent + (digits.length + zeros : Nat) - digits.length - places
        = d.exponent + zeros - places := by omega
    rw [shift]
    exact same places
  next =>
    refine ⟨_, unsigned?_scientific any isDigit _, ?_⟩
    have shift : d.exponent + (digits.length + zeros : Nat) - digits.length
        = d.exponent + zeros - (0 : Nat) := by omega
    have whole := same 0
    rw [Nat.pow_zero, Nat.mul_one] at whole
    rw [shift]
    exact whole

/-! ## Words

A word is a number, with a minus or without, or a name; a double that is not finite has a
name.
-/

/-- A number without a sign is a word. -/
theorem word?_of_unsigned {cs : List Char} {value : Scientific}
    (read : unsigned? cs = some value) : word? cs = some (.number false value) := by
  unfold word?
  split
  · cases read
  · cases read
  · cases read
  · cases read
  · rw [read, Option.map_some]

theorem word?_neg_of_unsigned {cs : List Char} {value : Scientific}
    (read : unsigned? cs = some value) : word? ('-' :: cs) = some (.number true value) := by
  rw [word?, read, Option.map_some]

theorem word?_toDigits (n : Nat) :
    word? (Nat.toDigits 10 n) = some (.nat n) :=
  word?_of_unsigned (unsigned?_toDigits n)

/-- The least exponent of a double. -/
theorem le_exponent_of_ofBits {bits : UInt64} {negative : Bool} {m : Nat} {q : Int}
    (read : Reading.ofBits bits = .finite negative m q) : -1074 ≤ q := by
  unfold Reading.ofBits at read
  dsimp only at read
  split at read
  · split at read <;> cases read
  · split at read
    · cases read
      exact Int.le_refl _
    · cases read
      omega

/-- **A double as a word.**  If it is finite, the word is read as a number of the
sign and the value of its shortest decimal. -/
theorem word?_numeral (x : Float) :
    match Reading.ofFloat x with
    | .finite negative m q =>
        ∃ value, word? (numeral x) = some (.number negative value) ∧
          value.Same (if m = 0 then ⟨0, 0⟩ else shortest m q)
    | _ => word? (numeral x) = some .null := by
  unfold numeral
  cases read : Reading.ofFloat x with
  | nan => rfl
  | infinite negative => rfl
  | finite negative m q =>
      dsimp only
      obtain ⟨value, unsigned, same⟩ : ∃ value,
          unsigned? (if m = 0 then ['0', '.', '0']
              else (numberLayout.text (shortest m q)).toList) = some value ∧
            value.Same (if m = 0 then ⟨0, 0⟩ else shortest m q) := by
        -- zero is written with a point, and is the one number the search does not see
        by_cases zero : m = 0
        · rw [if_pos zero, if_pos zero]
          exact ⟨⟨0, -1⟩, rfl, by simp [Scientific.Same]⟩
        · rw [if_neg zero, if_neg zero]
          exact unsigned?_numberLayout (shortest_ne_zero zero (le_exponent_of_ofBits read))
      refine ⟨value, ?_, same⟩
      cases negative with
      | false => exact word?_of_unsigned unsigned
      | true => exact word?_neg_of_unsigned unsigned

/-- Every double is a word that can be read. -/
theorem exists_word?_numeral (x : Float) : ∃ datum, word? (numeral x) = some datum := by
  have read := word?_numeral x
  split at read
  · obtain ⟨value, read, -⟩ := read
    exact ⟨_, read⟩
  · exact ⟨_, read⟩

theorem numeral_ne_nil (x : Float) : numeral x ≠ [] := by
  obtain ⟨datum, read⟩ := exists_word?_numeral x
  intro empty
  rw [empty] at read
  cases read

/-! ## The characters of words

None of them ends a word, which is what the reader of characters needs to know.
-/

open Lexer (wordChar)

theorem wordChar_of_isDigit {c : Char} (digit : c.isDigit = true) : wordChar c = true := by
  simp [wordChar, Char.isAlphanum, digit]

theorem wordChar_toDigits (n : Nat) : ∀ c ∈ Nat.toDigits 10 n, wordChar c = true :=
  fun c mem => wordChar_of_isDigit (isDigit_toDigits n c mem)

section Layouts

variable {digits : List Char} (isWord : ∀ c ∈ digits, wordChar c = true)

include isWord

/-- A decimal that is laid out by positions has no other characters. -/
theorem wordChar_positional (point : Int) :
    ∀ c ∈ Layout.positional digits point, wordChar c = true := by
  have zeros : ∀ n, ∀ c ∈ List.replicate n '0', wordChar c = true :=
    fun n c mem => wordChar_of_isDigit (isDigit_zeros n c mem)
  have marks : ∀ c ∈ ['0', '.'], wordChar c = true := List.all_eq_true.mp rfl
  have front := fun c mem => isWord c (List.mem_of_mem_take mem (i := point.toNat))
  have behind := fun c mem => isWord c (List.mem_of_mem_drop mem (i := point.toNat))
  unfold Layout.positional
  dsimp only
  split
  · exact List.forall_mem_append.mpr
      ⟨List.forall_mem_append.mpr ⟨marks, zeros _⟩, isWord⟩
  · split
    · exact List.forall_mem_append.mpr
        ⟨List.forall_mem_append.mpr ⟨isWord, zeros _⟩, List.all_eq_true.mp rfl⟩
    · exact List.forall_mem_append.mpr
        ⟨front, List.forall_mem_cons.mpr ⟨by decide, behind⟩⟩

theorem wordChar_scientific (point : Int) :
    ∀ c ∈ numberLayout.scientific digits point, wordChar c = true := by
  have front := fun c mem => isWord c (List.mem_of_mem_take mem (i := 1))
  have behind := fun c mem => isWord c (List.mem_of_mem_drop mem (i := 1))
  have fraction : ∀ c ∈ (if digits.drop 1 = [] then [] else '.' :: digits.drop 1),
      wordChar c = true := by
    split
    · exact fun _ mem => nomatch mem
    · exact List.forall_mem_cons.mpr ⟨by decide, behind⟩
  have sign : ∀ c ∈ 'e' ::
      (if point - 1 < 0 then "-" else numberLayout.exponentSign).toList,
      wordChar c = true := by
    split <;> exact List.all_eq_true.mp rfl
  unfold Layout.scientific
  dsimp only
  exact List.forall_mem_append.mpr
    ⟨List.forall_mem_append.mpr ⟨List.forall_mem_append.mpr ⟨front, fraction⟩, sign⟩,
      wordChar_toDigits _⟩

end Layouts

theorem wordChar_numberLayout (d : Scientific) :
    ∀ c ∈ (numberLayout.text d).toList, wordChar c = true := by
  have isWord : ∀ c ∈ ((Nat.toDigits 10 d.digits).reverse.dropWhile (· == '0')).reverse,
      wordChar c = true := by
    intro c mem
    have mem := (List.dropWhile_sublist _).mem (List.mem_reverse.mp mem)
    exact wordChar_toDigits _ c (List.mem_reverse.mp mem)
  unfold Layout.text
  dsimp only
  rw [String.toList_ofList]
  split
  · exact wordChar_positional isWord _
  · exact wordChar_scientific isWord _

/-- Every double is one word. -/
theorem wordChar_numeral (x : Float) : ∀ c ∈ numeral x, wordChar c = true := by
  unfold numeral
  split
  next negative m q _ =>
    refine List.forall_mem_append.mpr ⟨?_, ?_⟩
    · cases negative <;> exact List.all_eq_true.mp rfl
    · split
      · exact List.all_eq_true.mp rfl
      · exact wordChar_numberLayout _
  next => exact List.all_eq_true.mp rfl

end Json

end CrossBench
