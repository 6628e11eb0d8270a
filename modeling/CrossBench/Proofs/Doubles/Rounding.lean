import Mathlib

/-!
# Doubles as rounded numbers

A double is a sign and a magnitude, and an operation on doubles is the operation on the
numbers, rounded: the result is the number nearest to the exact one among those that have
a place in the format, a tie going to the even one.

* `evenRound` and `nearest` — rounding to a natural number, and to a number of the format.
* `nearest_mono` and `nearest_of_format` — rounding respects the order and leaves the
  numbers of the format alone.  With these two a bound of the format on an exact result is
  a bound on the rounded one.
-/

namespace CrossBench.Doubles

open Float.Model Float.Model.UnpackedFloat

/-! ## Rounding to a natural number

To the nearest one, and in the middle of two to the even one.
-/

/-- The natural number that is nearest to a number, a tie going to the even one. -/
noncomputable def evenRound (q : ℝ) : ℕ :=
  if q - ⌊q⌋₊ < 1 / 2 then ⌊q⌋₊
  else if 1 / 2 < q - ⌊q⌋₊ then ⌊q⌋₊ + 1
  else ⌊q⌋₊ + ⌊q⌋₊ % 2

/-- Rounding goes down to the next natural number at most. -/
theorem floor_le_evenRound (q : ℝ) : ⌊q⌋₊ ≤ evenRound q := by
  unfold evenRound
  split_ifs <;> omega

theorem evenRound_le (q : ℝ) : evenRound q ≤ ⌊q⌋₊ + 1 := by
  unfold evenRound
  split_ifs <;> omega

theorem evenRound_natCast (n : ℕ) : evenRound n = n := by
  rw [evenRound, Nat.floor_natCast, sub_self, if_pos (by norm_num)]

theorem evenRound_mono {p q : ℝ} (le : p ≤ q) : evenRound p ≤ evenRound q := by
  rcases (Nat.floor_mono le).lt_or_eq with below | same
  · calc evenRound p ≤ ⌊p⌋₊ + 1 := evenRound_le p
      _ ≤ ⌊q⌋₊ := below
      _ ≤ evenRound q := floor_le_evenRound q
  · -- with one whole part, the rests decide
    have rest : p - ⌊p⌋₊ ≤ q - ⌊q⌋₊ := by rw [same]; linarith
    unfold evenRound
    rw [same] at rest ⊢
    split_ifs <;> first | omega | linarith

/-- A number with a natural bound is rounded to a number with that bound. -/
theorem evenRound_le_natCast {q : ℝ} {n : ℕ} (le : q ≤ n) : evenRound q ≤ n :=
  (evenRound_mono le).trans_eq (evenRound_natCast n)

theorem le_evenRound_natCast {q : ℝ} {n : ℕ} (le : n ≤ q) : n ≤ evenRound q :=
  (evenRound_natCast n).symm.trans_le (evenRound_mono le)

/-! ## Guard bits

When places are shifted out of a mantissa, two bits keep what rounding has to know about
them.  `Describes` is the invariant: one shift keeps it, and so do any number of them.
-/

/-- A mantissa with its two residual bits stands for a number: the whole part is the
mantissa, and the bits say how the rest compares with nothing and with one half. -/
def Describes (em : ExtendedMantissa) (q : ℝ) : Prop :=
  ∃ rest : ℝ, q = em.mantissa + rest ∧
    match em.roundBit, em.stickyBit with
    | false, false => rest = 0
    | false, true => 0 < rest ∧ rest < 1 / 2
    | true, false => rest = 1 / 2
    | true, true => 1 / 2 < rest ∧ rest < 1

namespace Describes

variable {em : ExtendedMantissa} {q : ℝ}

/-- Shifting by one place halves the number. -/
theorem shiftRightOne (h : Describes em q) : Describes em.shiftRightOne (q / 2) := by
  obtain ⟨m, round, sticky⟩ := em
  obtain ⟨rest, rfl, bits⟩ := h
  have parted : (m : ℝ) = 2 * (m / 2 : ℕ) + (m % 2 : ℕ) := by
    exact_mod_cast (Nat.div_add_mod m 2).symm
  refine ⟨((m % 2 : ℕ) + rest) / 2, ?_, ?_⟩
  · dsimp only [ExtendedMantissa.shiftRightOne]
    rw [parted]
    ring
  · rcases Nat.mod_two_eq_zero_or_one m with parity | parity <;>
      cases round <;> cases sticky <;>
      simp [ExtendedMantissa.shiftRightOne, parity] at bits ⊢ <;>
      (try constructor) <;> linarith

/-- Shifting a mantissa to the right divides what it describes, and the guard bits know what was
lost. -/
theorem shiftRight (h : Describes em q) (n : ℕ) : Describes (em >>> n) (q / 2 ^ n) := by
  change Describes (n.repeat ExtendedMantissa.shiftRightOne em) _
  induction n with
  | zero => simpa [Nat.repeat] using h
  | succ n ih =>
      rw [Nat.repeat, pow_succ, ← div_div]
      exact ih.shiftRightOne

/-- The residual bits are enough to round by. -/
theorem roundedMantissa (h : Describes em q) : em.roundedMantissa = evenRound q := by
  obtain ⟨m, round, sticky⟩ := em
  obtain ⟨rest, rfl, bits⟩ := h
  -- in all four cases of the bits the rest is less than one
  have floor : ⌊(m : ℝ) + rest⌋₊ = m := by
    refine (Nat.floor_eq_iff ?_).mpr ⟨?_, ?_⟩ <;> cases round <;> cases sticky <;>
      simp at bits ⊢ <;> linarith
  unfold evenRound
  rw [floor, add_sub_cancel_left]
  cases round with
  | false =>
      cases sticky with
      | false => rw [if_pos (by rw [show rest = 0 from bits]; norm_num)]; rfl
      | true => rw [if_pos bits.2]; rfl
  | true =>
      cases sticky with
      | false =>
          have half : rest = 1 / 2 := bits
          rw [if_neg half.not_lt, if_neg half.not_gt]
          rfl
      | true => rw [if_neg bits.1.not_gt, if_pos bits.1]; rfl

end Describes

/-! ## Rounding to a number of the format

The format without a largest number, as a set of real numbers, and rounding as a function on
real numbers.  Overflow is not looked at here.
-/

/-- The exponent of the last place that the format has for a number: fifty-two places
below its leading one, and never below that of the least number of the format. -/
noncomputable def lastPlace (x : ℝ) : ℤ := max (Int.log 2 x - 52) (-1074)

/-- The number that is nearest to a number, in units of its last place. -/
noncomputable def nearest (x : ℝ) : ℝ := evenRound (x / 2 ^ lastPlace x) * 2 ^ lastPlace x

/-- The numbers of the format, without a limit on their size. -/
def InFormat (v : ℝ) : Prop :=
  ∃ (m : ℕ) (e : ℤ), v = m * 2 ^ e ∧ m ≤ 2 ^ 53 ∧ -1074 ≤ e

theorem two_zpow_pos (e : ℤ) : (0 : ℝ) < 2 ^ e := zpow_pos two_pos e

/-- A power of two in units of another. -/
theorem two_pow_mul_zpow {n : ℕ} {low high : ℤ} (sum : high = n + low) :
    ((2 ^ n : ℕ) : ℝ) * 2 ^ low = 2 ^ high := by
  rw [sum, zpow_add₀ two_ne_zero, zpow_natCast, Nat.cast_pow, Nat.cast_ofNat]

/-- A power of two is a natural multiple of every lower one. -/
theorem two_zpow_eq {low high : ℤ} (le : low ≤ high) :
    (2 : ℝ) ^ high = (2 ^ (high - low).toNat : ℕ) * 2 ^ low :=
  (two_pow_mul_zpow (by omega)).symm

/-- The logarithm is that of a power of two that is not above the number. -/
theorem zpow_log_le {x : ℝ} (pos : 0 < x) : 2 ^ Int.log 2 x ≤ x := by
  simpa using Int.zpow_log_le_self (R := ℝ) one_lt_two pos

theorem lt_zpow_log (x : ℝ) : x < 2 ^ (Int.log 2 x + 1) := by
  simpa using Int.lt_zpow_succ_log_self (R := ℝ) one_lt_two x

theorem nearest_zero : nearest 0 = 0 := by
  have none : evenRound 0 = 0 := by simpa using evenRound_natCast 0
  rw [nearest, zero_div, none, Nat.cast_zero, zero_mul]

theorem nearest_nonneg (x : ℝ) : 0 ≤ nearest x :=
  mul_nonneg (Nat.cast_nonneg _) (two_zpow_pos _).le

/-- A bound that is a multiple of the last place is a bound on the rounded number. -/
theorem nearest_le {x : ℝ} {n : ℕ} (le : x ≤ n * 2 ^ lastPlace x) :
    nearest x ≤ n * 2 ^ lastPlace x :=
  mul_le_mul_of_nonneg_right
    (Nat.cast_le.mpr (evenRound_le_natCast ((div_le_iff₀ (two_zpow_pos _)).mpr le)))
    (two_zpow_pos _).le

/-- Rounding does not cross a multiple of the last place from above. -/
theorem le_nearest {x : ℝ} {n : ℕ} (le : n * 2 ^ lastPlace x ≤ x) :
    n * 2 ^ lastPlace x ≤ nearest x :=
  mul_le_mul_of_nonneg_right
    (Nat.cast_le.mpr (le_evenRound_natCast ((le_div_iff₀ (two_zpow_pos _)).mpr le)))
    (two_zpow_pos _).le

/-- **Rounding respects the order.** -/
theorem nearest_mono {x y : ℝ} (nonneg : 0 ≤ x) (le : x ≤ y) : nearest x ≤ nearest y := by
  rcases nonneg.eq_or_lt with rfl | pos
  · exact nearest_zero.trans_le (nearest_nonneg y)
  have log : Int.log 2 x ≤ Int.log 2 y := Int.log_mono_right pos le
  have places : lastPlace x ≤ lastPlace y :=
    max_le_max_right (-1074) (sub_le_sub_right log 52)
  -- in one unit the rounding of the quotient is monotone
  rcases places.eq_or_lt with same | lower
  · rw [nearest, nearest, same]
    exact mul_le_mul_of_nonneg_right (Nat.cast_le.mpr (evenRound_mono
      (div_le_div_of_nonneg_right le (two_zpow_pos _).le))) (two_zpow_pos _).le
  · -- the leading one of the greater number lies between the two
    have place : lastPlace y = Int.log 2 y - 52 := by
      unfold lastPlace at lower ⊢
      omega
    have between : Int.log 2 x + 1 ≤ Int.log 2 y := by
      unfold lastPlace at lower
      omega
    have above : x ≤ 2 ^ Int.log 2 y :=
      (lt_zpow_log x).le.trans (zpow_le_zpow_right₀ one_le_two between)
    have low : lastPlace x ≤ Int.log 2 y := by omega
    calc nearest x ≤ 2 ^ Int.log 2 y := by
          rw [two_zpow_eq low] at above ⊢
          exact nearest_le above
      _ ≤ nearest y := by
          have below := zpow_log_le (pos.trans_le le)
          have fits : lastPlace y ≤ Int.log 2 y := by omega
          rw [two_zpow_eq fits] at below ⊢
          exact le_nearest below

/-- The leading one of a number is known between two powers of two. -/
theorem log_eq {x : ℝ} {l : ℤ} (low : 2 ^ l ≤ x) (high : x < 2 ^ (l + 1)) :
    Int.log 2 x = l := by
  have pos : 0 < x := (two_zpow_pos l).trans_le low
  have above : l ≤ Int.log 2 x :=
    (Int.zpow_le_iff_le_log one_lt_two pos).mp (by simpa using low)
  have below : Int.log 2 x < l + 1 :=
    (Int.lt_zpow_iff_log_lt one_lt_two pos).mp (by simpa using high)
  omega

/-- The leading one of a number that is a natural mantissa and a rest of its last place. -/
theorem log_add_mul_zpow {m : ℕ} (pos : 0 < m) {rest : ℝ} (nonneg : 0 ≤ rest)
    (below : rest < 1) (e : ℤ) : Int.log 2 ((m + rest) * 2 ^ e) = m.log2 + e := by
  have low : (2 : ℝ) ^ m.log2 ≤ m := by exact_mod_cast Nat.log2_self_le pos.ne'
  have high : (m : ℝ) + 1 ≤ 2 ^ (m.log2 + 1) := by exact_mod_cast Nat.lt_log2_self
  refine log_eq ?_ ?_
  · rw [zpow_add₀ two_ne_zero, zpow_natCast]
    exact mul_le_mul_of_nonneg_right (by linarith) (two_zpow_pos e).le
  · rw [add_right_comm, zpow_add₀ two_ne_zero]
    refine mul_lt_mul_of_pos_right ?_ (two_zpow_pos e)
    have cast : (2 : ℝ) ^ ((m.log2 : ℤ) + 1) = 2 ^ (m.log2 + 1) := by
      rw [← zpow_natCast]
      norm_cast
    rw [cast]
    linarith

/-- What is less than one unit has its leading one below the unit. -/
theorem log_mul_zpow_lt {r : ℝ} (pos : 0 < r) (below : r < 1) (e : ℤ) :
    Int.log 2 (r * 2 ^ e) < e :=
  (Int.lt_zpow_iff_log_lt one_lt_two (mul_pos pos (two_zpow_pos e))).mp
    (mul_lt_of_lt_one_left (two_zpow_pos e) below)

theorem log_natCast_mul_zpow {m : ℕ} (pos : 0 < m) (e : ℤ) :
    Int.log 2 ((m : ℝ) * 2 ^ e) = m.log2 + e := by
  simpa using log_add_mul_zpow pos le_rfl zero_lt_one e

/-- A number of the format is a multiple of its last place. -/
theorem InFormat.multiple {v : ℝ} (h : InFormat v) : ∃ n : ℕ, v = n * 2 ^ lastPlace v := by
  obtain ⟨m, e, rfl, short, low⟩ := h
  rcases Nat.eq_zero_or_pos m with rfl | pos
  · exact ⟨0, by simp⟩
  have log := log_natCast_mul_zpow pos e
  rcases short.lt_or_eq with short | rfl
  · have digits : m.log2 < 53 := (Nat.log2_lt pos.ne').mpr short
    -- a short mantissa has its last place no lower than the number has
    have place : lastPlace ((m : ℝ) * 2 ^ e) ≤ e := by
      rw [lastPlace, log]
      omega
    exact ⟨m * 2 ^ (e - lastPlace ((m : ℝ) * 2 ^ e)).toNat, by
      rw [Nat.cast_mul, mul_assoc, ← two_zpow_eq place]⟩
  · -- the mantissa that is one too long is even
    have place : lastPlace (((2 ^ 53 : ℕ) : ℝ) * 2 ^ e) = e + 1 := by
      rw [lastPlace, log, Nat.log2_two_pow]
      omega
    refine ⟨2 ^ 52, ?_⟩
    rw [place, two_pow_mul_zpow rfl]
    exact (two_pow_mul_zpow (by omega)).symm

/-- **Rounding leaves the numbers of the format alone.** -/
theorem nearest_of_format {v : ℝ} (h : InFormat v) : nearest v = v := by
  obtain ⟨n, multiple⟩ := h.multiple
  exact le_antisymm ((nearest_le multiple.le).trans_eq multiple.symm)
    (multiple.trans_le (le_nearest multiple.ge))

theorem nearest_le_of_format {x b : ℝ} (nonneg : 0 ≤ x) (le : x ≤ b) (format : InFormat b) :
    nearest x ≤ b :=
  (nearest_mono nonneg le).trans_eq (nearest_of_format format)

/-! ## Rounding an unpacked double

The implementation shifts, rounds and shifts once more, because rounding can carry into one
more place.  What it comes to is `nearest`.
-/

/-- A mantissa and an exponent as the format has them. -/
structure Canonical (m : ℕ) (e : ℤ) : Prop where
  short : m < 2 ^ 53
  low : -1074 ≤ e
  full : 2 ^ 52 ≤ m ∨ e = -1074

/-- An unpacked double is a number, with this sign and this magnitude. -/
def Is : UnpackedFloat → Sign → ℝ → Prop
  | .zero s', s, v => s' = s ∧ v = 0
  | .finite s' m e _, s, v => s' = s ∧ Canonical m e ∧ v = m * 2 ^ e
  | _, _, _ => False

/-- The exponent that rounding aims at leaves fifty-three digits, unless it is the least one. -/
theorem targetExponent_eq (t : ℤ) :
    Format.binary64.targetExponent t = max (t - 53) (-1074) := rfl

/-- The residual bits leave less than one unit open. -/
theorem Describes.rest {m : ℕ} {accuracy : Accuracy} {q : ℝ}
    (h : Describes (.ofMantissaAndAccuracy m accuracy) q) :
    ∃ rest : ℝ, q = m + rest ∧ 0 ≤ rest ∧ rest < 1 := by
  obtain ⟨rest, rfl, bits⟩ := h
  cases accuracy with
  | exact => exact ⟨rest, rfl, ge_of_eq bits, by rw [show rest = 0 from bits]; norm_num⟩
  | inexact order =>
      cases order with
      | lt => exact ⟨rest, rfl, bits.1.le, by linarith [bits.2]⟩
      | eq => exact ⟨rest, rfl, by rw [show rest = 1 / 2 from bits]; norm_num,
          by rw [show rest = 1 / 2 from bits]; norm_num⟩
      | gt => exact ⟨rest, rfl, by linarith [bits.1], bits.2⟩

/-- The exponent that the format wants for a mantissa is that of the last place of the
number, as soon as the mantissa has enough places. -/
theorem targetExponent_eq_lastPlace {m : ℕ} {e : ℤ} {rest : ℝ} (nonneg : 0 ≤ rest)
    (below : rest < 1) (pos : 0 < (m : ℝ) + rest) (place : e ≤ lastPlace ((m + rest) * 2 ^ e)) :
    Format.binary64.targetExponent (totalExponent m e) = lastPlace ((m + rest) * 2 ^ e) := by
  rw [targetExponent_eq, totalExponent]
  rcases Nat.eq_zero_or_pos m with rfl | some
  · -- without a mantissa the leading one is below `e`, so both are the least exponent
    have log := log_mul_zpow_lt pos (by simpa using below) e
    unfold lastPlace at place ⊢
    simp only [Nat.log2_zero]
    omega
  · unfold lastPlace
    rw [log_add_mul_zpow some nonneg below]
    omega

/-- A mantissa that may have one place too many is the number that it was. -/
theorem is_of_rounded (s : Sign) {m : ℕ} {e : ℤ} (short : m ≤ 2 ^ 53) (low : -1074 ≤ e)
    (full : 2 ^ 52 ≤ m ∨ e = -1074) :
    let final := shiftToTargetExponent .binary64 m e .exact
    Is (if h : final.1.mantissa = 0 then .zero s
      else .finite s final.1.mantissa final.2 (Nat.pos_of_ne_zero h)) s (m * 2 ^ e) := by
  intro final
  rcases short.lt_or_eq with short | rfl
  · have digits : m.log2 < 53 := by
      rcases Nat.eq_zero_or_pos m with rfl | pos
      · decide
      · exact (Nat.log2_lt pos.ne').mpr short
    -- a short mantissa is not shifted again
    have still : (Format.binary64.targetExponent (totalExponent m e) - e).toNat = 0 := by
      rw [targetExponent_eq, totalExponent]
      omega
    have same : final = (⟨m, false, false⟩, e) := by
      simp only [final, shiftToTargetExponent, shiftToExponent, still]
      exact Prod.ext rfl (by simp)
    rw [same]
    split
    next zero => exact ⟨rfl, by simp [show m = 0 from zero]⟩
    next some => exact ⟨rfl, ⟨short, low, full⟩, rfl⟩
  · -- rounding up has carried, and the second shift drops a zero
    have once : (Format.binary64.targetExponent (totalExponent (2 ^ 53) e) - e).toNat = 1 := by
      rw [targetExponent_eq, totalExponent, Nat.log2_two_pow]
      omega
    have halved : final = (⟨2 ^ 52, false, false⟩, e + 1) := by
      simp only [final, shiftToTargetExponent, shiftToExponent, once]
      rfl
    rw [halved]
    refine ⟨rfl, ⟨by norm_num, by omega, .inl le_rfl⟩, ?_⟩
    rw [two_pow_mul_zpow rfl]
    exact (two_pow_mul_zpow (by omega)).symm

/-- **Rounding an unpacked double** gives the nearest number of the format, if the
mantissa has enough places. -/
theorem is_roundWithAccuracy (s : Sign) {m : ℕ} {e : ℤ} {accuracy : Accuracy} {q : ℝ}
    (described : Describes (.ofMantissaAndAccuracy m accuracy) q) (pos : 0 < q)
    (place : e ≤ lastPlace (q * 2 ^ e)) :
    Is (roundWithAccuracy .binary64 s m e accuracy) s (nearest (q * 2 ^ e)) := by
  obtain ⟨rest, rfl, nonneg, below⟩ := described.rest
  have target := targetExponent_eq_lastPlace nonneg below pos place
  generalize exact_eq : ((m : ℝ) + rest) * 2 ^ e = x at place target ⊢
  have xpos : 0 < x := exact_eq ▸ mul_pos pos (two_zpow_pos e)
  have reached : e + ((lastPlace x - e).toNat : ℤ) = lastPlace x := by omega
  have shifted : shiftToTargetExponent .binary64 m e accuracy
      = (ExtendedMantissa.ofMantissaAndAccuracy m accuracy >>> (lastPlace x - e).toNat,
        lastPlace x) := by
    simp only [shiftToTargetExponent, shiftToExponent, target]
    rw [reached]
  have quotient : ((m : ℝ) + rest) / 2 ^ (lastPlace x - e).toNat = x / 2 ^ lastPlace x := by
    rw [div_eq_div_iff (by positivity) (two_zpow_pos _).ne', two_zpow_eq place]
    push_cast
    linear_combination (2 : ℝ) ^ (lastPlace x - e).toNat * exact_eq
  have rounded := (described.shiftRight (lastPlace x - e).toNat).roundedMantissa
  rw [quotient] at rounded
  -- the result has fifty-three places, or a carry, unless the exponent is the least
  have high : x / 2 ^ lastPlace x ≤ (2 ^ 53 : ℕ) := by
    rw [div_le_iff₀ (two_zpow_pos _)]
    have places : Int.log 2 x + 1 ≤ 53 + lastPlace x := by unfold lastPlace; omega
    calc x ≤ 2 ^ (Int.log 2 x + 1) := (lt_zpow_log x).le
      _ ≤ 2 ^ (53 + lastPlace x) := zpow_le_zpow_right₀ one_le_two places
      _ = (2 ^ 53 : ℕ) * 2 ^ lastPlace x := (two_pow_mul_zpow rfl).symm
  have full : 2 ^ 52 ≤ evenRound (x / 2 ^ lastPlace x) ∨ lastPlace x = -1074 := by
    by_cases least : lastPlace x = -1074
    · exact .inr least
    have places : Int.log 2 x = 52 + lastPlace x := by unfold lastPlace at least ⊢; omega
    refine .inl (le_evenRound_natCast ((le_div_iff₀ (two_zpow_pos _)).mpr ?_))
    calc ((2 ^ 52 : ℕ) : ℝ) * 2 ^ lastPlace x = 2 ^ Int.log 2 x := two_pow_mul_zpow places
      _ ≤ x := zpow_log_le xpos
  have final := is_of_rounded s (evenRound_le_natCast high) (le_max_right _ _) full
  unfold roundWithAccuracy
  simp only [shifted, rounded]
  exact final

theorem describes_exact (m : ℕ) : Describes (.ofMantissaAndAccuracy m .exact) m :=
  ⟨0, (add_zero _).symm, rfl⟩

/-- **Rounding an unpacked double is rounding the number that it stands for.** -/
theorem is_round (s : Sign) {m : ℕ} (pos : 0 < m) (e : ℤ) :
    Is (UnpackedFloat.round .binary64 s m e) s (nearest (m * 2 ^ e)) := by
  have target : Format.binary64.targetExponent (totalExponent m e)
      = lastPlace ((m : ℝ) * 2 ^ e) := by
    rw [targetExponent_eq, totalExponent, lastPlace, log_natCast_mul_zpow pos]
    omega
  generalize shift : (e - lastPlace ((m : ℝ) * 2 ^ e)).toNat = k at target
  -- the mantissa is shifted to the place at which the format rounds, and nothing is lost by this
  have same : ((m <<< k : ℕ) : ℝ) * 2 ^ (e - (k : ℤ)) = m * 2 ^ e := by
    rw [Nat.shiftLeft_eq, zpow_sub₀ two_ne_zero, zpow_natCast]
    push_cast
    field_simp
  have rounded := is_roundWithAccuracy s (e := e - k) (describes_exact (m <<< k))
    (by rw [Nat.shiftLeft_eq]; positivity) (by rw [same]; omega)
  rw [same] at rounded
  unfold UnpackedFloat.round
  simp only [target, decreaseExponent, shift]
  exact rounded

/-- Rounding a signed mantissa: the magnitude is rounded, and a number that is not
negative keeps its sign. -/
theorem is_normalize (m : ℤ) (e : ℤ) :
    ∃ s, Is (UnpackedFloat.normalize .binary64 m e .positive) s (nearest (|(m : ℝ)| * 2 ^ e)) ∧
      (0 ≤ m → s = .positive) := by
  -- the sign is taken off and the magnitude is rounded
  rcases lt_trichotomy m 0 with below | rfl | above
  · obtain ⟨n, rfl⟩ : ∃ n : ℕ, m = -n := ⟨(-m).toNat, by omega⟩
    have pos : 0 < n := by omega
    refine ⟨.negative, ?_, fun nonneg => absurd nonneg below.not_ge⟩
    have magnitude : |((-(n : ℤ) : ℤ) : ℝ)| = n := by simp
    rw [UnpackedFloat.normalize, compare_lt_iff_lt.mpr below, magnitude, neg_neg, Int.toNat_natCast]
    exact is_round .negative pos e
  · exact ⟨.positive, ⟨rfl, by simp [nearest_zero]⟩, fun _ => rfl⟩
  · obtain ⟨n, rfl⟩ : ∃ n : ℕ, m = n := ⟨m.toNat, by omega⟩
    have pos : 0 < n := by omega
    refine ⟨.positive, ?_, fun _ => rfl⟩
    have magnitude : |((n : ℤ) : ℝ)| = n := by simp
    rw [UnpackedFloat.normalize, compare_gt_iff_gt.mpr above, magnitude, Int.toNat_natCast]
    exact is_round .positive pos e

/-! ## Packing

A mantissa with its leading one is packed without it, and one below it is packed as it is;
the exponent field says which.
-/

/-- A mantissa with its leading one. -/
theorem toNat_one_append (m : BitVec 52) : (1#1 ++ m).toNat = 2 ^ 52 + m.toNat := by
  rw [BitVec.toNat_append, ← Nat.shiftLeft_add_eq_or_of_lt m.isLt]
  simp [Nat.shiftLeft_eq]

/-- A mantissa whose leading one is left out in the bits is unpacked with it. -/
theorem unpack_normal (s : Sign) {biased m : ℕ} (pos : 0 < biased) (finite : biased + 1 < 2 ^ 11)
    (short : m < 2 ^ 53) (full : 2 ^ 52 ≤ m) :
    UnpackedFloat.unpack .binary64 (packComponents .binary64 s (.ofNat 11 biased) (.ofNat 52 m))
      = .finite s m (biased - 1075) (by omega) := by
  have exponent : (BitVec.ofNat 11 biased).toNat = biased := by
    rw [BitVec.toNat_ofNat, Nat.mod_eq_of_lt (by omega)]
  have mantissa : (1#1 ++ BitVec.ofNat 52 m).toNat = m := by
    rw [toNat_one_append, BitVec.toNat_ofNat]
    omega
  have notLast : BitVec.ofNat 11 biased ≠ -1#11 := fun same => by
    have := congrArg BitVec.toNat same
    rw [exponent] at this
    simp at this
    omega
  -- neither the word of an infinity nor one without the leading one
  have notFirst : BitVec.ofNat 11 biased ≠ 0#11 := fun same => by
    have := congrArg BitVec.toNat same
    rw [exponent] at this
    simp at this
    omega
  unfold UnpackedFloat.unpack
  simp only [unpackMantissa_packComponents, unpackExponent_packComponents]
  rw [if_neg notLast, if_neg notFirst, unpackSign_packComponents, Sign.ofBitVec_toBitVec]
  simp only [mantissa, exponent]
  rfl

/-- A mantissa below the least leading one is unpacked as it is. -/
theorem unpack_subnormal (s : Sign) {m : ℕ} (pos : 0 < m) (short : m < 2 ^ 52) :
    UnpackedFloat.unpack .binary64 (packComponents .binary64 s 0#11 (.ofNat 52 m))
      = .finite s m (-1074) pos := by
  have mantissa : (BitVec.ofNat 52 m).toNat = m := by
    rw [BitVec.toNat_ofNat, Nat.mod_eq_of_lt short]
  -- it is not zero, which has a case of its own
  have some : BitVec.ofNat 52 m ≠ 0#52 := fun same => by
    have := congrArg BitVec.toNat same
    rw [mantissa] at this
    simp at this
    omega
  unfold UnpackedFloat.unpack
  simp only [unpackMantissa_packComponents, unpackExponent_packComponents]
  rw [if_neg (by decide), if_pos trivial, dif_neg some, unpackSign_packComponents,
    Sign.ofBitVec_toBitVec]
  simp only [mantissa]
  rfl

/-- **Nothing is lost in packing** a number of the format that is not too large. -/
theorem unpack_pack {u : UnpackedFloat} {s : Sign} {v : ℝ} (is : Is u s v)
    (small : v < 2 ^ (1024 : ℤ)) :
    UnpackedFloat.unpack .binary64 (UnpackedFloat.pack .binary64 u) = u := by
  cases u with
  | infinity s' => cases is
  | notANumber => cases is
  | zero s' => exact unpack_packedZero
  | finite s' m e pos =>
      obtain ⟨rfl, ⟨short, low, full⟩, rfl⟩ := is
      -- a full mantissa with a larger exponent would be past the bound
      have limit : e ≤ 971 := by
        rcases full with full | rfl
        · by_contra! large
          have : (2 : ℝ) ^ (1024 : ℤ) ≤ m * 2 ^ e :=
            calc (2 : ℝ) ^ (1024 : ℤ) ≤ 2 ^ (52 + e) :=
                  zpow_le_zpow_right₀ one_le_two (by omega)
              _ = (2 ^ 52 : ℕ) * 2 ^ e := (two_pow_mul_zpow rfl).symm
              _ ≤ m * 2 ^ e := mul_le_mul_of_nonneg_right (by exact_mod_cast full)
                  (two_zpow_pos e).le
          linarith
        · norm_num
      have bias : (e + (Format.binary64.exponentBias : ℤ)
          + (Format.binary64.mantissaBitsWithoutImplicit : ℤ)).toNat = (e + 1075).toNat := by
        rw [show (Format.binary64.exponentBias : ℤ) = 1023 from rfl]
        norm_num [add_assoc]
      unfold UnpackedFloat.pack
      simp only [bias]
      rw [if_neg (by norm_num; omega)]
      -- the leading one says which of the two encodings is taken
      by_cases normal : 2 ^ 52 ≤ m
      · have digits : m.log2 = 52 := by
          have := (Nat.le_log2 pos.ne').mpr normal
          have := (Nat.log2_lt pos.ne').mpr short
          omega
        rw [if_pos (by rw [digits]; rfl)]
        refine (unpack_normal s' (by omega) (by omega) short normal).trans ?_
        congr 1
        omega
      · have digits : m.log2 < 52 := (Nat.log2_lt pos.ne').mpr (by omega)
        obtain rfl : e = -1074 := full.resolve_left normal
        rw [if_neg (by change m.log2 + 1 ≠ 53; omega)]
        exact unpack_subnormal s' pos (by omega)

end CrossBench.Doubles
