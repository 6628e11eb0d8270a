import CrossBench.Proofs.Doubles.Rounding

/-!
# Arithmetic of doubles

The operations on doubles as operations on numbers.  A double that is not infinite and is
a number has a sign and a magnitude (`Reads`), and the magnitude of a result is the exact
one, rounded: this is said for an unpacked double first (`is_add` and its siblings), and
then for a double, where the result must not be too large.

* `Within` — a double without a minus sign that is not above a bound.
* `Within.add`, `Within.div`, `Within.sqrt`, `within_square` — what becomes of bounds.
-/

namespace CrossBench.Doubles

open Float.Model Float.Model.UnpackedFloat

/-! ## Operations on unpacked doubles

An unpacked double is a sign, a mantissa and an exponent.  Each operation brings two of them
to one exponent, works on the mantissas, and rounds what comes out with two bits that tell
how the rest compares with nothing and with one half.
-/

variable {u u' : UnpackedFloat} {s s' : Sign} {v v' : ℝ}

/-- A mantissa and an exponent of the format are a number of it. -/
theorem Canonical.inFormat {m : ℕ} {e : ℤ} (h : Canonical m e) : InFormat (m * 2 ^ e) :=
  ⟨m, e, rfl, h.short.le, h.low⟩

theorem Is.nonneg (h : Is u s v) : 0 ≤ v := by
  cases u with
  | zero _ => exact h.2.ge
  | finite _ m e _ =>
      rw [h.2.2]
      exact mul_nonneg m.cast_nonneg (two_zpow_pos e).le
  | infinity _ => cases h
  | notANumber => cases h

/-- What an unpacked double stands for is in the format, so that rounding leaves it alone. -/
theorem Is.inFormat (h : Is u s v) : InFormat v := by
  cases u with
  | zero _ => exact ⟨0, 0, by simp [h.2], by norm_num, by norm_num⟩
  | finite _ m e _ => exact h.2.2 ▸ h.2.1.inFormat
  | infinity _ => cases h
  | notANumber => cases h

/-- Rounding does not move what a double is. -/
theorem Is.nearest (h : Is u s v) : Is u s (nearest v) := by
  rwa [nearest_of_format h.inFormat]

/-- A mantissa brought to a lower exponent stands for the same number. -/
theorem shifted_mul_zpow (m : ℕ) {t e : ℤ} (le : t ≤ e) :
    ((m <<< (e - t).toNat : ℕ) : ℝ) * 2 ^ t = m * 2 ^ e := by
  rw [Nat.shiftLeft_eq, Nat.cast_mul, mul_assoc, ← two_zpow_eq le]

theorem is_ofNat (n : ℕ) : Is (UnpackedFloat.ofNat .binary64 n) .positive (nearest n) := by
  obtain ⟨s, is, sign⟩ := is_normalize n 0
  obtain rfl := sign (Int.natCast_nonneg n)
  have magnitude : |((n : ℤ) : ℝ)| * 2 ^ (0 : ℤ) = n := by simp
  rw [magnitude] at is
  exact is

/-- A sum is rounded once.  Neither double has a sign, so that no sign is chosen here. -/
theorem is_add (h : Is u .positive v) (h' : Is u' .positive v') :
    Is (UnpackedFloat.add .binary64 u u') .positive (nearest (v + v')) := by
  match u, u' with
  | .zero _, .zero _ =>
      obtain ⟨rfl, rfl⟩ := h
      obtain ⟨rfl, rfl⟩ := h'
      exact ⟨rfl, by rw [add_zero, nearest_zero]⟩
  | .zero _, .finite .. =>
      obtain ⟨rfl, rfl⟩ := h
      rw [zero_add]
      exact h'.nearest
  | .finite .., .zero _ =>
      obtain ⟨rfl, rfl⟩ := h'
      rw [add_zero]
      exact h.nearest
  | .finite _ m e _, .finite _ m' e' _ =>
      obtain ⟨rfl, -, rfl⟩ := h
      obtain ⟨rfl, -, rfl⟩ := h'
      -- both are shifted to the smaller exponent and added there
      obtain ⟨s, is, sign⟩ := is_normalize
        ((m <<< (e - min e e').toNat : ℕ) + (m' <<< (e' - min e e').toNat : ℕ)) (min e e')
      obtain rfl := sign (by positivity)
      have magnitude : |(((m <<< (e - min e e').toNat : ℕ)
          + (m' <<< (e' - min e e').toNat : ℕ) : ℤ) : ℝ)| * 2 ^ min e e'
            = m * 2 ^ e + m' * 2 ^ e' := by
        rw [← shifted_mul_zpow m (min_le_left e e'), ← shifted_mul_zpow m' (min_le_right e e'),
          ← add_mul, abs_of_nonneg (by positivity)]
        push_cast
        rfl
      rw [magnitude] at is
      exact is

/-- A difference is rounded once, and which sign it has says which of the two is the greater. -/
theorem is_sub (h : Is u .positive v) (h' : Is u' .positive v') :
    ∃ s, Is (UnpackedFloat.sub .binary64 u u') s (nearest |v - v'|) := by
  match u, u' with
  | .zero _, .zero _ =>
      obtain ⟨rfl, rfl⟩ := h
      obtain ⟨rfl, rfl⟩ := h'
      exact ⟨.positive, rfl, by rw [sub_zero, abs_zero, nearest_zero]⟩
  | .zero _, .finite s' m' e' _ =>
      obtain ⟨rfl, rfl⟩ := h
      rw [zero_sub, abs_neg, abs_of_nonneg h'.nonneg, nearest_of_format h'.inFormat]
      exact ⟨-s', rfl, h'.2⟩
  | .finite .., .zero _ =>
      obtain ⟨rfl, rfl⟩ := h'
      rw [sub_zero, abs_of_nonneg h.nonneg]
      exact ⟨_, h.nearest⟩
  | .finite _ m e _, .finite _ m' e' _ =>
      obtain ⟨rfl, -, rfl⟩ := h
      obtain ⟨rfl, -, rfl⟩ := h'
      -- both are shifted to the smaller exponent and subtracted there
      obtain ⟨s, is, -⟩ := is_normalize
        ((m <<< (e - min e e').toNat : ℕ) - (m' <<< (e' - min e e').toNat : ℕ)) (min e e')
      have magnitude : |(((m <<< (e - min e e').toNat : ℕ)
          - (m' <<< (e' - min e e').toNat : ℕ) : ℤ) : ℝ)| * 2 ^ min e e'
            = |(m : ℝ) * 2 ^ e - m' * 2 ^ e'| := by
        rw [← shifted_mul_zpow m (min_le_left e e'), ← shifted_mul_zpow m' (min_le_right e e'),
          ← sub_mul, abs_mul, abs_of_pos (two_zpow_pos (min e e'))]
        push_cast
        rfl
      rw [magnitude] at is
      exact ⟨s, is⟩

/-- A number of the format has so many places that a product needs no more. -/
theorem exponent_le_lastPlace_mul {m m' : ℕ} {e e' : ℤ} (pos : 0 < m) (pos' : 0 < m')
    (h : Canonical m e) (h' : Canonical m' e') :
    e + e' ≤ lastPlace (((m * m' : ℕ) : ℝ) * 2 ^ (e + e')) := by
  rw [lastPlace, log_natCast_mul_zpow (Nat.mul_pos pos pos')]
  rcases h.full with full | rfl
  · have digits : 52 ≤ (m * m').log2 :=
      (Nat.le_log2 (Nat.mul_pos pos pos').ne').mpr (full.trans (Nat.le_mul_of_pos_right m pos'))
    omega
  rcases h'.full with full | rfl
  · have digits : 52 ≤ (m * m').log2 :=
      (Nat.le_log2 (Nat.mul_pos pos pos').ne').mpr (full.trans (Nat.le_mul_of_pos_left m' pos))
    omega
  · omega

/-- A product is rounded once, and the signs are multiplied. -/
theorem is_mul (h : Is u s v) (h' : Is u' s' v') :
    Is (UnpackedFloat.mul .binary64 u u') (s * s') (nearest (v * v')) := by
  match u, u' with
  | .zero _, .zero _ | .zero _, .finite .. =>
      obtain ⟨rfl, rfl⟩ := h
      obtain rfl := h'.1
      exact ⟨rfl, by rw [zero_mul, nearest_zero]⟩
  | .finite .., .zero _ =>
      obtain ⟨rfl, rfl⟩ := h'
      obtain rfl := h.1
      exact ⟨rfl, by rw [mul_zero, nearest_zero]⟩
  | .finite _ m e pos, .finite _ m' e' pos' =>
      obtain ⟨rfl, canonical, rfl⟩ := h
      obtain ⟨rfl, canonical', rfl⟩ := h'
      -- mantissas are multiplied and exponents added, exactly; then it is rounded once
      have product : (m : ℝ) * 2 ^ e * (m' * 2 ^ e') = (m * m' : ℕ) * 2 ^ (e + e') := by
        rw [zpow_add₀ two_ne_zero]
        push_cast
        ring
      rw [product]
      exact is_roundWithAccuracy _ (describes_exact (m * m'))
        (by exact_mod_cast Nat.mul_pos pos pos')
        (exponent_le_lastPlace_mul pos pos' canonical canonical')

/-- However exact a mantissa is, this does not change it. -/
theorem mantissa_ofMantissaAndAccuracy (m : ℕ) (accuracy : Accuracy) :
    (ExtendedMantissa.ofMantissaAndAccuracy m accuracy).mantissa = m := by
  cases accuracy with
  | exact => rfl
  | inexact order => cases order <;> rfl

/-- A quotient and a remainder describe a fraction. -/
theorem describes_fraction (n : ℕ) {d : ℕ} (pos : 0 < d) :
    Describes (.ofMantissaAndAccuracy (n / d) (accuracyOfFraction (n % d) d)) (n / d) := by
  have dpos : (0 : ℝ) < d := Nat.cast_pos.mpr pos
  have less : ((n % d : ℕ) : ℝ) < d := Nat.cast_lt.mpr (Nat.mod_lt n pos)
  have parted : (n : ℝ) = d * (n / d : ℕ) + (n % d : ℕ) := by
    exact_mod_cast (Nat.div_add_mod n d).symm
  have split : (n : ℝ) / d = (n / d : ℕ) + (n % d : ℕ) / d := by
    rw [div_eq_iff dpos.ne', add_mul, div_mul_cancel₀ _ dpos.ne', mul_comm]
    exact parted
  refine ⟨(n % d : ℕ) / d, by rw [mantissa_ofMantissaAndAccuracy, split], ?_⟩
  unfold accuracyOfFraction
  split_ifs with zero
  · simp [ExtendedMantissa.ofMantissaAndAccuracy, zero]
  have some : (0 : ℝ) < (n % d : ℕ) := Nat.cast_pos.mpr (Nat.pos_of_ne_zero zero)
  -- the remainder is placed against half the divisor
  rcases lt_trichotomy (2 * (n % d)) d with below | half | above
  · rw [compare_lt_iff_lt.mpr below]
    have below : 2 * ((n % d : ℕ) : ℝ) < d := by exact_mod_cast below
    exact ⟨div_pos some dpos, by rw [div_lt_iff₀ dpos]; linarith⟩
  · rw [compare_eq_iff_eq.mpr half]
    have half : 2 * ((n % d : ℕ) : ℝ) = d := by exact_mod_cast half
    change ((n % d : ℕ) : ℝ) / d = 1 / 2
    rw [div_eq_iff dpos.ne']
    linarith
  · rw [compare_gt_iff_gt.mpr above]
    have above : d < 2 * ((n % d : ℕ) : ℝ) := by exact_mod_cast above
    exact ⟨by rw [lt_div_iff₀ dpos]; linarith, (div_lt_one dpos).mpr less⟩

theorem is_div (h : Is u .positive v) (h' : Is u' .positive v') (pos : 0 < v') :
    Is (UnpackedFloat.div .binary64 u u') .positive (nearest (v / v')) := by
  match u, u' with
  | .zero _, .zero _ | .finite .., .zero _ => exact absurd h'.2 pos.ne'
  | .zero _, .finite .. =>
      obtain ⟨rfl, rfl⟩ := h
      obtain rfl := h'.1
      exact ⟨rfl, by rw [zero_div, nearest_zero]⟩
  | .finite _ m e mpos, .finite _ m' e' mpos' =>
      obtain ⟨rfl, -, rfl⟩ := h
      obtain ⟨rfl, -, rfl⟩ := h'
      generalize target : min (e - e') (Format.binary64.targetExponent
        (totalExponent m e - totalExponent m' e')) = t
      have le : t ≤ e - e' := target ▸ min_le_left _ _
      have quotient : ((m <<< (e - e' - t).toNat : ℕ) : ℝ) / m' * 2 ^ t
          = m * 2 ^ e / (m' * 2 ^ e') := by
        rw [div_mul_eq_mul_div, shifted_mul_zpow m le, zpow_sub₀ two_ne_zero]
        field_simp
      -- the leading one of a quotient is at most one place below the difference of the two
      have log : Int.log 2 ((m : ℝ) * 2 ^ e) - Int.log 2 ((m' : ℝ) * 2 ^ e') - 1
          ≤ Int.log 2 ((m : ℝ) * 2 ^ e / (m' * 2 ^ e')) := by
        have vpos : 0 < (m : ℝ) * 2 ^ e := mul_pos (Nat.cast_pos.mpr mpos) (two_zpow_pos e)
        refine (Int.zpow_le_iff_le_log one_lt_two (div_pos vpos pos)).mp ?_
        rw [Nat.cast_ofNat, sub_sub, zpow_sub₀ two_ne_zero]
        exact div_le_div₀ vpos.le (zpow_log_le vpos) pos (lt_zpow_log _).le
      have place : t ≤ lastPlace ((m : ℝ) * 2 ^ e / (m' * 2 ^ e')) := by
        rw [log_natCast_mul_zpow mpos, log_natCast_mul_zpow mpos'] at log
        rw [lastPlace, ← target, targetExponent_eq, totalExponent, totalExponent]
        omega
      have rounded := is_roundWithAccuracy .positive
        (describes_fraction (m <<< (e - e' - t).toNat) mpos')
        (div_pos (Nat.cast_pos.mpr (Nat.shiftLeft_pos_iff.mpr mpos)) (Nat.cast_pos.mpr mpos'))
        (place.trans_eq (congrArg lastPlace quotient.symm))
      rw [quotient] at rounded
      unfold UnpackedFloat.div divCore
      simp only [target]
      exact rounded

/-- A root and what remains describe the square root. -/
theorem describes_root (n : ℕ) :
    Describes (.ofMantissaAndAccuracy n.sqrt
      (if n - n.sqrt * n.sqrt = 0 then .exact
        else .inexact (if n - n.sqrt * n.sqrt ≤ n.sqrt then .lt else .gt))) (√n) := by
  generalize root : n.sqrt = r
  have low : r * r ≤ n := root ▸ Nat.sqrt_le n
  have high : n < (r + 1) * (r + 1) := root ▸ Nat.lt_succ_sqrt n
  have square : √(n : ℝ) * √n = n := Real.mul_self_sqrt n.cast_nonneg
  have nonneg : 0 ≤ √(n : ℝ) := Real.sqrt_nonneg n
  have rnonneg : (0 : ℝ) ≤ r := r.cast_nonneg
  refine ⟨√n - r, by rw [mantissa_ofMantissaAndAccuracy, add_sub_cancel], ?_⟩
  -- `(r + 1 / 2) ^ 2` is `r * r + r + 1 / 4`, and no natural number is there
  split_ifs with zero some
  · have exact_ : n = r * r := by omega
    have value : √(n : ℝ) = r := by rw [exact_, Nat.cast_mul, Real.sqrt_mul_self rnonneg]
    exact sub_eq_zero.mpr value
  · have above : (r * r : ℝ) < n := by exact_mod_cast (by omega : r * r < n)
    have below : (n : ℝ) ≤ r * r + r := by exact_mod_cast (by omega : n ≤ r * r + r)
    exact ⟨by nlinarith, by nlinarith⟩
  · have above : (r * r + r + 1 : ℝ) ≤ n := by exact_mod_cast (by omega : r * r + r + 1 ≤ n)
    have below : (n : ℝ) < (r + 1) * (r + 1) := by exact_mod_cast high
    exact ⟨by nlinarith, by nlinarith⟩

theorem is_sqrt (h : Is u .positive v) :
    Is (UnpackedFloat.sqrt .binary64 u) .positive (nearest √v) := by
  match u with
  | .zero _ =>
      obtain ⟨rfl, rfl⟩ := h
      exact ⟨rfl, by rw [Real.sqrt_zero, nearest_zero]⟩
  | .finite _ m e pos =>
      obtain ⟨rfl, -, rfl⟩ := h
      generalize target : min (e.ediv 2) (Format.binary64.targetExponent
        ((totalExponent m e + 1).ediv 2)) = t
      have le : 2 * t ≤ e := by
        have half : t ≤ e / 2 := target ▸ min_le_left _ _
        omega
      have root : √((m <<< (e - 2 * t).toNat : ℕ) : ℝ) * 2 ^ t = √(m * 2 ^ e) := by
        rw [← shifted_mul_zpow m le, Real.sqrt_mul (Nat.cast_nonneg _), two_mul,
          zpow_add₀ two_ne_zero, Real.sqrt_mul_self (two_zpow_pos t).le]
      have vpos : 0 < (m : ℝ) * 2 ^ e := mul_pos (Nat.cast_pos.mpr pos) (two_zpow_pos e)
      -- the leading one of a root is half as far up as that of the number
      have log : Int.log 2 ((m : ℝ) * 2 ^ e) / 2 ≤ Int.log 2 √((m : ℝ) * 2 ^ e) := by
        refine (Int.zpow_le_iff_le_log one_lt_two (Real.sqrt_pos.mpr vpos)).mp ?_
        rw [Nat.cast_ofNat]
        refine Real.le_sqrt_of_sq_le ?_
        rw [← zpow_natCast, ← zpow_mul]
        exact (zpow_le_zpow_right₀ one_le_two (by omega)).trans (zpow_log_le vpos)
      have place : t ≤ lastPlace √((m : ℝ) * 2 ^ e) := by
        rw [log_natCast_mul_zpow pos] at log
        rw [lastPlace, ← target, targetExponent_eq, totalExponent]
        have half : (((m.log2 : ℤ) + 1 + e + 1).ediv 2) = ((m.log2 : ℤ) + e) / 2 + 1 := by
          change ((m.log2 : ℤ) + 1 + e + 1) / 2 = _
          omega
        rw [half]
        omega
      have rounded := is_roundWithAccuracy .positive
        (describes_root (m <<< (e - 2 * t).toNat))
        (Real.sqrt_pos.mpr (Nat.cast_pos.mpr (Nat.shiftLeft_pos_iff.mpr pos)))
        (place.trans_eq (congrArg lastPlace root.symm))
      rw [root] at rounded
      unfold UnpackedFloat.sqrt sqrtCore
      simp only [target]
      exact rounded

/-! ## Operations on doubles

Packing and unpacking are in between here, and this is where a result could be too great.  A
`Bound` is a number of the format, so a bound on the exact result is a bound on the rounded
one.
-/

/-- A double is a number, with this sign and this magnitude. -/
def Reads (x : Float) (s : Sign) (v : ℝ) : Prop := Is x.toModel.unpack s v

/-- Packing a double that is not too great changes nothing of what it stands for. -/
theorem reads_pack (is : Is u s v) (small : v < 2 ^ (1024 : ℤ)) :
    Reads (.ofModel (.pack u)) s v := by
  change Is (UnpackedFloat.unpack .binary64 (UnpackedFloat.pack .binary64 u)) s v
  rwa [unpack_pack is small]

/-- A bound on results: a number of the format that is not too large for it. -/
structure Bound (b : ℝ) : Prop where
  inFormat : InFormat b
  small : b < 2 ^ (1024 : ℤ)

/-- Few digits and a moderate power of two make a bound. -/
theorem Bound.of_le {n k : ℕ} (few : n ≤ 2 ^ 53) (moderate : k ≤ 900) :
    Bound ((n : ℝ) * 2 ^ k) := by
  refine ⟨⟨n, k, by rw [zpow_natCast], few, by omega⟩, ?_⟩
  calc (n : ℝ) * 2 ^ k ≤ 2 ^ 53 * 2 ^ 900 :=
        mul_le_mul (by exact_mod_cast few) (pow_le_pow_right₀ one_le_two moderate)
          (by positivity) (by positivity)
    _ = 2 ^ (53 + 900) := (pow_add ..).symm
    _ < 2 ^ 1024 := pow_lt_pow_right₀ one_lt_two (by norm_num)
    _ = 2 ^ (1024 : ℤ) := (zpow_ofNat 2 1024).symm

theorem Bound.two_pow {k : ℕ} (moderate : k ≤ 900) : Bound ((2 : ℝ) ^ k) := by
  simpa using Bound.of_le (n := 1) (by norm_num) moderate

/-- A double that is a number, has no minus sign and is not above a bound. -/
def Within (b : ℝ) (x : Float) : Prop := ∃ v, Reads x .positive v ∧ v ≤ b

/-- A rounded number keeps the bound of the exact one. -/
theorem within_pack {b : ℝ} (is : Is u .positive (nearest v)) (nonneg : 0 ≤ v) (le : v ≤ b)
    (bound : Bound b) : Within b (.ofModel (.pack u)) := by
  have rounded := nearest_le_of_format nonneg le bound.inFormat
  exact ⟨_, reads_pack is (rounded.trans_lt bound.small), rounded⟩

theorem reads_zero : Reads 0 .positive 0 := ⟨rfl, rfl⟩

namespace Reads

variable {x y : Float}

/-- No double that is read without a sign is below zero. -/
theorem nonneg (h : Reads x s v) : 0 ≤ v := Is.nonneg h

theorem inFormat (h : Reads x s v) : InFormat v := Is.inFormat h

/-- The sum of two doubles is the exact sum, rounded, if this is not too great for the format. -/
theorem add (hx : Reads x .positive v) (hy : Reads y .positive v')
    (small : nearest (v + v') < 2 ^ (1024 : ℤ)) : Reads (x + y) .positive (nearest (v + v')) :=
  reads_pack (is_add hx hy) small

/-- The quotient of two doubles is the exact quotient, rounded. -/
theorem div (hx : Reads x .positive v) (hy : Reads y .positive v') (pos : 0 < v')
    (small : nearest (v / v') < 2 ^ (1024 : ℤ)) : Reads (x / y) .positive (nearest (v / v')) :=
  reads_pack (is_div hx hy pos) small

theorem sqrt (hx : Reads x .positive v) (small : nearest √v < 2 ^ (1024 : ℤ)) :
    Reads x.sqrt .positive (nearest √v) :=
  reads_pack (is_sqrt hx) small

/-- The square of a distance has no minus sign, whichever of the two is the greater. -/
theorem square_sub {b : ℝ} (hx : Reads x .positive v) (hy : Reads y .positive v') (xle : v ≤ b)
    (yle : v' ≤ b) (bound : Bound b) (square : Bound (b ^ 2)) :
    Reads ((x - y) * (x - y)) .positive (nearest (nearest |v - v'| ^ 2)) ∧
      nearest (nearest |v - v'| ^ 2) ≤ b ^ 2 := by
  obtain ⟨s, is⟩ := is_sub hx hy
  have distance : |v - v'| ≤ b :=
    abs_sub_le_iff.mpr ⟨by linarith [hy.nonneg], by linarith [hx.nonneg]⟩
  have rounded := nearest_le_of_format (abs_nonneg _) distance bound.inFormat
  have reads : Reads (x - y) s (nearest |v - v'|) := reads_pack is (rounded.trans_lt bound.small)
  have product := is_mul reads reads
  -- whichever sign the distance has, its square has none
  rw [show s * s = .positive by cases s <;> rfl, ← sq] at product
  have limit := nearest_le_of_format (sq_nonneg (nearest |v - v'|))
    (pow_le_pow_left₀ (nearest_nonneg _) rounded 2) square.inFormat
  exact ⟨reads_pack product (limit.trans_lt square.small), limit⟩

end Reads

theorem reads_toFloat {n : ℕ} (few : n < 2 ^ 53) :
    Reads (UInt64.ofNat n).toFloat .positive n := by
  have value : (UInt64.ofNat n).toNat = n := by
    rw [UInt64.toNat_ofNat', Nat.mod_eq_of_lt (by omega)]
  have format : Bound (n : ℝ) := by simpa using Bound.of_le (n := n) (k := 0) few.le (by norm_num)
  have is := is_ofNat (UInt64.ofNat n).toNat
  rw [value, nearest_of_format format.inFormat] at is
  exact reads_pack (u := UnpackedFloat.ofUInt64 .binary64 (UInt64.ofNat n))
    (by rwa [UnpackedFloat.ofUInt64, value]) format.small

/-- Rounding does not take a count of nanoseconds beyond `2 ^ 64`. -/
theorem nearest_toNat_le (n : UInt64) : nearest n.toNat ≤ 2 ^ 64 := by
  refine nearest_le_of_format n.toNat.cast_nonneg ?_ (Bound.two_pow (by norm_num)).inFormat
  exact_mod_cast n.toNat_lt.le

/-- An integer of sixty-four bits becomes the nearest double. -/
theorem reads_nearest_toNat (n : UInt64) : Reads n.toFloat .positive (nearest n.toNat) :=
  reads_pack (is_ofNat n.toNat)
    ((nearest_toNat_le n).trans_lt (Bound.two_pow (by norm_num)).small)

/-- A count of nanoseconds is a double within `2 ^ 64`. -/
theorem within_toFloat (n : UInt64) : Within (2 ^ 64) n.toFloat :=
  ⟨_, reads_nearest_toNat n, nearest_toNat_le n⟩

namespace Within

variable {b c w : ℝ} {x y : Float}

theorem zero (nonneg : 0 ≤ b) : Within b 0 := ⟨0, reads_zero, nonneg⟩

theorem add (hx : Within b x) (hy : Within c y) (bound : Bound (b + c)) :
    Within (b + c) (x + y) := by
  obtain ⟨v, hx, xle⟩ := hx
  obtain ⟨w, hy, yle⟩ := hy
  exact within_pack (is_add hx hy) (add_nonneg hx.nonneg hy.nonneg) (add_le_add xle yle) bound

/-- A quotient is within a bound that the quotient of the bounds does not exceed. -/
theorem div (hx : Within b x) (hy : Reads y .positive w) (pos : 0 < w) (le : b / w ≤ c)
    (bound : Bound c) : Within c (x / y) := by
  obtain ⟨v, hx, xle⟩ := hx
  exact within_pack (is_div hx hy pos) (div_nonneg hx.nonneg pos.le)
    ((div_le_div_of_nonneg_right xle pos.le).trans le) bound

/-- A root is within a bound that the root of the bound does not exceed. -/
theorem sqrt (hx : Within b x) (le : √b ≤ c) (bound : Bound c) : Within c x.sqrt := by
  obtain ⟨v, hx, xle⟩ := hx
  exact within_pack (is_sqrt hx) (Real.sqrt_nonneg v) ((Real.sqrt_le_sqrt xle).trans le) bound

/-- The square of a distance is within the square of a bound of the two doubles, for their
distance is within this bound whichever is the greater. -/
theorem square_sub (hx : Within b x) (hy : Within b y) (bound : Bound b)
    (square : Bound (b * b)) : Within (b * b) ((x - y) * (x - y)) := by
  obtain ⟨v, hx, xle⟩ := hx
  obtain ⟨w, hy, yle⟩ := hy
  rw [← sq] at square ⊢
  exact ⟨_, hx.square_sub hy xle yle bound square⟩

end Within

end CrossBench.Doubles
