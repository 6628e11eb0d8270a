import CrossBench.Proofs.Doubles.Statistics

/-!
# The order of doubles

A double has a mantissa and an exponent, and the format leaves no choice of the two: of two
numbers, the one with the higher exponent is the greater, and with one exponent the mantissas
decide (`Canonical.le_iff`).  The comparison of doubles goes by exponent and mantissa, and the
bits of a double without a sign are the two behind each other.  So three orders are one:

* `le_iff_of_reads` — `≤` on doubles is `≤` on the numbers that they stand for;
* `toBits_le_iff_of_reads` — and so is `≤` on their bits;
* `eq_of_reads` — and a number has only one double.

So what rounding does to the order can be said of doubles, for instance that half of a sum
lies between the two that were added (`reads_half`).

With a sign in front the order of the magnitudes is kept or turned around, and the two
infinities are the ends: `le_iff_ordered` says for all doubles that `≤` is the order of
what they stand for.
-/

namespace CrossBench.Doubles

open Float.Model Float.Model.UnpackedFloat

/-! ## Mantissas and exponents

A full mantissa has fifty-three places, so one more in the exponent outweighs any mantissa.
At the least exponent a mantissa need not be full, but there is no lower one to compare
with.
-/

section Canonical

variable {m m' : ℕ} {e e' : ℤ}

/-- A higher exponent makes a greater number, whatever the mantissas are. -/
theorem Canonical.lt_of_lt (h : Canonical m e) (h' : Canonical m' e') (lt : e < e') :
    (m : ℝ) * 2 ^ e < m' * 2 ^ e' := by
  have full : 2 ^ 52 ≤ m' := by
    refine h'.full.resolve_right fun least => ?_
    have low := h.low
    omega
  calc (m : ℝ) * 2 ^ e < 2 ^ 53 * 2 ^ e :=
        mul_lt_mul_of_pos_right (by exact_mod_cast h.short) (two_zpow_pos e)
    _ = 2 ^ 52 * 2 ^ (e + 1) := by
        rw [zpow_add₀ two_ne_zero]
        ring
    _ ≤ 2 ^ 52 * 2 ^ e' :=
        mul_le_mul_of_nonneg_left (zpow_le_zpow_right₀ one_le_two lt) (by positivity)
    _ ≤ m' * 2 ^ e' :=
        mul_le_mul_of_nonneg_right (by exact_mod_cast full) (two_zpow_pos e').le

/-- **The exponents decide, and then the mantissas.** -/
theorem Canonical.le_iff (h : Canonical m e) (h' : Canonical m' e') :
    (m : ℝ) * 2 ^ e ≤ m' * 2 ^ e' ↔ e < e' ∨ e = e' ∧ m ≤ m' := by
  rcases lt_trichotomy e e' with lower | rfl | higher
  · exact iff_of_true (h.lt_of_lt h' lower).le (.inl lower)
  · rw [mul_le_mul_iff_left₀ (two_zpow_pos e), Nat.cast_le]
    simp
  · refine iff_of_false (h'.lt_of_lt h higher).not_ge ?_
    omega

/-- A mantissa and an exponent of the format are determined by their number. -/
theorem Canonical.eq_of_eq {m m' : ℕ} {e e' : ℤ} (h : Canonical m e) (h' : Canonical m' e')
    (same : (m : ℝ) * 2 ^ e = m' * 2 ^ e') : m = m' ∧ e = e' := by
  have le := (h.le_iff h').mp same.le
  have ge := (h'.le_iff h).mp same.ge
  omega

/-- Comparing exponents and then mantissas is comparing the numbers. -/
theorem Canonical.isLE_iff (h : Canonical m e) (h' : Canonical m' e') :
    ((compare e e').then (compare m m')).isLE = true ↔ (m : ℝ) * 2 ^ e ≤ m' * 2 ^ e' := by
  rw [h.le_iff h']
  rcases lt_trichotomy e e' with lower | rfl | higher
  · rw [compare_lt_iff_lt.mpr lower]
    exact iff_of_true rfl (.inl lower)
  · rw [compare_eq_iff_eq.mpr rfl]
    change (compare m m').isLE = true ↔ _
    rw [Nat.isLE_compare]
    simp
  · rw [compare_gt_iff_gt.mpr higher]
    refine iff_of_false Bool.false_ne_true ?_
    omega

/-- Turning a comparison around turns each of its two parts around. -/
theorem swap_then_compare (m m' : ℕ) (e e' : ℤ) :
    ((compare e e').then (compare m m')).swap = (compare e' e).then (compare m' m) := by
  rw [Ordering.swap_then, ← Std.OrientedOrd.eq_swap, ← Std.OrientedOrd.eq_swap]

end Canonical

/-! ## Comparisons

Case by case on the signs, and under two minus signs with the order turned around.
-/

/-- A magnitude under a sign. -/
def signed : Sign → ℝ → ℝ
  | .negative, v => -v
  | .positive, v => v

theorem signed_zero (s : Sign) : signed s 0 = 0 := by
  cases s
  · exact neg_zero
  · rfl

/-- **Unpacked doubles compare as their numbers do**, whatever their signs. -/
theorem Is.le_iff_signed {u u' : UnpackedFloat} {s s' : Sign} {v v' : ℝ} (h : Is u s v)
    (h' : Is u' s' v') : u.le u' = true ↔ signed s v ≤ signed s' v' := by
  -- zeros have no mantissa to compare: there the signs decide
  have above {m : ℕ} (pos : 0 < m) (e : ℤ) : 0 < (m : ℝ) * 2 ^ e :=
    mul_pos (Nat.cast_pos.mpr pos) (two_zpow_pos e)
  have below {m : ℕ} (pos : 0 < m) (e : ℤ) : -((m : ℝ) * 2 ^ e) < 0 :=
    neg_lt_zero.mpr (above pos e)
  match u, u' with
  | .zero _, .zero _ =>
      rw [h.2, h'.2, signed_zero, signed_zero]
      exact iff_of_true rfl le_rfl
  | .zero _, .finite t m e pos =>
      obtain ⟨rfl, -, rfl⟩ := h'
      rw [h.2, signed_zero]
      cases t with
      | negative => exact iff_of_false Bool.false_ne_true (below pos e).not_ge
      | positive => exact iff_of_true rfl (above pos e).le
  | .finite t m e pos, .zero _ =>
      obtain ⟨rfl, -, rfl⟩ := h
      rw [h'.2, signed_zero]
      cases t with
      | negative => exact iff_of_true rfl (below pos e).le
      | positive => exact iff_of_false Bool.false_ne_true (above pos e).not_ge
  | .finite t m e pos, .finite t' m' e' pos' =>
      obtain ⟨rfl, canonical, rfl⟩ := h
      obtain ⟨rfl, canonical', rfl⟩ := h'
      cases t <;> cases t'
      · -- under two minus signs the order of the magnitudes is turned around
        change ((compare e e').then (compare m m')).swap.isLE = true ↔ _
        rw [swap_then_compare, canonical'.isLE_iff canonical]
        exact neg_le_neg_iff.symm
      · exact iff_of_true rfl ((below pos e).trans (above pos' e')).le
      · exact iff_of_false Bool.false_ne_true ((below pos' e').trans (above pos e)).not_ge
      · exact canonical.isLE_iff canonical'

theorem Is.le_iff {u u' : UnpackedFloat} {v v' : ℝ} (h : Is u .positive v)
    (h' : Is u' .positive v') : u.le u' = true ↔ v ≤ v' :=
  h.le_iff_signed h'

variable {x y : Float} {v w : ℝ}

/-- **Doubles compare as the numbers do** that they stand for. -/
theorem le_iff_of_reads (hx : Reads x .positive v) (hy : Reads y .positive w) :
    x ≤ y ↔ v ≤ w := by
  rw [← Is.le_iff hx hy]
  exact decide_eq_true_iff

/-! ## Bits

The exponent is in front of the mantissa in the bits, and the leading one that is left out
is what the exponent is counted from.  So the bits of doubles without a sign are ordered as
integers.
-/

/-- The fifty-two bits of the mantissa, as a number. -/
theorem toNat_unpackMantissa (bits : UInt64) :
    (@unpackMantissa .binary64 bits.toBitVec).toNat = bits.toNat % 2 ^ 52 := by
  rw [unpackMantissa_def, BitVec.extractLsb'_toNat, Nat.shiftRight_zero]
  rfl

/-- The bits of a double without a sign are its exponent, counted from the least one, and
behind it the mantissa, whose leading one has been added to the exponent. -/
theorem exists_toNat_eq (bits : UInt64) {v : ℝ}
    (is : Is (UnpackedFloat.unpack .binary64 bits.toBitVec) .positive v) :
    ∃ m e, Canonical m e ∧ v = m * 2 ^ e ∧ (bits.toNat : ℤ) = (e + 1074) * 2 ^ 52 + m := by
  obtain ⟨notLast, unsigned⟩ := bits_of_is bits is
  have exponent := toNat_unpackExponent bits
  have mantissa := toNat_unpackMantissa bits
  have bias : (Format.binary64.exponentBias : ℤ) + (52 : ℕ) = 1075 := rfl
  unfold UnpackedFloat.unpack at is
  dsimp only at is
  rw [if_neg fun last => notLast (by rw [← exponent, last]; rfl)] at is
  split at is
  -- the exponent field is zero: no leading one is added
  next first =>
    rw [first] at exponent
    change 0 = _ at exponent
    split at is
    next zero =>
      obtain ⟨-, rfl⟩ := is
      rw [zero] at mantissa
      change 0 = _ at mantissa
      exact ⟨0, -1074, ⟨by norm_num, le_rfl, .inr rfl⟩, by simp, by omega⟩
    next some =>
      obtain ⟨-, canonical, rfl⟩ := is
      refine ⟨_, _, canonical, rfl, ?_⟩
      rw [mantissa, first, bias]
      change _ = ((0 : ℕ) - 1075 + 1 + 1074 : ℤ) * 2 ^ 52 + _
      omega
  -- with the leading one the mantissa field overlaps the exponent by exactly that bit
  next normal =>
    obtain ⟨-, canonical, rfl⟩ := is
    refine ⟨_, _, canonical, rfl, ?_⟩
    rw [toNat_one_append, mantissa, exponent, bias]
    omega

/-- **Bits without a sign are ordered as the numbers are** that they stand for. -/
theorem toBits_le_iff_of_reads (hx : Reads x .positive v) (hy : Reads y .positive w) :
    x.toBits ≤ y.toBits ↔ v ≤ w := by
  obtain ⟨m, e, canonical, rfl, bits⟩ := exists_toNat_eq x.toBits hx
  obtain ⟨m', e', canonical', rfl, bits'⟩ := exists_toNat_eq y.toBits hy
  obtain ⟨short, low, full⟩ := canonical
  obtain ⟨short', low', full'⟩ := canonical'
  rw [Canonical.le_iff ⟨short, low, full⟩ ⟨short', low', full'⟩, UInt64.le_iff_toNat_le]
  omega

/-- **A number has only one double** without a sign. -/
theorem eq_of_reads (hx : Reads x .positive v) (hy : Reads y .positive v) : x = y := by
  have le := (toBits_le_iff_of_reads hx hy).mpr le_rfl
  have ge := (toBits_le_iff_of_reads hy hx).mpr le_rfl
  rw [← Float.ofBits_toBits x, UInt64.le_antisymm le ge, Float.ofBits_toBits]

/-- The place of a double in the total order of all doubles, infinities and NaNs among them:
its bits, with those behind a minus sign counted downwards. -/
def totalPlace (x : Float) : ℤ :=
  if x.toBits.toNat < 2 ^ 63 then x.toBits.toNat else 2 ^ 63 - 1 - x.toBits.toNat

/-- Without a sign the place of a double is the number of its bits. -/
theorem totalPlace_of_reads (hx : Reads x .positive v) : totalPlace x = x.toBits.toNat := by
  have unsigned := (bits_of_is x.toBits hx).2
  exact if_pos (by omega)

/-! ## Halves

A median of an even number of samples is half of a sum.  Both may be rounded, and the two
samples are still on its two sides.
-/

theorem InFormat.two_mul (h : InFormat v) : InFormat (2 * v) := by
  obtain ⟨m, e, rfl, short, low⟩ := h
  refine ⟨m, e + 1, ?_, short, by omega⟩
  rw [zpow_add_one₀ two_ne_zero]
  ring

/-- Half of a sum lies between the two that were added, although the sum is rounded: it is
between the doubles of the two, and these have a place in the format. -/
theorem reads_half {z : Float} (hx : Reads x .positive v) (hy : Reads y .positive w)
    (two : Reads z .positive 2) (le : v ≤ w) (small : 2 * w < 2 ^ (1024 : ℤ)) :
    ∃ half, Reads ((x + y) / z) .positive half ∧ v ≤ half ∧ half ≤ w := by
  have vnonneg := hx.nonneg
  have wnonneg := hy.nonneg
  -- the doubles of the two are in the format, so the rounded sum is between them
  have low : 2 * v ≤ nearest (v + w) := by
    rw [← nearest_of_format hx.inFormat.two_mul]
    exact nearest_mono (by linarith) (by linarith)
  have high : nearest (v + w) ≤ 2 * w :=
    nearest_le_of_format (by linarith) (by linarith) hy.inFormat.two_mul
  have above : v ≤ nearest (nearest (v + w) / 2) :=
    (nearest_of_format hx.inFormat).symm.trans_le (nearest_mono vnonneg (by linarith))
  have below : nearest (nearest (v + w) / 2) ≤ w :=
    nearest_le_of_format (by linarith) (by linarith) hy.inFormat
  have twice : w ≤ 2 * w := by linarith
  exact ⟨_, (hx.add hy (high.trans_lt small)).div two two_pos
    ((below.trans twice).trans_lt small), above, below⟩

/-! ## All doubles

The infinities are the ends of the extended line, and what is not a number has no place on
it at all.
-/

/-- Whether a sign is a minus sign. -/
def isMinus : Sign → Bool
  | .negative => true
  | .positive => false

/-- An unpacked double as it is taken apart for printing. -/
def readingOf : UnpackedFloat → Decimal.Reading
  | .notANumber => .nan
  | .infinity s => .infinite (isMinus s)
  | .zero s => .finite (isMinus s) 0 (-1074)
  | .finite s m e _ => .finite (isMinus s) m e

theorem isMinus_ofBitVec (b : BitVec 1) : isMinus (Sign.ofBitVec b) = decide (b.toNat = 1) := by
  revert b
  decide

/-- **Taking a double apart for printing** is unpacking it. -/
theorem ofBits_eq_readingOf (bits : UInt64) :
    Decimal.Reading.ofBits bits
      = readingOf (UnpackedFloat.unpack .binary64 bits.toBitVec) := by
  have exponent := toNat_unpackExponent bits
  have mantissa := toNat_unpackMantissa bits
  have bias : (Format.binary64.exponentBias : ℤ) + (52 : ℕ) = 1075 := rfl
  have limit := bits.toNat_lt
  have sign : isMinus (Sign.ofBitVec (@unpackSign .binary64 bits.toBitVec))
      = decide (bits.toNat / 2 ^ 63 = 1) := by
    rw [isMinus_ofBitVec, toNat_unpackSign, Nat.mod_eq_of_lt (by omega)]
  have last : @unpackExponent .binary64 bits.toBitVec = -1#11 ↔
      bits.toNat / 2 ^ 52 % 2 ^ 11 = 2 ^ 11 - 1 := by
    rw [← exponent]
    exact BitVec.toNat_inj.symm
  have first : @unpackExponent .binary64 bits.toBitVec = 0#11 ↔
      bits.toNat / 2 ^ 52 % 2 ^ 11 = 0 := by
    rw [← exponent]
    exact BitVec.toNat_inj.symm
  have empty : @unpackMantissa .binary64 bits.toBitVec = 0#52 ↔ bits.toNat % 2 ^ 52 = 0 := by
    rw [← mantissa]
    exact BitVec.toNat_inj.symm
  -- both ask the fields the same three questions, one in naturals and one in bits
  unfold Decimal.Reading.ofBits UnpackedFloat.unpack
  simp only [Nat.pow_eq]
  by_cases high : bits.toNat / 2 ^ 52 % 2 ^ 11 = 2 ^ 11 - 1
  · rw [if_pos high, if_pos (last.mpr high)]
    by_cases none : bits.toNat % 2 ^ 52 = 0
    · rw [if_pos none, if_pos (empty.mpr none), readingOf, sign]
    · rw [if_neg none, if_neg (mt empty.mp none), readingOf]
  · rw [if_neg high, if_neg (mt last.mp high)]
    by_cases low : bits.toNat / 2 ^ 52 % 2 ^ 11 = 0
    · rw [if_pos low, if_pos (first.mpr low)]
      by_cases none : bits.toNat % 2 ^ 52 = 0
      · rw [dif_pos (empty.mpr none), readingOf, sign, none]
      · rw [dif_neg (mt empty.mp none), readingOf, sign, mantissa, exponent, low, bias]
        rfl
    · rw [if_neg low, if_neg (mt first.mp low), readingOf, sign, toNat_one_append, mantissa,
        exponent, bias]

theorem ofFloat_eq_readingOf (x : Float) :
    Decimal.Reading.ofFloat x = readingOf x.toModel.unpack :=
  ofBits_eq_readingOf x.toBits

/-- The bits of a double leave no choice of mantissa and exponent. -/
theorem canonical_of_ofBits {bits : UInt64} {negative : Bool} {m : ℕ} {q : ℤ}
    (found : Decimal.Reading.ofBits bits = .finite negative m q) : Canonical m q := by
  unfold Decimal.Reading.ofBits at found
  simp only [Nat.pow_eq] at found
  split at found
  next => split at found <;> cases found
  next =>
    split at found
    · cases found
      constructor <;> omega
    · cases found
      constructor <;> omega

/-- A double that is neither infinite nor no number has a sign and a magnitude. -/
theorem exists_reads_iff : (∃ s v, Reads x s v) ↔ x.isFinite = true := by
  have opened := ofFloat_eq_readingOf x
  unfold Reads
  change _ ↔ x.toModel.unpack.isFinite = true
  cases found : x.toModel.unpack with
  | zero s => exact iff_of_true ⟨s, 0, rfl, rfl⟩ rfl
  | finite s m e _ =>
      rw [found] at opened
      exact iff_of_true ⟨s, _, rfl, canonical_of_ofBits opened, rfl⟩ rfl
  | infinity s => exact iff_of_false (fun ⟨_, _, is⟩ => is) Bool.false_ne_true
  | notANumber => exact iff_of_false (fun ⟨_, _, is⟩ => is) Bool.false_ne_true

/-- What an unpacked double stands for, on the line of numbers with its two ends. -/
noncomputable def valueOf? : UnpackedFloat → Option EReal
  | .notANumber => none
  | .infinity .negative => some ⊥
  | .infinity .positive => some ⊤
  | .zero _ => some 0
  | .finite s m e _ => some (signed s (m * (2 : ℕ) ^ e) : EReal)

/-- The exact value of a double, if it has one. -/
noncomputable def value? (x : Float) : Option EReal := valueOf? x.toModel.unpack

/-- Two values, of which the first is not above the second. -/
def Ordered (a b : Option EReal) : Prop := ∃ v ∈ a, ∃ w ∈ b, v ≤ w

theorem ordered_some {v w : EReal} : Ordered (some v) (some w) ↔ v ≤ w := by
  simp [Ordered]

theorem not_ordered_none_left (b : Option EReal) : ¬ Ordered none b := by
  simp [Ordered]

theorem not_ordered_none_right (a : Option EReal) : ¬ Ordered a none := by
  simp [Ordered]

/-- The value of a finite double is its magnitude under its sign. -/
theorem Reads.value?_eq {s : Sign} (h : Reads x s v) : value? x = some (signed s v : EReal) := by
  change Is x.toModel.unpack s v at h
  unfold value?
  cases found : x.toModel.unpack with
  | zero =>
      rw [found] at h
      rw [h.2, signed_zero]
      rfl
  | finite =>
      rw [found] at h
      obtain ⟨rfl, -, rfl⟩ := h
      rfl
  | infinity | notANumber =>
      rw [found] at h
      exact h.elim

/-- **Doubles are ordered as what they stand for**, whatever they are: one that stands for
nothing is below and above none. -/
theorem le_iff_ordered : x ≤ y ↔ Ordered (value? x) (value? y) := by
  have model : x ≤ y ↔ x.toModel.unpack.le y.toModel.unpack = true := decide_eq_true_iff
  rw [model]
  by_cases numbers : x.isFinite = true ∧ y.isFinite = true
  · obtain ⟨⟨s, v, hx⟩, t, w, hy⟩ := numbers.imp exists_reads_iff.mpr exists_reads_iff.mpr
    rw [hx.value?_eq, hy.value?_eq, ordered_some, EReal.coe_le_coe_iff]
    exact Is.le_iff_signed hx hy
  · -- there is an end of the line among the two, or something that is not on it
    change ¬ (x.toModel.unpack.isFinite = true ∧ y.toModel.unpack.isFinite = true) at numbers
    unfold value?
    generalize x.toModel.unpack = u at numbers ⊢
    generalize y.toModel.unpack = u' at numbers ⊢
    unfold UnpackedFloat.le
    cases u with
    -- something that is not a number stands in no order, on either side
    | notANumber => simp [UnpackedFloat.compare, valueOf?, not_ordered_none_left]
    | infinity s =>
        cases s <;> cases u' with
        | notANumber => simp [UnpackedFloat.compare, valueOf?, not_ordered_none_right]
        | infinity s' => cases s' <;> simp [UnpackedFloat.compare, valueOf?, ordered_some, compare]
        | zero | finite => simp [UnpackedFloat.compare, valueOf?, ordered_some]
    | zero | finite =>
        cases u' with
        | notANumber => simp [UnpackedFloat.compare, valueOf?, not_ordered_none_right]
        | infinity s' => cases s' <;> simp [UnpackedFloat.compare, valueOf?, ordered_some]
        | zero | finite => exact absurd ⟨rfl, rfl⟩ numbers

end CrossBench.Doubles
