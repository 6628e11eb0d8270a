import CrossBench.Proofs.Decimal.Rounded
import CrossBench.Proofs.Doubles.Interval

/-!
# The shortest decimal of a double

A double is written into a document with as few figures as it can be told by: of all decimals
that round to the double it is one with the fewest figures, of these the one nearest to the
double, and of two that are equally near the even one.  `Shortest` says so without saying how the
decimal is found, and it leaves no choice (`Shortest.unique`).

`Decimal.shortest` tries one grid of decimals after the other, from the coarsest on, and on each
of them only the two neighbours of the double.  Three facts make this enough:

* the decimals that round to the double are an interval, and `Interval.of` has its ends
  (`Interval.holds_iff`);
* no decimal with so many figures is between the two neighbours on the grid of so many figures
  (`Figures.outside`), so that if one rounds to the double, the neighbour on its side does too;
* the interval is wider than a step of the grid of seventeen figures (`onGrid?_seventeen`).

`shortest_shortest` is the result.
-/

namespace CrossBench

open Doubles

namespace Decimal

/-! ## Decimals and their figures

The specification.  It speaks of real numbers and of the rounding of the format, and not of
grids or intervals.
-/

/-- The number that a decimal is. -/
noncomputable def Scientific.magnitude (d : Scientific) : ℝ :=
  d.digits * ((10 : ℕ) : ℝ) ^ d.exponent

theorem magnitude_mk (c : ℕ) (k : ℤ) : (⟨c, k⟩ : Scientific).magnitude = c * 10 ^ k := by
  simp [Scientific.magnitude]

/-- Decimals that are the same on natural numbers are the same number. -/
theorem Scientific.Same.magnitude_eq {a b : Scientific} (same : a.Same b) :
    a.magnitude = b.magnitude := by
  have ten (e : ℤ) : (10 : ℝ) ^ e = powerAbove 10 e / powerAbove 10 (-e) := by
    exact_mod_cast (powerAbove_div 10 e).symm
  have factor : (0 : ℝ) < powerAbove 10 (-(a.exponent - b.exponent)) :=
    Nat.cast_pos.mpr (powerAbove_pos (by decide) _)
  have scaled : (a.digits : ℝ) * 10 ^ (a.exponent - b.exponent) = b.digits := by
    rw [ten, mul_div_assoc', div_eq_iff factor.ne', neg_sub]
    exact_mod_cast same
  have parted : (10 : ℝ) ^ a.exponent = 10 ^ (a.exponent - b.exponent) * 10 ^ b.exponent := by
    rw [← zpow_add₀ (by norm_num), sub_add_cancel]
  rw [magnitude, magnitude, Nat.cast_ofNat, parted, ← mul_assoc, scaled]

/-- **A number with at most so many figures** in decimal. -/
def Figures (n : ℕ) (w : ℝ) : Prop := ∃ d : Scientific, d.digits < 10 ^ n ∧ d.magnitude = w

theorem Figures.nonneg {n : ℕ} {w : ℝ} (h : Figures n w) : 0 ≤ w := by
  obtain ⟨d, -, rfl⟩ := h
  exact mul_nonneg d.digits.cast_nonneg (zpow_nonneg (Nat.cast_nonneg _) _)

/-- Only zero has no figures. -/
theorem Figures.eq_zero {w : ℝ} (h : Figures 0 w) : w = 0 := by
  obtain ⟨d, none, rfl⟩ := h
  have empty : d.digits = 0 := by omega
  rw [Scientific.magnitude, empty, Nat.cast_zero, zero_mul]

/-- **That a decimal is the shortest for a number of the format.**  It rounds to the number, no
decimal that does has fewer figures, and none of so few is nearer.  If another one is equally
near, the two are a step of some grid apart, and this one is an even number of steps. -/
structure IsShortest (n : ℕ) (v w : ℝ) : Prop where
  figures : Figures n w
  rounds : Doubles.nearest w = v
  fewest : ∀ k w', Figures k w' → Doubles.nearest w' = v → n ≤ k
  closest : ∀ w', Figures n w' → Doubles.nearest w' = v → |v - w| ≤ |v - w'|
  even_of_tie : ∀ w', Figures n w' → Doubles.nearest w' = v → w' ≠ w →
    |v - w'| = |v - w| → ∃ c : ℕ, Even c ∧ w = c * |w - w'|

/-- That a decimal is the shortest, with however many figures. -/
def Shortest (v w : ℝ) : Prop := ∃ n, IsShortest n v w

/-- **There is one shortest decimal only.**  Two would be a step apart, and both an even number
of steps. -/
theorem Shortest.unique {v w w' : ℝ} (h : Shortest v w) (h' : Shortest v w') : w = w' := by
  obtain ⟨n, h⟩ := h
  obtain ⟨n', h'⟩ := h'
  obtain rfl : n = n' := le_antisymm (h.fewest n' w' h'.figures h'.rounds)
    (h'.fewest n w h.figures h.rounds)
  by_contra other
  have tie : |v - w| = |v - w'| := le_antisymm (h.closest w' h'.figures h'.rounds)
    (h'.closest w h.figures h.rounds)
  obtain ⟨c, even, multiple⟩ := h.even_of_tie w' h'.figures h'.rounds (Ne.symm other) tie.symm
  obtain ⟨c', even', multiple'⟩ := h'.even_of_tie w h.figures h.rounds other tie
  rw [abs_sub_comm] at multiple'
  have step : 0 < |w - w'| := abs_pos.mpr (sub_ne_zero.mpr other)
  generalize gap : |w - w'| = δ at multiple multiple' step
  -- the numbers of steps differ by one
  rw [multiple, multiple', ← sub_mul, abs_mul, abs_of_pos step] at gap
  have apart : |(c : ℝ) - c'| = 1 := mul_right_cancel₀ step.ne' (by rw [gap, one_mul])
  have apart : |(c : ℤ) - c'| = 1 := by exact_mod_cast apart
  rw [Nat.even_iff] at even even'
  rcases (abs_eq zero_le_one).mp apart with one | one <;> omega

/-- Zero is written without any figure. -/
theorem shortest_zero : Shortest 0 0 :=
  ⟨0, ⟨⟨0, 0⟩, by decide, by simp [Scientific.magnitude]⟩, nearest_zero,
    fun _ _ _ _ => Nat.zero_le _, by simp, fun _ figures _ other => absurd figures.eq_zero other⟩

/-! ## Comparisons on natural numbers

The search works on natural numbers only.  Each comparison is of two products of powers of
two and ten, and multiplying both sides of an inequality of real numbers by `commonFactor`
gives it.
-/

section Comparisons

variable {a b m : ℕ} {k q : ℤ}

/-- What the two sides of a comparison are multiplied by to make natural numbers of them. -/
def commonFactor (k q : ℤ) : ℕ := powerAbove 10 (-k) * powerAbove 2 (-q)

theorem commonFactor_pos (k q : ℤ) : (0 : ℝ) < commonFactor k q :=
  Nat.cast_pos.mpr (Nat.mul_pos (powerAbove_pos (by decide) _) (powerAbove_pos (by decide) _))

/-- A power of ten as the quotient of the factors on the two sides of a comparison. -/
theorem ten_zpow_eq_div (k : ℤ) : (10 : ℝ) ^ k = powerAbove 10 k / powerAbove 10 (-k) := by
  exact_mod_cast (powerAbove_div 10 k).symm

theorem decimal_mul_commonFactor (a : ℕ) (k q : ℤ) :
    (a : ℝ) * 10 ^ k * commonFactor k q = (a * powerAbove 10 k * powerAbove 2 (-q) : ℕ) := by
  have pos : (0 : ℝ) < powerAbove 10 (-k) := Nat.cast_pos.mpr (powerAbove_pos (by decide) _)
  rw [ten_zpow_eq_div, commonFactor]
  push_cast
  field_simp

/-- The side of a number of the format, as a natural number. -/
theorem binary_mul_commonFactor (b : ℕ) (k q : ℤ) :
    (b : ℝ) * 2 ^ q * commonFactor k q = (b * powerAbove 2 q * powerAbove 10 (-k) : ℕ) := by
  have pos : (0 : ℝ) < powerAbove 2 (-q) := Nat.cast_pos.mpr (powerAbove_pos (by decide) _)
  rw [two_zpow_eq_div, commonFactor]
  push_cast
  field_simp

/-- A decimal is compared with a number of the format as the two are. -/
theorem decimalLe_iff : decimalLe a k b q = true ↔ (a : ℝ) * 10 ^ k ≤ b * 2 ^ q := by
  rw [decimalLe, decide_eq_true_iff, ← mul_le_mul_iff_left₀ (commonFactor_pos k q),
    decimal_mul_commonFactor, binary_mul_commonFactor, Nat.cast_le]

theorem binaryLe_iff : binaryLe b q a k = true ↔ (b : ℝ) * 2 ^ q ≤ a * 10 ^ k := by
  rw [binaryLe, decide_eq_true_iff, ← mul_le_mul_iff_left₀ (commonFactor_pos k q),
    decimal_mul_commonFactor, binary_mul_commonFactor, Nat.cast_le]

/-- The upper neighbour is taken above the middle, and in the middle if the lower one is odd. -/
theorem upperNearer_iff : upperNearer m q a k = true ↔
    ((2 * a + 1 : ℕ) : ℝ) * 10 ^ k < (2 * m : ℕ) * 2 ^ q ∨
      ((2 * a + 1 : ℕ) : ℝ) * 10 ^ k = (2 * m : ℕ) * 2 ^ q ∧ Odd a := by
  have middle : (2 * a + 1) * powerAbove 2 (-q) * powerAbove 10 k
      = (2 * a + 1) * powerAbove 10 k * powerAbove 2 (-q) := Nat.mul_right_comm _ _ _
  rw [← mul_lt_mul_iff_left₀ (commonFactor_pos k q), ← mul_left_inj' (commonFactor_pos k q).ne',
    decimal_mul_commonFactor, binary_mul_commonFactor, Nat.cast_lt, Nat.cast_inj, Nat.odd_iff]
  simp only [upperNearer, middle, Bool.or_eq_true, Bool.and_eq_true, decide_eq_true_iff,
    beq_iff_eq]

/-- The lower neighbour of a number on a grid is the number of steps to it, rounded down. -/
theorem gridFloor_eq (m : ℕ) (q k : ℤ) : gridFloor m q k = ⌊(m : ℝ) * 2 ^ q / 10 ^ k⌋₊ := by
  rw [gridFloor, ← Nat.floor_div_eq_div (K := ℝ), two_zpow_eq_div, ten_zpow_eq_div]
  congr 1
  push_cast
  field_simp

theorem gridFloor_mul_le (m : ℕ) (q k : ℤ) : (gridFloor m q k : ℝ) * 10 ^ k ≤ m * 2 ^ q := by
  rw [gridFloor_eq, ← le_div_iff₀ (by positivity)]
  exact Nat.floor_le (by positivity)

theorem lt_gridFloor_add_one_mul (m : ℕ) (q k : ℤ) :
    (m : ℝ) * 2 ^ q < (gridFloor m q k + 1 : ℕ) * 10 ^ k := by
  rw [gridFloor_eq, ← div_lt_iff₀ (by positivity), Nat.cast_succ]
  exact Nat.lt_floor_add_one _

end Comparisons

/-! ## The interval

Whether an end belongs to the interval depends on the mantissa being even, since a number in
the middle of two doubles is rounded to the even one.  Below a power of two the doubles are
denser, which makes the lower half half as wide.
-/

section Interval

variable {m : ℕ} {q : ℤ}

theorem Interval.low_of (pos : 0 < m) :
    ((of m q).low : ℝ) * 2 ^ (of m q).quarter
      = (m - (if Sparse m q then 1 / 4 else 1 / 2)) * 2 ^ q := by
  have unit : (2 : ℝ) ^ (q - 2) = 2 ^ q / 4 := by rw [zpow_sub₀ two_ne_zero]; norm_num
  have dense : (m = Nat.pow 2 52 ∧ -1074 < q) ↔ Sparse m q := Iff.rfl
  simp only [of, dense, unit]
  split
  · rw [Nat.cast_sub (by omega)]
    push_cast
    ring
  · rw [Nat.cast_sub (by omega)]
    push_cast
    ring

theorem Interval.high_of (m : ℕ) (q : ℤ) :
    ((of m q).high : ℝ) * 2 ^ (of m q).quarter = (m + 1 / 2) * 2 ^ q := by
  have unit : (2 : ℝ) ^ (q - 2) = 2 ^ q / 4 := by rw [zpow_sub₀ two_ne_zero]; norm_num
  simp only [of, unit]
  push_cast
  ring

/-- **The interval holds the decimals that round to the double**, and no others. -/
theorem Interval.holds_iff (h : Canonical m q) (pos : 0 < m) (a : ℕ) (k : ℤ) :
    (of m q).holds a k = true ↔ Doubles.nearest (a * 10 ^ k) = m * 2 ^ q := by
  have unit := two_zpow_pos q
  -- in units of the last place, as the interval is given
  obtain ⟨y, units⟩ : ∃ y : ℝ, (a : ℝ) * 10 ^ k = y * 2 ^ q :=
    ⟨a * 10 ^ k / 2 ^ q, (div_mul_cancel₀ _ unit.ne').symm⟩
  have nonneg : 0 ≤ y := nonneg_of_mul_nonneg_left (units ▸ by positivity) unit
  have closed : (of m q).closed = decide (Even m) := decide_eq_decide.mpr Nat.even_iff.symm
  rw [units, nearest_eq_iff_units h pos nonneg, holds, closed]
  generalize low : (m : ℝ) - (if Sparse m q then 1 / 4 else 1 / 2) = l
  generalize high : (m : ℝ) + 1 / 2 = u
  have above : binaryLe (of m q).low (of m q).quarter a k = true ↔ l ≤ y := by
    rw [binaryLe_iff, low_of pos, low, units, mul_le_mul_iff_left₀ unit]
  -- the same comparison from the other side, for the ends that do not belong to it
  have notAbove : decimalLe a k (of m q).low (of m q).quarter = true ↔ y ≤ l := by
    rw [decimalLe_iff, low_of pos, low, units, mul_le_mul_iff_left₀ unit]
  have below : decimalLe a k (of m q).high (of m q).quarter = true ↔ y ≤ u := by
    rw [decimalLe_iff, high_of, high, units, mul_le_mul_iff_left₀ unit]
  have notBelow : binaryLe (of m q).high (of m q).quarter a k = true ↔ u ≤ y := by
    rw [binaryLe_iff, high_of, high, units, mul_le_mul_iff_left₀ unit]
  by_cases even : Even m
  · simp [even, above, below]
  · simp only [even, decide_false, Bool.false_eq_true, if_false, Bool.and_eq_true,
      Bool.not_eq_true', ← Bool.not_eq_true, notAbove, notBelow, not_le, imp_false, not_or]
    exact ⟨fun ⟨low, high⟩ => ⟨⟨low.le, high.le⟩, low.ne', high.ne⟩,
      fun ⟨⟨low, high⟩, first, last⟩ => ⟨low.lt_of_ne' first, high.lt_of_ne last⟩⟩

end Interval

/-! ## Neighbours on a grid

On a grid fine enough for so many figures, a number of at most so many figures is never
strictly between two neighbours.  So whatever rounds to the double lies beyond one of the
two, and this neighbour is in the interval with it.
-/

section Grid

variable {m n a c : ℕ} {q k : ℤ} {w : ℝ}

theorem ten_zpow_pos (k : ℤ) : (0 : ℝ) < 10 ^ k := zpow_pos (by norm_num) k

/-- A power of ten in steps of a grid. -/
theorem ten_pow_mul_zpow {n : ℕ} {k e : ℤ} (sum : e = n + k) :
    ((10 ^ n : ℕ) : ℝ) * 10 ^ k = 10 ^ e := by
  rw [sum, zpow_add₀ (by norm_num), zpow_natCast, Nat.cast_pow, Nat.cast_ofNat]

/-- **Between two neighbours on a grid there is no number with so few figures** that it would be
on the grid if it were so great. -/
theorem Figures.outside (h : Figures n w) (long : 10 ^ n ≤ a * 10) :
    w ≤ a * 10 ^ k ∨ (a + 1 : ℕ) * 10 ^ k ≤ w := by
  obtain ⟨⟨d, e⟩, short, rfl⟩ := h
  rw [magnitude_mk]
  change d < 10 ^ n at short
  have step := ten_zpow_pos k
  rcases le_or_gt k e with coarse | fine
  · -- it is on the grid
    obtain ⟨j, rfl⟩ := Int.le.dest coarse
    have steps : (d : ℝ) * 10 ^ (k + j : ℤ) = (d * 10 ^ j : ℕ) * 10 ^ k := by
      rw [zpow_add₀ (by norm_num), zpow_natCast]
      push_cast
      ring
    rw [steps, mul_le_mul_iff_left₀ step, mul_le_mul_iff_left₀ step, Nat.cast_le, Nat.cast_le]
    exact Nat.lt_or_ge a (d * 10 ^ j) |>.symm
  · -- it is less than all that have so many figures on the grid
    left
    calc (d : ℝ) * 10 ^ e
      _ ≤ (a * 10 : ℕ) * 10 ^ (k - 1) := by
        gcongr
        · exact (short.le.trans long)
        · norm_num
        · omega
      _ = a * 10 ^ k := by
        rw [zpow_sub_one₀ (by norm_num)]
        push_cast
        ring

/-- What is taken on a grid: of the two neighbours one that rounds to the double, and if both
do, the nearer one, or the even one if they are equally near. -/
structure Picks (v S : ℝ) (c c' : ℕ) : Prop where
  rounds : Doubles.nearest (c * S) = v
  closest : Doubles.nearest (c' * S) = v → |v - c * S| ≤ |v - c' * S|
  even_of_tie : Doubles.nearest (c' * S) = v → |v - c * S| = |v - c' * S| → Even c

namespace Picks

variable {v S : ℝ} {c c' : ℕ} (picks : Picks v S c c') (itself : Doubles.nearest v = v)
  (nonneg : 0 ≤ v) (rounds : Doubles.nearest w = v) (nonneg' : 0 ≤ w)
  (outside : c * S ∈ Set.uIcc w v ∨ c' * S ∈ Set.uIcc w v)

include picks itself nonneg rounds nonneg' outside

/-- It is at least as near as all decimals that are not between the neighbours. -/
theorem le_of_outside : |v - c * S| ≤ |v - w| := by
  rcases outside with own | other
  · exact Set.abs_sub_right_of_mem_uIcc own
  · have near := picks.closest (nearest_eq_of_between rounds itself nonneg' nonneg other)
    exact near.trans (Set.abs_sub_right_of_mem_uIcc other)

/-- Only the other neighbour can be equally near, and then it is the even one. -/
theorem tie_of_outside (differ : w ≠ c * S) (tie : |v - w| = |v - c * S|) :
    w = c' * S ∧ Even c := by
  have same {x : ℝ} (between : x ∈ Set.uIcc w v) (far : |v - w| ≤ |v - x|) : w = x := by
    rcases Set.mem_uIcc.mp between with ⟨above, below⟩ | ⟨above, below⟩
    · rw [abs_of_nonneg (by linarith), abs_of_nonneg (by linarith)] at far
      linarith
    · rw [abs_of_nonpos (by linarith), abs_of_nonpos (by linarith)] at far
      linarith
  rcases outside with own | other
  · exact absurd (same own tie.le) differ
  · have hits := nearest_eq_of_between rounds itself nonneg' nonneg other
    have best := picks.closest hits
    obtain rfl := same other (tie.trans_le best)
    exact ⟨rfl, picks.even_of_tie hits tie.symm⟩

end Picks

/-- The two neighbours, of which `onGrid?` asks first the lower one and then the upper one. -/
theorem lower_hits_iff (h : Canonical m q) (pos : 0 < m) :
    ((Interval.of m q).holds a k && a != 0) = true ↔
      Doubles.nearest (a * 10 ^ k) = m * 2 ^ q := by
  rw [Bool.and_eq_true, Interval.holds_iff h pos, bne_iff_ne, and_iff_left_iff_imp]
  rintro rounds rfl
  -- zero rounds to itself only
  have some : (0 : ℝ) < m * 2 ^ q := mul_pos (Nat.cast_pos.mpr pos) (two_zpow_pos q)
  rw [← rounds, Nat.cast_zero, zero_mul, nearest_zero] at some
  exact some.false

theorem upper_hits_iff (h : Canonical m q) (pos : 0 < m) :
    (Interval.of m q).holds (a + 1) k = true ↔
      Doubles.nearest ((a + 1 : ℕ) * 10 ^ k) = m * 2 ^ q :=
  Interval.holds_iff h pos _ _

/-- Nothing is found on a grid only if neither neighbour rounds to the double. -/
theorem onGrid?_eq_none (h : Canonical m q) (pos : 0 < m) (none : onGrid? m q k = none) :
    Doubles.nearest (gridFloor m q k * 10 ^ k) ≠ m * 2 ^ q ∧
      Doubles.nearest ((gridFloor m q k + 1 : ℕ) * 10 ^ k) ≠ m * 2 ^ q := by
  rw [Ne, Ne, ← lower_hits_iff h pos, ← upper_hits_iff h pos]
  unfold onGrid? at none
  dsimp only at none
  split at none
  · cases none
  · cases none
  · cases none
  next low high => exact ⟨by simp [low], by simp [high]⟩

/-- The nearer neighbour is chosen, and the even one if they are equally near. -/
theorem upperNearer_spec (m : ℕ) (q k : ℤ) :
    let a := gridFloor m q k
    let v : ℝ := m * 2 ^ q
    if upperNearer m q a k = true then
      |v - (a + 1 : ℕ) * 10 ^ k| ≤ |v - a * 10 ^ k| ∧
        (|v - (a + 1 : ℕ) * 10 ^ k| = |v - a * 10 ^ k| → Even (a + 1))
    else
      |v - a * 10 ^ k| ≤ |v - (a + 1 : ℕ) * 10 ^ k| ∧
        (|v - a * 10 ^ k| = |v - (a + 1 : ℕ) * 10 ^ k| → Even a) := by
  intro a v
  have above : (a : ℝ) * 10 ^ k ≤ v := gridFloor_mul_le m q k
  have below : v < (a + 1 : ℕ) * 10 ^ k := lt_gridFloor_add_one_mul m q k
  have nearer := upperNearer_iff (a := a) (m := m) (k := k) (q := q)
  have twice : ((2 * m : ℕ) : ℝ) * 2 ^ q = 2 * v := by rw [Nat.cast_mul, Nat.cast_two, mul_assoc]
  rw [twice] at nearer
  -- the number lies between the two, so both distances lose their absolute value
  rw [abs_of_nonneg (sub_nonneg.mpr above), abs_sub_comm, abs_of_pos (sub_pos.mpr below)]
  -- linear in the number from here on
  generalize v = x at above below nearer ⊢
  push_cast at below nearer ⊢
  split
  next up =>
    rcases nearer.mp up with more | ⟨tie, odd⟩
    · exact ⟨by linarith, fun tie => by linarith⟩
    · exact ⟨by linarith, fun _ => odd.add_one⟩
  next down =>
    have down := mt nearer.mpr down
    rw [not_or, not_lt] at down
    refine ⟨by linarith [down.1], fun tie => ?_⟩
    by_contra odd
    exact down.2 ⟨by linarith, Nat.not_even_iff_odd.mp odd⟩

/-- **What is found on a grid** is the better one of the two neighbours. -/
theorem onGrid?_eq_some (h : Canonical m q) (pos : 0 < m) (found : onGrid? m q k = some c) :
    ∃ c', (c = gridFloor m q k ∧ c' = c + 1 ∨ c = gridFloor m q k + 1 ∧ c = c' + 1) ∧
      Picks (m * 2 ^ q) (10 ^ k) c c' := by
  have lower := lower_hits_iff (a := gridFloor m q k) (k := k) h pos
  have upper := upper_hits_iff (a := gridFloor m q k) (k := k) h pos
  have nearer := upperNearer_spec m q k
  unfold onGrid? at found
  dsimp only at found nearer
  generalize gridFloor m q k = a at found lower upper nearer ⊢
  split at found
  -- both neighbours are read back: the nearer is taken
  next low high =>
    rw [Option.some.injEq] at found
    subst c
    split at nearer
    next up =>
      rw [if_pos up]
      exact ⟨a, .inr ⟨rfl, rfl⟩, upper.mp high, fun _ => nearer.1, fun _ => nearer.2⟩
    next down =>
      rw [if_neg down]
      exact ⟨a + 1, .inl ⟨rfl, rfl⟩, lower.mp low, fun _ => nearer.1, fun _ => nearer.2⟩
  next low high =>
    rw [Option.some.injEq] at found
    subst c
    -- only the lower one is
    have misses := mt upper.mpr (by simp [high])
    exact ⟨a + 1, .inl ⟨rfl, rfl⟩, lower.mp low, (absurd · misses), (absurd · misses)⟩
  next low high =>
    rw [Option.some.injEq] at found
    subst c
    -- only the upper one is
    have misses := mt lower.mpr (by simp [low])
    exact ⟨a, .inr ⟨rfl, rfl⟩, upper.mp high, (absurd · misses), (absurd · misses)⟩
  next => cases found

end Grid

/-! ## The first figure

Where the first figure stands decides which grid has how many figures.  It is found by
writing out a whole number that is far finer than any double.
-/

section Leading

variable {m n : ℕ} {q : ℤ}

/-- **The first figure of a double** is where its magnitude says. -/
theorem leading_bounds (h : Canonical m q) (pos : 0 < m) :
    (10 : ℝ) ^ (leading m q - 1) ≤ m * 2 ^ q ∧ (m : ℝ) * 2 ^ q < 10 ^ leading m q := by
  -- 400 places below the point no double has a whole part of zero
  have some : gridFloor m q (-(400 : ℕ)) ≠ 0 :=
    gridFloor_ne_zero_of_fine pos.ne' h.low (by decide)
  have low := gridFloor_mul_le m q (-(400 : ℕ))
  have high := lt_gridFloor_add_one_mul m q (-(400 : ℕ))
  obtain ⟨places, length⟩ := Nat.exists_eq_add_one_of_ne_zero
    (Nat.ne_of_gt (Nat.length_toDigits_pos (b := 10) (n := gridFloor m q (-(400 : ℕ)))))
  have leads : leading m q = (places + 1 : ℕ) + -(400 : ℕ) :=
    congrArg (fun digits : ℕ => (digits : ℤ) - 400) length
  have most : gridFloor m q (-(400 : ℕ)) + 1 ≤ 10 ^ (places + 1) :=
    (Nat.length_toDigits_le_iff (by decide) places.succ_pos).mp length.le
  -- a whole number of `places + 1` figures lies between two powers of ten
  have least := pow_le_of_length some length
  have step := ten_zpow_pos (-(400 : ℕ))
  constructor
  · calc (10 : ℝ) ^ (leading m q - 1)
      _ = (10 ^ places : ℕ) * 10 ^ (-(400 : ℕ) : ℤ) := (ten_pow_mul_zpow (by omega)).symm
      _ ≤ gridFloor m q (-(400 : ℕ)) * 10 ^ (-(400 : ℕ) : ℤ) := by gcongr
      _ ≤ m * 2 ^ q := low
  · calc (m : ℝ) * 2 ^ q
      _ < (gridFloor m q (-(400 : ℕ)) + 1 : ℕ) * 10 ^ (-(400 : ℕ) : ℤ) := high
      _ ≤ (10 ^ (places + 1) : ℕ) * 10 ^ (-(400 : ℕ) : ℤ) := by gcongr
      _ = 10 ^ leading m q := ten_pow_mul_zpow leads

/-- On the grid of so many figures the lower neighbour of a double has so many figures. -/
theorem gridFloor_bounds (h : Canonical m q) (pos : 0 < m) (some : 0 < n) :
    10 ^ n ≤ gridFloor m q (leading m q - n) * 10 ∧
      gridFloor m q (leading m q - n) < 10 ^ n := by
  obtain ⟨n, rfl⟩ := Nat.exists_eq_add_one_of_ne_zero some.ne'
  obtain ⟨least, less⟩ := leading_bounds h pos
  have low := gridFloor_mul_le m q (leading m q - (n + 1 : ℕ))
  have high := lt_gridFloor_add_one_mul m q (leading m q - (n + 1 : ℕ))
  have step := ten_zpow_pos (leading m q - (n + 1 : ℕ))
  -- the bounds of the double in steps of the grid
  rw [← ten_pow_mul_zpow (n := n) (k := leading m q - (n + 1 : ℕ)) (by omega)] at least
  rw [← ten_pow_mul_zpow (n := n + 1) (k := leading m q - (n + 1 : ℕ)) (by omega)] at less
  generalize gridFloor m q (leading m q - (n + 1 : ℕ)) = a at low high ⊢
  have long := Nat.cast_lt.mp ((mul_lt_mul_iff_left₀ step).mp (least.trans_lt high))
  have short := Nat.cast_lt.mp ((mul_lt_mul_iff_left₀ step).mp (low.trans_lt less))
  exact ⟨by rw [pow_succ]; omega, short⟩

/-- A neighbour on the grid of so many figures is a number of so many figures, and so is the
power of ten that ends them. -/
theorem figures_neighbour (h : Canonical m q) (pos : 0 < m) (some : 0 < n) {c : ℕ}
    (near : c ≤ gridFloor m q (leading m q - n) + 1) :
    Figures n (c * 10 ^ (leading m q - n)) := by
  have short := (gridFloor_bounds h pos some).2
  rcases lt_or_ge c (10 ^ n) with less | least
  · exact ⟨⟨c, _⟩, less, magnitude_mk _ _⟩
  · obtain rfl : c = 10 ^ n := by omega
    refine ⟨⟨1, leading m q⟩, Nat.one_lt_pow some.ne' (by norm_num), ?_⟩
    rw [magnitude_mk, Nat.cast_one, one_mul]
    exact (ten_pow_mul_zpow (by omega)).symm

/-- If some decimal of so many figures rounds to the double, one is found on their grid: the
neighbour on the side of this decimal is between it and the double. -/
theorem onGrid?_ne_none (h : Canonical m q) (pos : 0 < m) (some : 0 < n) {w : ℝ}
    (figures : Figures n w) (rounds : Doubles.nearest w = m * 2 ^ q) :
    onGrid? m q (leading m q - n) ≠ none := by
  intro none
  have above := gridFloor_mul_le m q (leading m q - n)
  have below := lt_gridFloor_add_one_mul m q (leading m q - n)
  have step := ten_zpow_pos (leading m q - n)
  have itself := nearest_of_format h.inFormat
  obtain ⟨misses, misses'⟩ := onGrid?_eq_none h pos none
  rcases figures.outside (k := leading m q - n) (gridFloor_bounds h pos some).1 with low | high
  · exact misses (nearest_eq_of_between rounds itself figures.nonneg (by positivity)
      (Set.mem_uIcc_of_le low above))
  · exact misses' (nearest_eq_of_between rounds itself figures.nonneg (by positivity)
      (Set.mem_uIcc_of_ge below.le high))

/-- **Seventeen figures always do**: the numbers that round to a double reach further than from
one of its neighbours on this grid to the other. -/
theorem onGrid?_seventeen (h : Canonical m q) (pos : 0 < m) :
    onGrid? m q (leading m q - (17 : ℕ)) ≠ none := by
  intro none
  have unit := two_zpow_pos q
  have above := gridFloor_mul_le m q (leading m q - (17 : ℕ))
  have below := lt_gridFloor_add_one_mul m q (leading m q - (17 : ℕ))
  obtain ⟨misses, misses'⟩ := onGrid?_eq_none h pos none
  -- the step is less than the ten to the sixteenth part of the double
  have fine : ((10 ^ 16 : ℕ) : ℝ) * 10 ^ (leading m q - (17 : ℕ)) ≤ m * 2 ^ q :=
    (ten_pow_mul_zpow (by omega)).trans_le (leading_bounds h pos).1
  generalize (10 : ℝ) ^ (leading m q - (17 : ℕ)) = S at *
  generalize gridFloor m q (leading m q - (17 : ℕ)) = a at *
  obtain ⟨y, lower⟩ : ∃ y : ℝ, (a : ℝ) * S = y * 2 ^ q :=
    ⟨a * S / 2 ^ q, (div_mul_cancel₀ _ unit.ne').symm⟩
  obtain ⟨s, step⟩ : ∃ s : ℝ, S = s * 2 ^ q := ⟨S / 2 ^ q, (div_mul_cancel₀ _ unit.ne').symm⟩
  have upper : ((a + 1 : ℕ) : ℝ) * S = (y + s) * 2 ^ q := by
    rw [Nat.cast_succ, add_mul, one_mul, lower, step, add_mul]
  rw [lower, mul_le_mul_iff_left₀ unit] at above
  rw [upper, mul_lt_mul_iff_left₀ unit] at below
  rw [step, ← mul_assoc, mul_le_mul_iff_left₀ unit, Nat.cast_pow, Nat.cast_ofNat] at fine
  rw [lower] at misses
  rw [upper] at misses'
  have low : y ≤ m - (if Sparse m q then 1 / 4 else 1 / 2) := by
    by_contra! inside
    refine misses (nearest_eq_of_near h pos inside.le (by linarith) ?_)
    rintro (first | last)
    · exact absurd first inside.ne'
    · linarith
  have high : m + 1 / 2 ≤ y + s := by
    by_contra! inside
    have gap : (0 : ℝ) < if Sparse m q then 1 / 4 else 1 / 2 := by split <;> norm_num
    refine misses' (nearest_eq_of_near h pos (by linarith) inside.le ?_)
    rintro (first | last)
    · linarith
    · exact absurd last inside.ne
  split at low
  next sparse =>
    rw [sparse.1] at fine
    push_cast at fine
    linarith
  next =>
    have short : (m : ℝ) ≤ 2 ^ 53 := by exact_mod_cast h.short.le
    linarith

end Leading

/-! ## The search

The induction is on the fuel, and the invariant says that on no coarser grid anything was
found.  Seventeen figures are always enough, so the fuel is never used up.
-/

section Search

variable {m n : ℕ} {q : ℤ}

/-- The search stops on the first grid on which something is found. -/
theorem searchFrom_eq (fuel : ℕ)
    (hits : ∃ j, n ≤ j ∧ j ≤ n + fuel ∧ onGrid? m q (leading m q - j) ≠ none) :
    ∃ j c, n ≤ j ∧ searchFrom m q fuel n = ⟨c, leading m q - j⟩ ∧
      onGrid? m q (leading m q - j) = some c ∧
        ∀ i, n ≤ i → i < j → onGrid? m q (leading m q - i) = none := by
  induction fuel generalizing n with
  | zero =>
      obtain ⟨j, first, upTo, hit⟩ := hits
      -- without fuel the hit is the position itself
      obtain rfl : j = n := by omega
      obtain ⟨c, found⟩ := Option.ne_none_iff_exists'.mp hit
      exact ⟨j, c, le_rfl, by unfold searchFrom; simp [found], found, fun i _ _ => by omega⟩
  | succ fuel ih =>
      cases found : onGrid? m q (leading m q - n) with
      | some c =>
          exact ⟨n, c, le_rfl, by unfold searchFrom; simp [found], found, fun i _ _ => by omega⟩
      | none =>
          obtain ⟨j, least, upTo, hit⟩ := hits
          have later : n ≠ j := by
            rintro rfl
            exact hit found
          -- the hit lies further on, where the induction finds the first
          obtain ⟨j, c, least, stops, found', before⟩ :=
            ih (n := n + 1) ⟨j, by omega, by omega, hit⟩
          refine ⟨j, c, by omega, ?_, found', fun i first less => ?_⟩
          · unfold searchFrom
            simpa [found] using stops
          · rcases first.eq_or_lt with rfl | next
            · exact found
            · exact before i next less

/-- What is found on the grid of so many figures is the shortest decimal, if nothing is found on
the grids of fewer. -/
theorem isShortest_of_onGrid? (h : Canonical m q) (pos : 0 < m) (some : 0 < n) {c : ℕ}
    (found : onGrid? m q (leading m q - n) = Option.some c)
    (before : ∀ i, 0 < i → i < n → onGrid? m q (leading m q - i) = none) :
    IsShortest n (m * 2 ^ q) (c * 10 ^ (leading m q - n)) := by
  have above := gridFloor_mul_le m q (leading m q - n)
  have below := (lt_gridFloor_add_one_mul m q (leading m q - n)).le
  have long := (gridFloor_bounds h pos some).1
  have step := ten_zpow_pos (leading m q - n)
  have itself := nearest_of_format h.inFormat
  have nonneg : (0 : ℝ) ≤ m * 2 ^ q := by positivity
  obtain ⟨c', sides, picks⟩ := onGrid?_eq_some h pos found
  -- a number of so few figures lies beyond one of the two, so the pick is no further away
  have outside {w : ℝ} (figures : Figures n w) :
      (c : ℝ) * 10 ^ (leading m q - n) ∈ Set.uIcc w (m * 2 ^ q) ∨
        (c' : ℝ) * 10 ^ (leading m q - n) ∈ Set.uIcc w (m * 2 ^ q) := by
    rcases figures.outside (k := leading m q - n) long with low | high
    · have lower := Set.mem_uIcc_of_le low above
      rcases sides with ⟨rfl, -⟩ | ⟨taken, next⟩
      · exact .inl lower
      · obtain rfl : c' = gridFloor m q (leading m q - n) := by omega
        exact .inr lower
    · have upper := Set.mem_uIcc_of_ge below high
      rcases sides with ⟨rfl, rfl⟩ | ⟨rfl, -⟩
      · exact .inr upper
      · exact .inl upper
  refine ⟨figures_neighbour h pos some (by omega), picks.rounds, fun k w figures rounds => ?_,
    fun w figures rounds => ?_, fun w figures rounds differ tie => ?_⟩
  · by_contra! fewer
    have few : 0 < k := by
      by_contra! none
      -- no figures at all: the number would be zero
      obtain rfl : k = 0 := by omega
      have double : (0 : ℝ) < m * 2 ^ q := mul_pos (Nat.cast_pos.mpr pos) (two_zpow_pos q)
      rw [← rounds, figures.eq_zero, nearest_zero] at double
      exact double.false
    -- fewer figures would have been found before
    exact onGrid?_ne_none h pos few figures rounds (before k few fewer)
  · exact picks.le_of_outside itself nonneg rounds figures.nonneg (outside figures)
  · obtain ⟨rfl, even⟩ :=
      picks.tie_of_outside itself nonneg rounds figures.nonneg (outside figures) differ tie
    have apart : |(c : ℝ) - c'| = 1 := by
      rcases sides with ⟨-, rfl⟩ | ⟨-, rfl⟩ <;> simp
    refine ⟨c, even, ?_⟩
    rw [← sub_mul, abs_mul, apart, one_mul, abs_of_pos step]

/-- **The decimal that is written is the shortest** of those that round to the double. -/
theorem shortest_shortest (h : Canonical m q) (pos : 0 < m) :
    Shortest (m * 2 ^ q) (shortest m q).magnitude := by
  obtain ⟨n, c, some, stops, found, before⟩ :=
    searchFrom_eq 16 ⟨17, by decide, le_rfl, onGrid?_seventeen h pos⟩
  refine ⟨n, ?_⟩
  rw [shortest, stops, magnitude_mk]
  exact isShortest_of_onGrid? h pos some found before

end Search

end Decimal

end CrossBench
