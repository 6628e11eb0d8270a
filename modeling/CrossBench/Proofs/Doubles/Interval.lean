import CrossBench.Proofs.Doubles.Error
import CrossBench.Proofs.Doubles.Order

/-!
# The numbers that round to a double

The numbers that round to a double are an interval about it.  It reaches half a unit of the last
place up and down; below a power of two, where the numbers of the format are twice as dense, it
reaches only a quarter of a unit down.  Its ends belong to it if the mantissa is even.

* `nearest_mul_eq` — between a mantissa and the next one, rounding is to a number of units.
* `nearest_eq_iff_units` — the interval, in units of the last place.
-/

namespace CrossBench.Doubles

/-! ## Rounding between two mantissas

Up to the next mantissa the last place is the same, so that rounding is rounding to a
natural number there, and its ties are known.
-/

/-- Rounding to a natural number is to within one half, and in the middle to the even one. -/
theorem evenRound_eq_iff {x : ℝ} (nonneg : 0 ≤ x) {n : ℕ} :
    evenRound x = n ↔ |(n : ℝ) - x| ≤ 1 / 2 ∧ (|(n : ℝ) - x| = 1 / 2 → Even n) := by
  constructor
  · rintro rfl
    exact ⟨abs_evenRound_sub_le nonneg, even_evenRound nonneg⟩
  · rintro ⟨near, even⟩
    have near' := abs_evenRound_sub_le nonneg
    by_contra other
    have other : (evenRound x : ℤ) - n ≠ 0 := by omega
    have apart : (1 : ℝ) ≤ |(evenRound x : ℝ) - n| := by exact_mod_cast Int.one_le_abs other
    have detour := abs_sub_le (evenRound x : ℝ) x n
    rw [abs_sub_comm x] at detour
    -- both would be half a unit away, and both even
    have even := even (by linarith)
    have even' := even_evenRound nonneg (by linarith)
    have tight : |(evenRound x : ℝ) - n| ≤ 1 := by linarith
    have tight : |(evenRound x : ℤ) - n| ≤ 1 := by exact_mod_cast tight
    rw [Nat.even_iff] at even even'
    obtain ⟨low, high⟩ := abs_le.mp tight
    omega

/-- The same by the two ends of what is rounded to a natural number. -/
theorem evenRound_eq_iff_between {x : ℝ} (nonneg : 0 ≤ x) {n : ℕ} :
    evenRound x = n ↔ ((n : ℝ) - 1 / 2 ≤ x ∧ x ≤ n + 1 / 2) ∧
      (x = n - 1 / 2 ∨ x = n + 1 / 2 → Even n) := by
  have near : |(n : ℝ) - x| ≤ 1 / 2 ↔ (n : ℝ) - 1 / 2 ≤ x ∧ x ≤ n + 1 / 2 := by
    rw [abs_le]
    constructor <;> rintro ⟨low, high⟩ <;> constructor <;> linarith
  have tie : |(n : ℝ) - x| = 1 / 2 ↔ x = n - 1 / 2 ∨ x = n + 1 / 2 := by
    rw [abs_eq one_half_pos.le]
    refine or_congr ?_ ?_ <;> constructor <;> intro same <;> linarith
  rw [evenRound_eq_iff nonneg, near, tie]

/-- From a mantissa to the next one the last place stays the same. -/
theorem lastPlace_add_mul {m : ℕ} {e : ℤ} (h : Canonical m e) {r : ℝ} (nonneg : 0 ≤ r)
    (below : r < 1) (pos : 0 < (m : ℝ) + r) : lastPlace ((m + r) * 2 ^ e) = e := by
  rcases Nat.eq_zero_or_pos m with rfl | some
  · -- below the least mantissa the last place is that of the least number
    have least : e = -1074 := h.full.resolve_left (by norm_num)
    have log := log_mul_zpow_lt pos (by simpa using below) e
    rw [lastPlace]
    omega
  · -- the rest is less than one unit, so the leading one stays where it is
    have digits : m.log2 < 53 := (Nat.log2_lt some.ne').mpr h.short
    rw [lastPlace, log_add_mul_zpow some nonneg below]
    rcases h.full with full | least
    · have digits' : 52 ≤ m.log2 := (Nat.le_log2 some.ne').mpr full
      have low := h.low
      omega
    · omega

/-- Between a mantissa and the next one, rounding is rounding to a natural number of units. -/
theorem nearest_mul_eq {m : ℕ} {e : ℤ} (h : Canonical m e) {y : ℝ} (pos : 0 < y)
    (above : (m : ℝ) ≤ y) (below : y < m + 1) :
    nearest (y * 2 ^ e) = evenRound y * 2 ^ e := by
  have place := lastPlace_add_mul h (r := y - m) (by linarith) (by linarith) (by linarith)
  rw [add_sub_cancel] at place
  rw [nearest, place, mul_div_cancel_right₀ _ (two_zpow_pos e).ne']

/-- What a number is rounded to, taken apart: a mantissa of its last place, possibly one that is
one too long. -/
theorem exists_nearest_eq {x : ℝ} (pos : 0 < x) :
    let n := evenRound (x / 2 ^ lastPlace x)
    nearest x = n * 2 ^ lastPlace x ∧ (Canonical n (lastPlace x) ∨ n = 2 ^ 53) ∧
      (-1074 < lastPlace x → 2 ^ (lastPlace x + 52) ≤ x) ∧ x < 2 ^ (lastPlace x + 53) := by
  intro n
  have unit := two_zpow_pos (lastPlace x)
  have place : lastPlace x = max (Int.log 2 x - 52) (-1074) := rfl
  have above : x < 2 ^ (lastPlace x + 53) :=
    (lt_zpow_log x).trans_le (zpow_le_zpow_right₀ one_le_two (by omega))
  have full (normal : -1074 < lastPlace x) : 2 ^ (lastPlace x + 52) ≤ x :=
    (zpow_le_zpow_right₀ one_le_two (by omega)).trans (zpow_log_le pos)
  refine ⟨rfl, ?_, full, above⟩
  have most : n ≤ 2 ^ 53 := by
    refine evenRound_le_natCast ((div_le_iff₀ unit).mpr ?_)
    rw [two_pow_mul_zpow (add_comm _ _)]
    exact above.le
  -- rounding can carry into one place more
  rcases most.lt_or_eq with short | long
  · refine .inl ⟨short, by omega, ?_⟩
    by_cases normal : -1074 < lastPlace x
    · refine .inl (le_evenRound_natCast ((le_div_iff₀ unit).mpr ?_))
      rw [two_pow_mul_zpow (add_comm _ _)]
      exact full normal
    · exact .inr (by omega)
  · exact .inr long

/-! ## The interval of a double

In units of the last place the double is a natural number, and its interval goes from half a
unit below to half a unit above.  The one exception is the lower side of a power of two.
-/

/-- Between a number that rounds to a double and the double, all do. -/
theorem nearest_eq_of_between {v w x : ℝ} (rounds : nearest w = v) (itself : nearest v = v)
    (nonneg : 0 ≤ w) (nonneg' : 0 ≤ v) (between : x ∈ Set.uIcc w v) : nearest x = v := by
  rcases Set.mem_uIcc.mp between with ⟨above, below⟩ | ⟨above, below⟩
  · exact le_antisymm ((nearest_mono (nonneg.trans above) below).trans_eq itself)
      (rounds.ge.trans (nearest_mono nonneg above))
  · exact le_antisymm ((nearest_mono (nonneg'.trans above) below).trans_eq rounds)
      (itself.ge.trans (nearest_mono nonneg' above))

/-- A mantissa that begins a new power of two: below it the numbers are twice as dense. -/
def Sparse (m : ℕ) (q : ℤ) : Prop := m = 2 ^ 52 ∧ -1074 < q

instance (m : ℕ) (q : ℤ) : Decidable (Sparse m q) := inferInstanceAs (Decidable (_ ∧ _))

theorem Sparse.even {m : ℕ} {q : ℤ} (sparse : Sparse m q) : Even m :=
  ⟨2 ^ 51, by rw [sparse.1]; norm_num⟩

/-- What is rounded in units of the last place of the double itself is near it.  Where the numbers
below are denser, it is not below. -/
theorem near_of_evenRound_eq {m : ℕ} {q : ℤ} {y : ℝ} (nonneg : 0 ≤ y) (same : evenRound y = m)
    (least : Sparse m q → (m : ℝ) ≤ y) :
    ((m : ℝ) - (if Sparse m q then 1 / 4 else 1 / 2) ≤ y ∧ y ≤ m + 1 / 2) ∧
      (y = m - (if Sparse m q then 1 / 4 else 1 / 2) ∨ y = m + 1 / 2 → Even m) := by
  have near := (evenRound_eq_iff_between nonneg).mp same
  by_cases sparse : Sparse m q
  · have least := least sparse
    rw [if_pos sparse]
    exact ⟨⟨by linarith, near.1.2⟩, fun _ => sparse.even⟩
  · rwa [if_neg sparse]

/-- What is below a power of two and rounded to it is near it, by half as large a unit. -/
theorem near_of_carried {p : ℤ} (low : -1074 ≤ p) {y : ℝ} (nonneg : 0 ≤ y)
    (carried : evenRound (2 * y) = 2 ^ 53) :
    (((2 ^ 52 : ℕ) : ℝ) - (if Sparse (2 ^ 52) (p + 1) then 1 / 4 else 1 / 2) ≤ y
        ∧ y ≤ (2 ^ 52 : ℕ) + 1 / 2) ∧
      (y = (2 ^ 52 : ℕ) - (if Sparse (2 ^ 52) (p + 1) then 1 / 4 else 1 / 2)
        ∨ y = (2 ^ 52 : ℕ) + 1 / 2 → Even (2 ^ 52)) := by
  have sparse : Sparse (2 ^ 52) (p + 1) := ⟨rfl, by omega⟩
  obtain ⟨⟨below, above⟩, -⟩ := (evenRound_eq_iff_between (by linarith)).mp carried
  rw [if_pos sparse]
  push_cast at below above ⊢
  exact ⟨⟨by linarith, by linarith⟩, fun _ => sparse.even⟩

/-- What rounds to a double is near it, in units of its last place. -/
theorem near_of_nearest_eq {m : ℕ} {q : ℤ} (h : Canonical m q) (pos : 0 < m) {y : ℝ}
    (nonneg : 0 ≤ y) (rounds : nearest (y * 2 ^ q) = m * 2 ^ q) :
    ((m : ℝ) - (if Sparse m q then 1 / 4 else 1 / 2) ≤ y ∧ y ≤ m + 1 / 2) ∧
      (y = m - (if Sparse m q then 1 / 4 else 1 / 2) ∨ y = m + 1 / 2 → Even m) := by
  have unit := two_zpow_pos q
  have some : 0 < y := by
    refine nonneg.lt_of_ne fun zero => ?_
    have positive : (0 : ℝ) < m * 2 ^ q := mul_pos (Nat.cast_pos.mpr pos) unit
    rw [← rounds, ← zero, zero_mul, nearest_zero] at positive
    exact positive.false
  obtain ⟨value, form, full, -⟩ := exists_nearest_eq (mul_pos some unit)
  rw [rounds] at value
  -- a number has one mantissa and one exponent, so the unit is that of the double or half of it
  rcases form with canonical | long
  · obtain ⟨same, place⟩ := h.eq_of_eq canonical value
    rw [← place] at same full
    rw [mul_div_cancel_right₀ _ unit.ne'] at same
    refine near_of_evenRound_eq nonneg same.symm fun sparse => ?_
    refine le_of_mul_le_mul_right ?_ unit
    rw [sparse.1, two_pow_mul_zpow (add_comm _ _)]
    exact full sparse.2
  · have low : -1074 ≤ lastPlace (y * 2 ^ q) := le_max_right _ _
    generalize lastPlace (y * 2 ^ q) = p at value long low
    have twice : (2 : ℝ) ^ (p + 1) = 2 * 2 ^ p := by
      rw [zpow_add₀ two_ne_zero]
      ring
    have next : Canonical (2 ^ 52) (p + 1) := ⟨by norm_num, by omega, .inl le_rfl⟩
    obtain ⟨rfl, rfl⟩ := h.eq_of_eq next (by rw [value, long, twice]; push_cast; ring)
    have units : y * 2 ^ (p + 1) / 2 ^ p = 2 * y := by
      rw [twice, ← mul_assoc, mul_div_cancel_right₀ _ (two_zpow_pos p).ne', mul_comm]
    rw [units] at long
    exact near_of_carried low nonneg long

/-- What is at most a quarter of a unit below a power of two rounds to it: there the unit is half
as large. -/
theorem nearest_eq_of_lt_sparse {q : ℤ} (normal : -1074 < q) {y : ℝ}
    (low : ((2 ^ 52 : ℕ) : ℝ) - 1 / 4 ≤ y) (less : y < (2 ^ 52 : ℕ)) :
    nearest (y * 2 ^ q) = (2 ^ 52 : ℕ) * 2 ^ q := by
  have before : Canonical (2 ^ 53 - 1) (q - 1) := ⟨by norm_num, by omega, .inl (by norm_num)⟩
  push_cast at low less
  have rounded := nearest_mul_eq before (y := 2 * y) (by linarith) (by push_cast; linarith)
    (by push_cast; linarith)
  have carried : evenRound (2 * y) = 2 ^ 53 := by
    refine (evenRound_eq_iff_between (by linarith)).mpr ⟨?_, fun _ => ⟨2 ^ 52, by norm_num⟩⟩
    push_cast
    constructor <;> linarith
  have twice : (2 : ℝ) ^ q = 2 * 2 ^ (q - 1) := by
    rw [zpow_sub₀ two_ne_zero, zpow_one]
    ring
  rw [twice, ← mul_assoc, mul_comm y, rounded, carried]
  push_cast
  ring

/-- What is so near a double rounds to it. -/
theorem nearest_eq_of_near {m : ℕ} {q : ℤ} (h : Canonical m q) (pos : 0 < m) {y : ℝ}
    (low : (m : ℝ) - (if Sparse m q then 1 / 4 else 1 / 2) ≤ y) (high : y ≤ m + 1 / 2)
    (even : y = m - (if Sparse m q then 1 / 4 else 1 / 2) ∨ y = m + 1 / 2 → Even m) :
    nearest (y * 2 ^ q) = m * 2 ^ q := by
  have mantissa : (1 : ℝ) ≤ m := Nat.one_le_cast.mpr pos
  by_cases sparse : Sparse m q ∧ y < m
  · obtain ⟨⟨rfl, normal⟩, less⟩ := sparse
    rw [if_pos ⟨rfl, normal⟩] at low
    exact nearest_eq_of_lt_sparse normal low less
  have within : (m : ℝ) - 1 / 2 ≤ y ∧ (y = m - 1 / 2 → Even m) := by
    by_cases less : y < m
    · rw [if_neg fun denser => sparse ⟨denser, less⟩] at low even
      exact ⟨low, fun tie => even (.inl tie)⟩
    · exact ⟨by linarith, fun tie => absurd tie (by linarith)⟩
  have whole : evenRound y = m := (evenRound_eq_iff_between (by linarith)).mpr
    ⟨⟨within.1, high⟩, fun tie => tie.elim within.2 fun tie => even (.inr tie)⟩
  rcases le_or_gt (m : ℝ) y with le | less
  · rw [nearest_mul_eq h (by linarith) le (by linarith), whole]
  · -- the double before it has the same unit
    have before : Canonical (m - 1) q := by
      have ⟨short, least, full⟩ := h
      have dense : ¬ (m = 2 ^ 52 ∧ -1074 < q) := fun denser => sparse ⟨denser, less⟩
      exact ⟨by omega, least, by omega⟩
    have cast : ((m - 1 : ℕ) : ℝ) = m - 1 := Nat.cast_pred pos
    rw [nearest_mul_eq before (by linarith) (by rw [cast]; linarith) (by rw [cast]; linarith),
      whole]

/-- **The numbers that round to a double**, in units of its last place: they are at most half a
unit away, or a quarter where the numbers are denser, and if they are at an end the mantissa is
even. -/
theorem nearest_eq_iff_units {m : ℕ} {q : ℤ} (h : Canonical m q) (pos : 0 < m) {y : ℝ}
    (nonneg : 0 ≤ y) :
    nearest (y * 2 ^ q) = m * 2 ^ q ↔
      ((m : ℝ) - (if Sparse m q then 1 / 4 else 1 / 2) ≤ y ∧ y ≤ m + 1 / 2) ∧
        (y = m - (if Sparse m q then 1 / 4 else 1 / 2) ∨ y = m + 1 / 2 → Even m) :=
  ⟨near_of_nearest_eq h pos nonneg,
    fun ⟨⟨low, high⟩, even⟩ => nearest_eq_of_near h pos low high even⟩

end CrossBench.Doubles
