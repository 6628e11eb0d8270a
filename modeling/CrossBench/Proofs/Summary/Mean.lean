import CrossBench.Proofs.Doubles.Error
import CrossBench.Proofs.Summary.Sorting

/-!
# The mean, the deviation and the range

The mean is a sum from left to right, divided by the count.  Each addition is rounded, and no
later operation knows of it, so the mean of three times the same duration can be greater than
that duration: it is for a tenth of a millisecond (`not_every_mean_is_in_range`).  What is left
of the range is this.

* The computed mean respects the order of the values.  So the mean of all is between those of
  as many copies of the least and of the greatest value, and only what happens to copies of
  one value can lead out of the range.
* Every addition, the count and the quotient cost at most one factor (`roundedMean_le`,
  `le_roundedMean`), and the deviation is bounded by the distances of the values from the mean
  (`roundedDeviation_sq_le`).
* Where copies of the least and of the greatest value are averaged exactly, the mean is in the
  range.  So it is for two durations (`exactMean_of_two`), and for multiples of the sixty-fourth
  part of a millisecond (`exactMean_of_dvd`).

`Summary.mean_and_stdev_near_range` says this of every summary.
-/

namespace CrossBench.Summary

open Doubles

/-! ## Counts and durations

A duration in milliseconds is not below the `2 ^ 20`-th part of one, and a count of samples
is below `2 ^ 64`: this is all that is used of them.
-/

theorem clear_natCast (n : ℕ) : Clear 0 n := by
  rcases n.eq_zero_or_pos with rfl | pos
  · rw [Nat.cast_zero]
    exact .none
  · exact .above (by rw [zpow_zero]; exact Nat.one_le_cast.mpr pos)

/-- A nanosecond is more than the `2 ^ 20`-th part of a millisecond. -/
theorem clear_exactMillis (ns : UInt64) : Clear (-20) (exactMillis ns) := by
  have whole := (clear_natCast ns.toNat).rounded (by norm_num)
  exact (whole.div (j := 20) (by norm_num) (by norm_num)).rounded (by norm_num)

section Count

variable {n : ℕ}

theorem reads_nearest_count (few : n < 2 ^ 64) : Reads (ofCount n) .positive (nearest n) := by
  have reads := reads_nearest_toNat (UInt64.ofNat n)
  rwa [UInt64.toNat_ofNat_of_lt' few] at reads

theorem one_le_nearest_count (pos : 0 < n) : 1 ≤ nearest n := by
  rw [← Nat.cast_one, ← nearest_of_format (inFormat_natCast (by norm_num : 1 ≤ 2 ^ 53))]
  exact nearest_mono (Nat.cast_nonneg 1) (Nat.cast_le.mpr pos)

theorem nearest_count_le (few : n < 2 ^ 64) : nearest n ≤ 2 ^ (64 : ℤ) :=
  nearest_le_of_format n.cast_nonneg (by exact_mod_cast few.le) (inFormat_two_zpow (by norm_num))

theorem clear_div_count {k : ℤ} {x : ℝ} (clear : Clear k x) (pos : 0 < n) (few : n < 2 ^ 64) :
    Clear (k - 64) (x / nearest n) :=
  clear.div (zero_lt_one.trans_le (one_le_nearest_count pos)) (nearest_count_le few)

/-- A division by a count keeps a bound. -/
theorem reads_div_count {x : Float} {v b : ℝ} (reads : Reads x .positive v) (le : v ≤ b)
    (bound : Bound b) (pos : 0 < n) (few : n < 2 ^ 64) :
    Reads (x / ofCount n) .positive (nearest (v / nearest n)) ∧ nearest (v / nearest n) ≤ b := by
  have count := one_le_nearest_count pos
  have quotient := nearest_le_of_format (div_nonneg reads.nonneg (zero_le_one.trans count))
    ((div_le_self reads.nonneg count).trans le) bound.inFormat
  exact ⟨reads.div (reads_nearest_count few) (zero_lt_one.trans_le count)
    (quotient.trans_lt bound.small), quotient⟩

end Count

/-! ## The mean

The sum costs one factor for each sample, the count one and the quotient one.  That the
order of values is respected needs no bound at all.
-/

/-- The mean as it is computed: a rounded sum, the rounded count, a rounded quotient. -/
noncomputable def roundedMean (vs : List ℝ) : ℝ :=
  nearest (roundedSum 0 vs / nearest vs.length)

section Mean

variable {α : Type*} {l : List α} {h : α → Float} {f g : α → ℝ} {vs : List ℝ} {low high : ℝ}

/-- **The mean that is computed is the mean with all its roundings**, and far from overflowing. -/
theorem reads_meanOf {e : ℕ} (moderate : e + 53 ≤ 900)
    (reads : ∀ a ∈ l, Reads (h a) .positive (f a)) (small : ∀ a ∈ l, f a ≤ 2 ^ e) (any : l ≠ [])
    (few : l.length < 2 ^ 64) :
    Reads (meanOf (l.map h)) .positive (roundedMean (l.map f)) ∧
      roundedMean (l.map f) ≤ 2 ^ (e + 53) := by
  obtain ⟨sum, below⟩ := reads_foldl moderate reads small reads_zero (by positivity)
  have mean := reads_div_count sum below (.two_pow moderate) (List.length_pos_iff.mpr any) few
  rwa [meanOf, roundedMean, List.length_map, List.length_map]

/-- **The computed mean respects the order of the values.** -/
theorem roundedMean_mono (nonneg : ∀ a ∈ l, 0 ≤ f a) (le : ∀ a ∈ l, f a ≤ g a) :
    roundedMean (l.map f) ≤ roundedMean (l.map g) := by
  have sums : roundedSum 0 (l.map f) ≤ roundedSum 0 (l.map g) :=
    roundedSum_mono nonneg le le_rfl le_rfl
  have start : 0 ≤ roundedSum 0 (l.map f) :=
    roundedSum_nonneg le_rfl (List.forall_mem_map.mpr nonneg)
  rw [roundedMean, roundedMean, List.length_map, List.length_map]
  exact nearest_mono (div_nonneg start (nearest_nonneg _))
    (div_le_div_of_nonneg_right sums (nearest_nonneg _))

theorem clear_roundedMean (clear : ∀ v ∈ vs, Clear (-20) v) (any : vs ≠ [])
    (few : vs.length < 2 ^ 64) : Clear (-84) (roundedMean vs) :=
  (clear_div_count (clear_roundedSum (by norm_num) .none clear) (List.length_pos_iff.mpr any)
    few).rounded (by norm_num)

/-- The sum costs a factor for each value, the count one and the quotient one. -/
theorem roundedMean_le (clear : ∀ v ∈ vs, Clear (-20) v) (le : ∀ v ∈ vs, v ≤ high)
    (any : vs ≠ []) (few : vs.length < 2 ^ 64) :
    roundedMean vs ≤ high * (1 + roundoff) ^ (vs.length + 2) := by
  have some : 0 < vs.length := List.length_pos_iff.mpr any
  have factor := roundoff_pos.le
  have sum : roundedSum 0 vs ≤ vs.length * high * (1 + roundoff) ^ vs.length :=
    roundedSum_le_length_mul (fun v mem => (clear v mem).mono (by norm_num)) le
  have count : (vs.length : ℝ) ≤ nearest vs.length * (1 + roundoff) :=
    le_nearest_mul ((clear_natCast _).mono (by norm_num))
  have nonneg : 0 ≤ high := by
    obtain ⟨v, mem⟩ := List.exists_mem_of_ne_nil vs any
    exact (clear v mem).nonneg.trans (le v mem)
  -- one rounding for each summand and one for the count; the division adds the last
  have quotient : roundedSum 0 vs / nearest vs.length
      ≤ high * (1 + roundoff) ^ (vs.length + 1) := by
    rw [div_le_iff₀ (zero_lt_one.trans_le (one_le_nearest_count some))]
    calc roundedSum 0 vs ≤ vs.length * high * (1 + roundoff) ^ vs.length := sum
      _ ≤ nearest vs.length * (1 + roundoff) * high * (1 + roundoff) ^ vs.length :=
          mul_le_mul_of_nonneg_right (mul_le_mul_of_nonneg_right count nonneg) (by positivity)
      _ = high * (1 + roundoff) ^ (vs.length + 1) * nearest vs.length := by ring
  have normal : Clear (-1022) (roundedSum 0 vs / nearest vs.length) :=
    (clear_div_count (clear_roundedSum (by norm_num) .none clear) some few).mono (by norm_num)
  calc roundedMean vs ≤ roundedSum 0 vs / nearest vs.length * (1 + roundoff) :=
        nearest_le_mul normal
    _ ≤ high * (1 + roundoff) ^ (vs.length + 1) * (1 + roundoff) :=
        mul_le_mul_of_nonneg_right quotient (by linarith)
    _ = high * (1 + roundoff) ^ (vs.length + 2) := by ring

/-- The mean is short of the least number by the roundings only. -/
theorem le_roundedMean (clear : ∀ v ∈ vs, Clear (-20) v) (nonneg : 0 ≤ low)
    (le : ∀ v ∈ vs, low ≤ v) (any : vs ≠ []) (few : vs.length < 2 ^ 64) :
    low * (1 - roundoff) ^ (vs.length + 2) ≤ roundedMean vs := by
  have some : 0 < vs.length := List.length_pos_iff.mpr any
  have kept : 0 ≤ 1 - roundoff := sub_nonneg.mpr roundoff_lt_one.le
  have sum : vs.length * low * (1 - roundoff) ^ vs.length ≤ roundedSum 0 vs :=
    length_mul_le_roundedSum (fun v mem => (clear v mem).mono (by norm_num)) le
  have count : nearest vs.length * (1 - roundoff) ≤ vs.length :=
    nearest_mul_le ((clear_natCast _).mono (by norm_num))
  -- as above, with each rounding taken downwards
  have quotient : low * (1 - roundoff) ^ (vs.length + 1)
      ≤ roundedSum 0 vs / nearest vs.length := by
    rw [le_div_iff₀ (zero_lt_one.trans_le (one_le_nearest_count some))]
    calc low * (1 - roundoff) ^ (vs.length + 1) * nearest vs.length
        = nearest vs.length * (1 - roundoff) * low * (1 - roundoff) ^ vs.length := by ring
      _ ≤ vs.length * low * (1 - roundoff) ^ vs.length :=
          mul_le_mul_of_nonneg_right (mul_le_mul_of_nonneg_right count nonneg) (by positivity)
      _ ≤ roundedSum 0 vs := sum
  have normal : Clear (-1022) (roundedSum 0 vs / nearest vs.length) :=
    (clear_div_count (clear_roundedSum (by norm_num) .none clear) some few).mono (by norm_num)
  calc low * (1 - roundoff) ^ (vs.length + 2)
      = low * (1 - roundoff) ^ (vs.length + 1) * (1 - roundoff) := by ring
    _ ≤ roundedSum 0 vs / nearest vs.length * (1 - roundoff) :=
        mul_le_mul_of_nonneg_right quotient kept
    _ ≤ roundedMean vs := mul_le_nearest normal

/-- Nothing is rounded in the mean of so many copies of the value: the count has a place in
the format, and so have the multiples of the value up to it. -/
structure ExactMean (n : ℕ) (v : ℝ) : Prop where
  count : InFormat n
  multiples : ∀ i ≤ n, InFormat (i * v)

/-- The mean of copies of a number is this number, if no rounding is needed for their sum. -/
theorem roundedMean_copies {v : ℝ} (any : l ≠ []) (exact_ : ExactMean l.length v) :
    roundedMean (l.map fun _ => v) = v := by
  have pos : 0 < l.length := List.length_pos_iff.mpr any
  have sum := roundedSum_copies (l := l) (v := v) 0 (by simpa using exact_.multiples)
  have one := exact_.multiples 1 pos
  rw [Nat.cast_zero, zero_mul, Nat.zero_add] at sum
  rw [Nat.cast_one, one_mul] at one
  rw [roundedMean, List.length_map, nearest_of_format exact_.count, sum,
    mul_div_cancel_left₀ v (Nat.cast_ne_zero.mpr pos.ne'), nearest_of_format one]

end Mean

/-! ## The deviation

Distances, squares, a sum, a quotient and a root, each of them rounded.  The distances are
multiples of the last places of the values, which keeps the squares away from the least
numbers.
-/

/-- The square of a distance, as it is computed. -/
noncomputable def roundedSquare (center v : ℝ) : ℝ := nearest (nearest |v - center| ^ 2)

/-- The variance as it is computed, for more than one value. -/
noncomputable def roundedVariance (center : ℝ) (vs : List ℝ) : ℝ :=
  nearest (roundedSum 0 (vs.map (roundedSquare center)) / nearest (vs.length - 1 : ℕ))

/-- The deviation as it is computed. -/
noncomputable def roundedDeviation (center : ℝ) (vs : List ℝ) : ℝ :=
  if vs.length < 2 then 0 else nearest √(roundedVariance center vs)

section Deviation

variable {α : Type*} {l : List α} {h : α → Float} {f : α → ℝ} {vs : List ℝ} {c : ℝ}

/-- **The deviation that is computed is the deviation with all its roundings.** -/
theorem reads_stdevOf {e : ℕ} (moderate : 2 * e + 53 ≤ 900)
    (reads : ∀ a ∈ l, Reads (h a) .positive (f a)) (small : ∀ a ∈ l, f a ≤ 2 ^ e)
    (few : l.length < 2 ^ 64) {center : Float} (mean : Reads center .positive c)
    (below : c ≤ 2 ^ e) :
    Reads (stdevOf center (l.map h)) .positive (roundedDeviation c (l.map f)) := by
  unfold stdevOf roundedDeviation roundedVariance
  simp only [List.length_map, List.map_map]
  split
  · exact reads_zero
  next more =>
    have twice : ((2 : ℝ) ^ e) ^ 2 = 2 ^ (2 * e) := by rw [← pow_mul, mul_comm]
    have squares : ∀ a ∈ l, Reads (squaredDistance center (h a)) .positive (roundedSquare c (f a)) ∧
        roundedSquare c (f a) ≤ 2 ^ (2 * e) := fun a mem =>
      twice ▸ (reads a mem).square_sub mean (small a mem) below (.two_pow (by omega))
        (twice ▸ .two_pow (by omega))
    have bound : Bound ((2 : ℝ) ^ (2 * e + 53)) := .two_pow moderate
    obtain ⟨sum, limit⟩ := reads_foldl moderate (fun a mem => (squares a mem).1)
      (fun a mem => (squares a mem).2) reads_zero (by positivity)
    obtain ⟨variance, less⟩ :=
      reads_div_count (n := l.length - 1) sum limit bound (by omega) (by omega)
    -- a number that is not below one is not below its root
    have root := Real.sqrt_le_iff.mpr ⟨by positivity, less.trans
      (le_self_pow₀ (one_le_pow₀ one_le_two) two_ne_zero)⟩
    exact variance.sqrt ((nearest_le_of_format (Real.sqrt_nonneg _) root
      bound.inFormat).trans_lt bound.small)

/-- The values and their mean are not below the `2 ^ 84`-th part of a millisecond, so their
distances have no place beyond `2 ^ 136`: rounding them and their squares costs factors only. -/
theorem clear_distance {v : ℝ} (hv : Clear (-20) v) (format : InFormat v) (hc : Clear (-84) c)
    (format' : InFormat c) : Clear (-136) |v - c| :=
  (hv.mono (by norm_num)).dist format hc format'

theorem clear_roundedSquare {v : ℝ} (distance : Clear (-136) |v - c|) :
    Clear (-272) (roundedSquare c v) :=
  (distance.rounded (by norm_num)).sq.rounded (by norm_num)

/-- The square of a distance exceeds that of its bound by the roundings only. -/
theorem roundedSquare_le {v spread : ℝ} (distance : Clear (-136) |v - c|)
    (le : |v - c| ≤ spread) : roundedSquare c v ≤ spread ^ 2 * (1 + roundoff) ^ 3 := by
  have factor := roundoff_pos.le
  have first : nearest |v - c| ≤ spread * (1 + roundoff) :=
    (nearest_le_mul (distance.mono (by norm_num))).trans
      (mul_le_mul_of_nonneg_right le (by linarith))
  calc roundedSquare c v ≤ nearest |v - c| ^ 2 * (1 + roundoff) :=
        nearest_le_mul ((distance.rounded (by norm_num)).sq.mono (by norm_num))
    _ ≤ (spread * (1 + roundoff)) ^ 2 * (1 + roundoff) :=
        mul_le_mul_of_nonneg_right (pow_le_pow_left₀ (nearest_nonneg _) first 2) (by linarith)
    _ = spread ^ 2 * (1 + roundoff) ^ 3 := by ring

section Bounded

variable {spread : ℝ} (clear : ∀ v ∈ vs, Clear (-136) |v - c|) (le : ∀ v ∈ vs, |v - c| ≤ spread)
  (more : 2 ≤ vs.length) (few : vs.length < 2 ^ 64)

include clear

theorem clear_sum_roundedSquare : Clear (-272) (roundedSum 0 (vs.map (roundedSquare c))) :=
  clear_roundedSum (by norm_num) .none
    (List.forall_mem_map.mpr fun v mem => clear_roundedSquare (clear v mem))

include le in
/-- The sum of the squares exceeds that of their bounds by the roundings only. -/
theorem sum_roundedSquare_le :
    roundedSum 0 (vs.map (roundedSquare c))
      ≤ vs.length * spread ^ 2 * (1 + roundoff) ^ (vs.length + 3) := by
  have sum := roundedSum_le_length_mul
    (List.forall_mem_map.mpr fun v mem => (clear_roundedSquare (clear v mem)).mono (by norm_num))
    (List.forall_mem_map.mpr fun v mem => roundedSquare_le (clear v mem) (le v mem))
  rw [List.length_map] at sum
  calc roundedSum 0 (vs.map (roundedSquare c))
      ≤ vs.length * (spread ^ 2 * (1 + roundoff) ^ 3) * (1 + roundoff) ^ vs.length := sum
    _ = vs.length * spread ^ 2 * (1 + roundoff) ^ (vs.length + 3) := by ring

include more few

theorem clear_roundedVariance : Clear (-336) (roundedVariance c vs) :=
  (clear_div_count (clear_sum_roundedSquare clear) (by omega) (by omega)).rounded (by norm_num)

include le in
/-- The count and the quotient cost a factor each. -/
theorem roundedVariance_le :
    (vs.length - 1 : ℝ) * roundedVariance c vs
      ≤ vs.length * spread ^ 2 * (1 + roundoff) ^ (vs.length + 5) := by
  have factor := roundoff_pos.le
  have sum := sum_roundedSquare_le clear le
  have pos := zero_lt_one.trans_le (one_le_nearest_count (by omega : 0 < vs.length - 1))
  have count : (vs.length - 1 : ℝ) ≤ nearest (vs.length - 1 : ℕ) * (1 + roundoff) := by
    rw [← Nat.cast_pred (by omega)]
    exact le_nearest_mul ((clear_natCast _).mono (by norm_num))
  have quotient := nearest_le_mul ((clear_div_count (n := vs.length - 1)
    (clear_sum_roundedSquare clear) (by omega) (by omega)).mono (by norm_num))
  unfold roundedVariance
  -- only the bounds of the sum and of the divisor matter from here on
  generalize roundedSum 0 (vs.map (roundedSquare c)) = total at *
  generalize nearest (vs.length - 1 : ℕ) = divisor at *
  calc (vs.length - 1 : ℝ) * nearest (total / divisor)
      ≤ divisor * (1 + roundoff) * (total / divisor * (1 + roundoff)) :=
        mul_le_mul count quotient (nearest_nonneg _) (by positivity)
    _ = total * (1 + roundoff) ^ 2 := by field_simp
    _ ≤ vs.length * spread ^ 2 * (1 + roundoff) ^ (vs.length + 3) * (1 + roundoff) ^ 2 :=
        mul_le_mul_of_nonneg_right sum (by positivity)
    _ = vs.length * spread ^ 2 * (1 + roundoff) ^ (vs.length + 5) := by ring

end Bounded

/-- **The deviation is bounded by the distances from the mean**, up to a factor for each
addition and seven others. -/
theorem roundedDeviation_sq_le {spread : ℝ} (clear : ∀ v ∈ vs, Clear (-136) |v - c|)
    (le : ∀ v ∈ vs, |v - c| ≤ spread) (few : vs.length < 2 ^ 64) :
    (vs.length - 1 : ℝ) * roundedDeviation c vs ^ 2
      ≤ vs.length * spread ^ 2 * (1 + roundoff) ^ (vs.length + 7) := by
  have factor := roundoff_pos.le
  unfold roundedDeviation
  split_ifs with single
  · rw [zero_pow two_ne_zero, mul_zero]
    positivity
  have more : 2 ≤ vs.length := not_lt.mp single
  have others : (0 : ℝ) ≤ vs.length - 1 := by
    have cast : (2 : ℝ) ≤ vs.length := by exact_mod_cast more
    linarith
  have positive := clear_roundedVariance clear more few
  have variance := roundedVariance_le clear le more few
  -- the rounding of the root enters squared
  have root := nearest_le_mul ((positive.sqrt (j := -168) (by norm_num)).mono (by norm_num))
  calc (vs.length - 1 : ℝ) * nearest √(roundedVariance c vs) ^ 2
      ≤ (vs.length - 1) * (√(roundedVariance c vs) * (1 + roundoff)) ^ 2 :=
        mul_le_mul_of_nonneg_left (pow_le_pow_left₀ (nearest_nonneg _) root 2) others
    _ = (vs.length - 1) * roundedVariance c vs * (1 + roundoff) ^ 2 := by
        rw [mul_pow, Real.sq_sqrt positive.nonneg, mul_assoc]
    _ ≤ vs.length * spread ^ 2 * (1 + roundoff) ^ (vs.length + 5) * (1 + roundoff) ^ 2 :=
        mul_le_mul_of_nonneg_right variance (by positivity)
    _ = vs.length * spread ^ 2 * (1 + roundoff) ^ (vs.length + 7) := by ring

/-- No distance, no deviation. -/
theorem roundedDeviation_eq_zero (same : ∀ v ∈ vs, v = c) (few : vs.length < 2 ^ 64) :
    roundedDeviation c vs = 0 := by
  by_cases single : vs.length < 2
  · exact if_pos single
  have none : ∀ v ∈ vs, |v - c| = 0 := fun v mem => by rw [same v mem, sub_self, abs_zero]
  have squares := roundedDeviation_sq_le (fun v mem => none v mem ▸ .none)
    (fun v mem => (none v mem).le) few
  have more : (2 : ℝ) ≤ vs.length := by exact_mod_cast not_lt.mp single
  rw [zero_pow two_ne_zero, mul_zero, zero_mul] at squares
  have square : roundedDeviation c vs ^ 2 ≤ 0 := nonpos_of_mul_nonpos_right squares (by linarith)
  exact pow_eq_zero_iff two_ne_zero |>.mp (le_antisymm square (sq_nonneg _))

end Deviation

/-! ## Summaries

The values are the samples in milliseconds, and the range is from the first to the last of
them in ascending order.
-/

section Durations

variable {samples sorted : List UInt64} {n : ℕ}

theorem exists_sorted (samples : List UInt64) :
    ∃ sorted : List UInt64, sorted.Perm samples ∧ sorted.Pairwise (· ≤ ·) := by
  refine ⟨samples.mergeSort fun a b => decide (a ≤ b), List.mergeSort_perm _ _, ?_⟩
  refine (List.pairwise_mergeSort ?_ ?_ samples).imp of_decide_eq_true
  · intro a b c first second
    exact decide_eq_true (UInt64.le_trans (of_decide_eq_true first) (of_decide_eq_true second))
  · intro a b
    rw [Bool.or_eq_true, decide_eq_true_iff, decide_eq_true_iff]
    exact UInt64.le_total a b

/-- A summary in terms of the sorted durations: the first, the last and the sums. -/
theorem exists_summarize_eq (tag : Tag) (any : samples ≠ []) :
    ∃ sorted : List UInt64, sorted.Perm samples ∧ ∃ first ∈ samples, ∃ last ∈ samples,
      (∀ ns ∈ samples, first ≤ ns ∧ ns ≤ last) ∧
        ∃ s, summarize tag samples = some s ∧ s.min = millis first ∧ s.max = millis last ∧
          s.mean = meanOf (sorted.map millis) ∧ s.stdev = stdevOf s.mean (sorted.map millis) := by
  obtain ⟨sorted, perm, ascending⟩ := exists_sorted samples
  have length := perm.length_eq
  have positive : 0 < sorted.length := length ▸ List.length_pos_of_ne_nil any
  have listed (i : ℕ) (lt : i < sorted.length) : sorted.getD i 0 ∈ samples := by
    rw [List.getD_eq_getElem _ _ lt]
    exact perm.mem_iff.mp (List.getElem_mem lt)
  have summary := summarize_eq tag any
  simp only [sortedMillis_eq_map perm ascending, getD_map_millis] at summary
  refine ⟨sorted, perm, _, listed 0 positive, _, listed (samples.length - 1) (by omega), ?_,
    _, summary, rfl, rfl, rfl, rfl⟩
  intro ns mem
  obtain ⟨i, lt, rfl⟩ := List.mem_iff_getElem.mp (perm.mem_iff.mpr mem)
  -- every sample has a place in the sorted list, between the first and the last one
  rw [← List.getD_eq_getElem sorted 0 lt]
  exact ⟨getD_le_getD ascending i.zero_le lt, getD_le_getD ascending (by omega) (by omega)⟩

/-- The mean of durations and the mean of so many copies of one duration. -/
theorem reads_meanOf_millis (any : sorted ≠ []) (few : sorted.length < 2 ^ 64) :
    Reads (meanOf (sorted.map millis)) .positive (roundedMean (sorted.map exactMillis)) ∧
      roundedMean (sorted.map exactMillis) ≤ 2 ^ 98 :=
  reads_meanOf (e := 45) (by norm_num) (fun ns _ => reads_millis ns)
    (fun ns _ => exactMillis_le ns) any few

/-- The mean of copies of one duration, with all its roundings. -/
theorem reads_meanOf_copies (any : sorted ≠ []) (few : sorted.length < 2 ^ 64) (ns : UInt64) :
    Reads (meanOf (.replicate sorted.length (millis ns))) .positive
      (roundedMean (sorted.map fun _ => exactMillis ns)) := by
  have reads := (reads_meanOf (e := 45) (l := sorted) (by norm_num) (fun _ _ => reads_millis ns)
    (fun _ _ => exactMillis_le ns) any few).1
  rwa [List.map_const'] at reads

theorem reads_stdevOf_millis (any : sorted ≠ []) (few : sorted.length < 2 ^ 64) :
    Reads (stdevOf (meanOf (sorted.map millis)) (sorted.map millis)) .positive
      (roundedDeviation (roundedMean (sorted.map exactMillis)) (sorted.map exactMillis)) := by
  obtain ⟨mean, below⟩ := reads_meanOf_millis any few
  exact reads_stdevOf (e := 98) (by norm_num) (fun ns _ => reads_millis ns)
    (fun ns _ => (exactMillis_le ns).trans (pow_le_pow_right₀ one_le_two (by norm_num)))
    few mean below

/-- One value and two are averaged exactly. -/
theorem exactMean_of_two {v : ℝ} (two : n ≤ 2) (format : InFormat v) : ExactMean n v := by
  refine ⟨inFormat_natCast (two.trans (by norm_num)), fun i le => ?_⟩
  match i, le.trans two with
  | 0, _ => simpa using inFormat_natCast (Nat.zero_le (2 ^ 53))
  | 1, _ => simpa using format
  | 2, _ => exact format.two_mul

/-- Copies of a multiple of the sixty-fourth part of a millisecond are averaged exactly, as
long as the nanoseconds of the sum have a place in a mantissa. -/
theorem exactMean_of_dvd {ns : UInt64} (pos : 0 < n) (count : n ≤ 2 ^ 53)
    (whole : 15625 ∣ ns.toNat) (few : n * ns.toNat ≤ 2 ^ 53) : ExactMean n (exactMillis ns) := by
  obtain ⟨k, value⟩ := whole
  have short : ns.toNat ≤ 2 ^ 53 := (Nat.le_mul_of_pos_left _ pos).trans few
  have places (i : ℕ) (le : i ≤ n) : i * k ≤ 2 ^ 53 :=
    calc i * k ≤ n * ns.toNat := Nat.mul_le_mul le (by omega)
      _ ≤ 2 ^ 53 := few
  have multiple (i : ℕ) : (i : ℝ) * (k * 2 ^ (-6 : ℤ)) = (i * k : ℕ) * 2 ^ (-6 : ℤ) := by
    rw [Nat.cast_mul, mul_assoc]
  -- a sixty-fourth of a millisecond is a power of two, so nothing is rounded
  have exact_ : exactMillis ns = k * 2 ^ (-6 : ℤ) := by
    have quotient : (ns.toNat : ℝ) / 1000000 = k * 2 ^ (-6 : ℤ) := by
      rw [value]
      norm_num
      ring
    rw [exactMillis, nearest_of_format (inFormat_natCast short), quotient]
    exact nearest_of_format ⟨k, -6, rfl, by simpa using places 1 pos, by norm_num⟩
  refine ⟨inFormat_natCast count, fun i le => ?_⟩
  rw [exact_, multiple]
  exact ⟨i * k, -6, rfl, places i le, by norm_num⟩

section Range

variable {first last : UInt64} (range : ∀ ns ∈ sorted, first ≤ ns ∧ ns ≤ last)

include range

/-- Copies of the least and of the greatest duration have the least and the greatest mean. -/
theorem roundedMean_millis_between :
    roundedMean (sorted.map fun _ => exactMillis first) ≤ roundedMean (sorted.map exactMillis) ∧
      roundedMean (sorted.map exactMillis) ≤ roundedMean (sorted.map fun _ => exactMillis last) :=
  ⟨roundedMean_mono (fun _ _ => nearest_nonneg _) fun ns mem => exactMillis_mono (range ns mem).1,
    roundedMean_mono (fun _ _ => nearest_nonneg _) fun ns mem => exactMillis_mono (range ns mem).2⟩

variable (any : sorted ≠ []) (few : sorted.length < 2 ^ 64)

include any few

/-- The mean of durations is not further out of their range than the roundings take it. -/
theorem roundedMean_millis_near :
    exactMillis first * (1 - roundoff) ^ (sorted.length + 2)
        ≤ roundedMean (sorted.map exactMillis) ∧
      roundedMean (sorted.map exactMillis)
        ≤ exactMillis last * (1 + roundoff) ^ (sorted.length + 2) := by
  have clear : ∀ v ∈ sorted.map exactMillis, Clear (-20) v :=
    List.forall_mem_map.mpr fun ns _ => clear_exactMillis ns
  have some : sorted.map exactMillis ≠ [] := mt List.map_eq_nil_iff.mp any
  rw [← List.length_map exactMillis] at few ⊢
  exact ⟨le_roundedMean clear (nearest_nonneg _)
      (List.forall_mem_map.mpr fun ns mem => exactMillis_mono (range ns mem).1) some few,
    roundedMean_le clear
      (List.forall_mem_map.mpr fun ns mem => exactMillis_mono (range ns mem).2) some few⟩

/-- The deviation of durations exceeds their range by the roundings only. -/
theorem roundedDeviation_millis_sq_le :
    let mean := roundedMean (sorted.map exactMillis)
    (sorted.length - 1) * roundedDeviation mean (sorted.map exactMillis) ^ 2
      ≤ sorted.length * ((exactMillis last ⊔ mean) - (exactMillis first ⊓ mean)) ^ 2
        * (1 + roundoff) ^ (sorted.length + 7) := by
  intro mean
  have format : InFormat mean := (reads_meanOf_millis any few).1.inFormat
  rw [← List.length_map exactMillis] at few ⊢
  -- the mean itself may be outside of the range, which the bound allows for
  have clear : Clear (-84) mean :=
    clear_roundedMean (List.forall_mem_map.mpr fun ns _ => clear_exactMillis ns)
      (mt List.map_eq_nil_iff.mp any) few
  refine roundedDeviation_sq_le (List.forall_mem_map.mpr fun ns _ => ?_)
    (List.forall_mem_map.mpr fun ns mem => abs_sub_le_iff.mpr ⟨?_, ?_⟩) few
  · exact clear_distance (clear_exactMillis ns) (reads_millis ns).inFormat clear format
  · exact sub_le_sub ((exactMillis_mono (range ns mem).2).trans le_sup_left) inf_le_right
  · exact sub_le_sub le_sup_right (inf_le_left.trans (exactMillis_mono (range ns mem).1))

end Range

/-- **The mean and the deviation, as far as rounding leaves them in the range.**

The mean is between those of copies of the least and of the greatest value.  It leaves the
range by at most a factor for each value and two others, and not on the side of a value whose
copies are averaged exactly, so not for two durations.  The deviation is bounded by the range,
which is made wide enough for the mean.  Equal durations have one value; where its copies are
averaged exactly it is the mean, and there is no deviation. -/
theorem mean_and_stdev_near_range (tag : Tag) (any : samples ≠ []) (few : samples.length < 2 ^ 64) :
    let n := samples.length
    ∃ first ∈ samples, ∃ last ∈ samples, (∀ ns ∈ samples, first ≤ ns ∧ ns ≤ last) ∧
      ∃ s mean dev, summarize tag samples = some s ∧ s.min = millis first ∧ s.max = millis last ∧
        Reads s.mean .positive mean ∧ Reads s.stdev .positive dev ∧
        (meanOf (.replicate n s.min) ≤ s.mean ∧ s.mean ≤ meanOf (.replicate n s.max)) ∧
        (exactMillis first * (1 - roundoff) ^ (n + 2) ≤ mean ∧
          mean ≤ exactMillis last * (1 + roundoff) ^ (n + 2)) ∧
        (n - 1) * dev ^ 2
          ≤ n * ((exactMillis last ⊔ mean) - (exactMillis first ⊓ mean)) ^ 2
            * (1 + roundoff) ^ (n + 7) ∧
        (n ≤ 2 ∨ ExactMean n (exactMillis first) → s.min ≤ s.mean) ∧
        (n ≤ 2 ∨ ExactMean n (exactMillis last) → s.mean ≤ s.max) ∧
        ((∀ ns ∈ samples, ∀ ns' ∈ samples, ns = ns') → s.min = s.max ∧
          (n ≤ 2 ∨ ExactMean n (exactMillis first) → s.mean = s.min ∧ s.stdev = 0)) := by
  intro n
  obtain ⟨sorted, perm, first, firstMem, last, lastMem, between, s, found, least, greatest, center,
    spread⟩ := exists_summarize_eq tag any
  have length : sorted.length = n := perm.length_eq
  have some : sorted ≠ [] := fun none => any (none ▸ perm).nil_eq.symm
  have count : sorted.length < 2 ^ 64 := length.trans_lt few
  have range : ∀ ns ∈ sorted, first ≤ ns ∧ ns ≤ last := fun ns mem =>
    between ns (perm.mem_iff.mp mem)
  have mean := (reads_meanOf_millis some count).1
  have dev := reads_stdevOf_millis some count
  have copies := reads_meanOf_copies some count
  rw [← center] at mean dev
  rw [← spread] at dev
  obtain ⟨lower, upper⟩ := roundedMean_millis_between range
  -- copies of one exact number have that number as their rounded mean
  have averaged (ns : UInt64) (exact_ : n ≤ 2 ∨ ExactMean n (exactMillis ns)) :
      roundedMean (sorted.map fun _ => exactMillis ns) = exactMillis ns :=
    roundedMean_copies some (length.symm ▸ exact_.elim
      (fun two => exactMean_of_two two (reads_millis ns).inFormat) id)
  refine ⟨first, firstMem, last, lastMem, between, s, _, _, found, least, greatest, mean, dev, ?_⟩
  rw [least, greatest, ← length]
  refine ⟨⟨(le_iff_of_reads (copies first) mean).mpr lower,
      (le_iff_of_reads mean (copies last)).mpr upper⟩,
    roundedMean_millis_near range some count, roundedDeviation_millis_sq_le range some count,
    fun exact_ => ?_, fun exact_ => ?_, fun equal => ?_⟩
  · exact (le_iff_of_reads (reads_millis first) mean).mpr
      ((averaged first (length ▸ exact_)).symm.trans_le lower)
  · exact (le_iff_of_reads mean (reads_millis last)).mpr
      (upper.trans_eq (averaged last (length ▸ exact_)))
  · obtain rfl : first = last := equal _ firstMem _ lastMem
    refine ⟨rfl, fun exact_ => ?_⟩
    have same : ∀ ns ∈ sorted, exactMillis ns = exactMillis first := fun ns mem =>
      congrArg exactMillis (equal ns (perm.mem_iff.mp mem) first firstMem)
    -- all samples equal: the mean is the sample, and nothing deviates from it
    have middle : roundedMean (sorted.map exactMillis) = exactMillis first := by
      rw [List.map_congr_left same]
      exact averaged first (length ▸ exact_)
    have none : roundedDeviation (roundedMean (sorted.map exactMillis)) (sorted.map exactMillis)
        = 0 := roundedDeviation_eq_zero (List.forall_mem_map.mpr fun ns mem => by
          rw [middle, same ns mem]) (by rwa [List.length_map])
    exact ⟨eq_of_reads mean (middle ▸ reads_millis first), eq_of_reads dev (none ▸ reads_zero)⟩

end Durations

/-- Three durations of whole half milliseconds. -/
theorem mean_of_half_milliseconds :
    let tag := Tag.ofExtension "awk"
    let samples : List UInt64 := [4000000, 1000000, 2500000]
    (samples ≠ [] ∧ samples.length < 2 ^ 64) ∧
      ∃ s, summarize tag samples = some s ∧ s.min ≤ s.mean ∧ s.mean ≤ s.max := by
  intro tag samples
  have few : samples.length < 2 ^ 64 := by decide
  have whole : ∀ ns ∈ samples, 15625 ∣ ns.toNat ∧ samples.length * ns.toNat ≤ 2 ^ 53 := by
    simp [samples]
  have exact_ : ∀ ns ∈ samples, ExactMean samples.length (exactMillis ns) := fun ns mem =>
    exactMean_of_dvd (by decide) (by decide) (whole ns mem).1 (whole ns mem).2
  obtain ⟨first, mem, last, mem', -, s, -, -, found, -, -, -, -, -, -, -, above, below, -⟩ :=
    mean_and_stdev_near_range tag (List.cons_ne_nil _ _) few
  exact ⟨⟨List.cons_ne_nil _ _, few⟩, s, found, above (.inr (exact_ first mem)),
    below (.inr (exact_ last mem'))⟩

/-- Three times a tenth of a millisecond: the first sum is exact, the second is rounded
upwards, and a third of it is more than a tenth. -/
theorem not_every_mean_is_in_range :
    ¬ ∀ (tag : Tag) (samples : List UInt64) (s : Summary), samples ≠ [] →
      summarize tag samples = some s → (s.min ≤ s.mean ∧ s.mean ≤ s.max) ∧
        ((∀ ns ∈ samples, ∀ ns' ∈ samples, ns = ns') →
          s.mean = s.min ∧ s.min = s.max ∧ s.stdev = 0) := by
  intro always
  have any : [100000, 100000, 100000] ≠ ([] : List UInt64) := List.cons_ne_nil _ _
  have sorted : sortedMillis [100000, 100000, 100000]
      = [millis 100000, millis 100000, millis 100000] :=
    sortedMillis_eq_map (.refl _) (by decide)
  obtain ⟨⟨-, below⟩, -⟩ := always (.ofExtension "awk") _ _ any (summarize_eq _ any)
  rw [sorted] at below
  exact absurd below (by decide +kernel)

end CrossBench.Summary
