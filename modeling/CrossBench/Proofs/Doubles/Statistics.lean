import CrossBench.Decimal.Binary
import CrossBench.Proofs.Doubles.Arithmetic
import CrossBench.Summary

/-!
# Statistics are finite and have no sign

A duration has sixty-four bits, so in milliseconds it is below `2 ^ 45`.  From there a bound
goes through every statistic: a sum of `n` doubles within a power of two is within `n` times
that power, and as long as `n` has a place in the format nothing is lost by rounding the
bound.  No sum, no square and no root leaves the format, and nothing is divided by zero.

* `Summary.within_total` — sums, one double after the other.
* `unsigned_of_summarize` — the statistics of fewer than `2 ^ 53` durations.
-/

namespace CrossBench

open Doubles Float.Model Float.Model.UnpackedFloat

/-! ## Doubles without a sign

Being finite and having no minus sign is read off the bits of a double.
-/

/-- A double that stands for a number and has no minus sign. -/
def Unsigned (x : Float) : Prop := ∃ m q, Decimal.Reading.ofFloat x = .finite false m q

theorem toNat_unpackExponent (bits : UInt64) :
    (@unpackExponent .binary64 bits.toBitVec).toNat
      = bits.toNat / 2 ^ 52 % 2 ^ 11 := by
  rw [unpackExponent_def, BitVec.extractLsb'_toNat, Nat.shiftRight_eq_div_pow]
  rfl

theorem toNat_unpackSign (bits : UInt64) :
    (@unpackSign .binary64 bits.toBitVec).toNat = bits.toNat / 2 ^ 63 % 2 := by
  rw [unpackSign_def, BitVec.extractLsb'_toNat, Nat.shiftRight_eq_div_pow]
  rfl

theorem toNat_of_positive {b : BitVec 1} (positive : Sign.ofBitVec b = .positive) :
    b.toNat = 0 := by
  rw [← Sign.toBitVec_ofBitVec b, positive]
  rfl

/-- The bits of a double that is a number: its exponent is not the last one, and the first
bit is that of the sign. -/
theorem bits_of_is (bits : UInt64) {v : ℝ}
    (is : Is (UnpackedFloat.unpack .binary64 bits.toBitVec) .positive v) :
    bits.toNat / 2 ^ 52 % 2 ^ 11 ≠ 2 ^ 11 - 1 ∧ bits.toNat / 2 ^ 63 = 0 := by
  unfold UnpackedFloat.unpack at is
  dsimp only at is
  split at is
  -- the last exponent is that of the infinities and of what is not a number
  next last => split at is <;> cases is
  next notLast =>
    have sign : Sign.ofBitVec (@unpackSign .binary64 bits.toBitVec) = .positive := by
      split at is
      · split at is
        · exact is.1
        · exact is.1
      · exact is.1
    have first := toNat_of_positive sign
    rw [toNat_unpackSign] at first
    have limit := bits.toNat_lt
    refine ⟨fun last => notLast (BitVec.eq_of_toNat_eq ?_), by omega⟩
    rw [toNat_unpackExponent, last]
    rfl

/-- A magnitude under a positive sign stands for a number without a minus sign. -/
theorem unsigned_of_reads {x : Float} {v : ℝ} (reads : Reads x .positive v) : Unsigned x := by
  obtain ⟨notLast, first⟩ := bits_of_is x.toBits reads
  unfold Unsigned Decimal.Reading.ofFloat Decimal.Reading.ofBits
  simp only [Nat.pow_eq] at notLast first ⊢
  rw [if_neg notLast, decide_eq_false (by omega : ¬ x.toBits.toNat / 2 ^ 63 = 1)]
  split
  · exact ⟨_, _, rfl⟩
  · exact ⟨_, _, rfl⟩

/-- A double within a bound is a finite one without a sign. -/
theorem Doubles.Within.unsigned {b : ℝ} {x : Float} (h : Within b x) : Unsigned x :=
  h.elim fun _ reads => unsigned_of_reads reads.1

/-! ## Statistics

One lemma for each statistic, with the bound that it keeps.
-/

namespace Summary

variable {e : ℕ} {xs : List Float}

theorem within_millis (ns : UInt64) : Within (2 ^ 45) (millis ns) :=
  (within_toFloat ns).div (reads_toFloat (by norm_num)) (by norm_num) (by norm_num)
    (.two_pow (by norm_num))

/-- One more double, and the bound grows by one more of the same power of two. -/
theorem within_foldl (moderate : e ≤ 900) (all : ∀ x ∈ xs, Within (2 ^ e) x) {k : ℕ}
    (few : k + xs.length ≤ 2 ^ 53) {start : Float} (before : Within (k * 2 ^ e) start) :
    Within ((k + xs.length : ℕ) * 2 ^ e) (xs.foldl (· + ·) start) := by
  induction xs generalizing k start with
  | nil => exact before
  | cons x rest ih =>
      obtain ⟨here, there⟩ := List.forall_mem_cons.mp all
      rw [List.length_cons] at few ⊢
      have one : (k * 2 ^ e + 2 ^ e : ℝ) = (k + 1 : ℕ) * 2 ^ e := by push_cast; ring
      have next : Within ((k + 1 : ℕ) * 2 ^ e) (start + x) :=
        one ▸ before.add here (one ▸ Bound.of_le (by omega) moderate)
      have whole := ih there (by omega) next
      rwa [Nat.add_right_comm, Nat.add_assoc] at whole

/-- **Sums.**  The sum of `n` doubles within a power of two is within `n` times that power. -/
theorem within_total (moderate : e ≤ 900) (all : ∀ x ∈ xs, Within (2 ^ e) x)
    (few : xs.length ≤ 2 ^ 53) : Within (xs.length * 2 ^ e) (total xs) := by
  have whole := within_foldl moderate all (k := 0) (by omega) (.zero (by simp))
  rwa [Nat.zero_add] at whole

/-- A count in front of a bound goes away with a division by the count. -/
theorem within_meanOf (moderate : e ≤ 900) (all : ∀ x ∈ xs, Within (2 ^ e) x)
    (any : xs ≠ []) (few : xs.length < 2 ^ 53) : Within (2 ^ e) (meanOf xs) := by
  have pos : (0 : ℝ) < xs.length := Nat.cast_pos.mpr (List.length_pos_iff.mpr any)
  exact (within_total moderate all few.le).div (reads_toFloat few) pos
    (mul_div_cancel_left₀ _ pos.ne').le (.two_pow moderate)

/-- A value that is picked from a list is within the bound of the list, also if there is none in
this place. -/
theorem within_getD (all : ∀ x ∈ xs, Within (2 ^ e) x) (i : ℕ) : Within (2 ^ e) (xs.getD i 0) := by
  rw [List.getD_eq_getElem?_getD]
  cases found : xs[i]? with
  | none => exact .zero (by positivity)
  | some x => exact all x (List.mem_of_getElem? found)

theorem within_medianOf (moderate : e ≤ 899) (all : ∀ x ∈ xs, Within (2 ^ e) x) :
    Within (2 ^ e) (medianOf xs) := by
  unfold medianOf
  dsimp only
  split
  · have two : (2 ^ e + 2 ^ e : ℝ) = 2 ^ (e + 1) := by ring
    have sum := (within_getD all (xs.length / 2 - 1)).add (within_getD all (xs.length / 2))
      (two ▸ Bound.two_pow (by omega))
    exact sum.div (reads_toFloat (by norm_num)) (by norm_num)
      (by rw [two, pow_succ]; norm_num) (.two_pow (by omega))
  · exact within_getD all _

/-- The deviation is finite and has no sign, if squaring the values does not overflow. -/
theorem unsigned_stdevOf (moderate : 2 * e ≤ 800) (all : ∀ x ∈ xs, Within (2 ^ e) x)
    (few : xs.length < 2 ^ 53) {center : Float} (mean : Within (2 ^ e) center) :
    Unsigned (stdevOf center xs) := by
  unfold stdevOf
  split
  · exact (Within.zero le_rfl).unsigned
  next more =>
    have twice : (2 ^ e * 2 ^ e : ℝ) = 2 ^ (2 * e) := by rw [two_mul, pow_add]
    have squares : ∀ x ∈ xs.map (squaredDistance center), Within (2 ^ (2 * e)) x := by
      intro x mem
      obtain ⟨y, listed, rfl⟩ := List.mem_map.mp mem
      exact twice ▸ (all y listed).square_sub mean (.two_pow (by omega))
        (twice ▸ Bound.two_pow (by omega))
    have sum := within_total (by omega) squares (by simpa using few.le)
    rw [List.length_map] at sum
    -- the divisor is at least one, so the bound of the sum is one of the quotient
    have divisor : (1 : ℝ) ≤ (xs.length - 1 : ℕ) := Nat.one_le_cast.mpr (by omega)
    have variance := sum.div (reads_toFloat (by omega : xs.length - 1 < 2 ^ 53))
      (by linarith) (div_le_self (by positivity) divisor) (.of_le few.le (by omega))
    have root : √(xs.length * 2 ^ (2 * e) : ℝ) ≤ 2 ^ (53 + e) := by
      refine Real.sqrt_le_iff.mpr ⟨by positivity, ?_⟩
      have count : (xs.length : ℝ) ≤ 2 ^ 53 := by exact_mod_cast few.le
      calc (xs.length : ℝ) * 2 ^ (2 * e) ≤ 2 ^ 53 * 2 ^ (2 * e) :=
            mul_le_mul_of_nonneg_right count (by positivity)
        _ ≤ 2 ^ (2 * 53) * 2 ^ (2 * e) := mul_le_mul_of_nonneg_right
            (pow_le_pow_right₀ one_le_two (by norm_num)) (by positivity)
        _ = (2 ^ (53 + e)) ^ 2 := by rw [← pow_add, ← pow_mul]; ring_nf
    exact (variance.sqrt root (.two_pow (by omega))).unsigned

/-- The times of a summary. -/
def times (s : Summary) : List Float := [s.min, s.max, s.mean, s.median, s.stdev]

end Summary

/-- **Statistics are finite and have no sign**, however long the durations are: none of
them is infinite, none is not a number, and none is a negative zero. -/
theorem unsigned_of_summarize {tag : Tag} {samples : List UInt64}
    (few : samples.length < 2 ^ 53) {s : Summary} (found : summarize tag samples = some s) :
    ∀ x ∈ s.times, Unsigned x := by
  unfold summarize at found
  have all : ∀ x ∈ Summary.sortedMillis samples, Within (2 ^ 45) x := by
    intro x mem
    obtain ⟨ns, -, rfl⟩ := List.mem_map.mp (List.mem_mergeSort.mp mem)
    exact Summary.within_millis ns
  have length : (Summary.sortedMillis samples).length = samples.length := by
    simp [Summary.sortedMillis]
  generalize Summary.sortedMillis samples = sorted at found all length
  cases sorted with
  | nil => cases found
  | cons first rest =>
      cases found
      have few : (first :: rest).length < 2 ^ 53 := length ▸ few
      have mean := Summary.within_meanOf (by norm_num) all (List.cons_ne_nil _ _) few
      -- the greatest value is in the list, whether it is the only one or not
      have last : rest.getLastD first ∈ first :: rest := by
        cases rest <;> simp [List.getLastD]
      simp only [Summary.times, List.forall_mem_cons]
      exact ⟨(all _ List.mem_cons_self).unsigned, (all _ last).unsigned, mean.unsigned,
        (Summary.within_medianOf (by norm_num) all).unsigned,
        Summary.unsigned_stdevOf (by norm_num) all few mean, fun _ mem => nomatch mem⟩

end CrossBench
