import CrossBench.Proofs.Doubles.Order

/-!
# How far rounding moves a number

Rounding moves a number by at most half a unit of its last place.  Of a number that is not
below the full mantissas of the format this is at most the fraction `roundoff` of it.  A
number that is far away from the least ones, or nothing (`Clear`), stays so through sums,
distances, squares, quotients and roots, so the fraction is the only thing to be counted.

* `nearest_le_mul`, `mul_le_nearest` — one rounding.
* `roundedSum` — a sum from left to right in which each addition is rounded.  It respects the
  order, and each addition costs one factor (`roundedSum_le`, `le_roundedSum`).
* `roundedSum_copies` — copies of a value whose multiples have a place in the format.
* `reads_foldl` — sums of doubles are such sums, and none is too large for the format: where
  an addend is half a unit of the last place of the sum, the sum stands still.
-/

namespace CrossBench.Doubles

open Float.Model Float.Model.UnpackedFloat

variable {x y : ℝ}

/-! ## Numbers that are not among the least ones

The least numbers of the format have fewer places than the others, so rounding can take all
of such a number away.  Sums of milliseconds never get there: being clear of a power of two
is kept by each operation, and every operation lowers the power by a fixed amount.
-/

/-- The powers of two down to the least number are in the format. -/
theorem inFormat_two_zpow {k : ℤ} (low : -1074 ≤ k) : InFormat (2 ^ k) :=
  ⟨1, k, by rw [Nat.cast_one, one_mul], by norm_num, low⟩

/-- The natural numbers up to `2 ^ 53` are in the format. -/
theorem inFormat_natCast {n : ℕ} (few : n ≤ 2 ^ 53) : InFormat n :=
  ⟨n, 0, by rw [zpow_zero, mul_one], few, by norm_num⟩

/-- A number is nothing, or not below a power of two. -/
inductive Clear (k : ℤ) : ℝ → Prop
  | none : Clear k 0
  | above {x : ℝ} (le : 2 ^ k ≤ x) : Clear k x

namespace Clear

variable {k j : ℤ}

theorem nonneg (clear : Clear k x) : 0 ≤ x := by
  cases clear with
  | none => exact le_rfl
  | above le => exact (two_zpow_pos k).le.trans le

/-- What is clear of a power of two is clear of the lower ones. -/
theorem mono (clear : Clear k x) (lower : j ≤ k) : Clear j x := by
  cases clear with
  | none => exact .none
  | above le => exact .above ((zpow_le_zpow_right₀ one_le_two lower).trans le)

/-- Rounding does not take a number below a power of two that it is above. -/
theorem rounded (clear : Clear k x) (low : -1074 ≤ k) : Clear k (nearest x) := by
  cases clear with
  | none =>
      rw [nearest_zero]
      exact .none
  | above le =>
      refine .above ?_
      rw [← nearest_of_format (inFormat_two_zpow low)]
      exact nearest_mono (two_zpow_pos k).le le

/-- A sum of clear numbers is as clear as they are. -/
theorem add (clear : Clear k x) (clear' : Clear k y) : Clear k (x + y) := by
  cases clear with
  | none => rwa [zero_add]
  | above le => exact .above (le.trans (le_add_of_nonneg_right clear'.nonneg))

theorem sq (clear : Clear k x) : Clear (2 * k) (x ^ 2) := by
  cases clear with
  | none =>
      rw [zero_pow two_ne_zero]
      exact .none
  | above le =>
      refine .above ?_
      rw [mul_comm, zpow_mul, zpow_ofNat]
      exact pow_le_pow_left₀ (two_zpow_pos k).le le 2

/-- A division costs as much as the divisor is great. -/
theorem div (clear : Clear k x) (pos : 0 < y) (limit : y ≤ 2 ^ j) : Clear (k - j) (x / y) := by
  cases clear with
  | none =>
      rw [zero_div]
      exact .none
  | above le =>
      refine .above ?_
      rw [zpow_sub₀ two_ne_zero]
      exact div_le_div₀ ((two_zpow_pos k).le.trans le) le pos limit

theorem sqrt (clear : Clear k x) (half : 2 * j ≤ k) : Clear j √x := by
  cases clear.mono half with
  | none =>
      rw [Real.sqrt_zero]
      exact .none
  | above le =>
      refine .above (Real.le_sqrt_of_sq_le (le_of_eq_of_le ?_ le))
      rw [mul_comm, zpow_mul, zpow_ofNat]

/-- The mantissa has fifty-two places below the leading one. -/
theorem multiple (clear : Clear k x) (format : InFormat x) : ∃ m : ℕ, x = m * 2 ^ (k - 52) := by
  rcases clear with _ | le
  · exact ⟨0, by rw [Nat.cast_zero, zero_mul]⟩
  obtain ⟨m, value⟩ := format.multiple
  have leading : k ≤ Int.log 2 x :=
    (Int.zpow_le_iff_le_log one_lt_two ((two_zpow_pos k).trans_le le)).mp le
  have place : k - 52 ≤ lastPlace x := by
    unfold lastPlace
    omega
  refine ⟨m * 2 ^ (lastPlace x - (k - 52)).toNat, ?_⟩
  rw [Nat.cast_mul, mul_assoc, ← two_zpow_eq place]
  exact value

/-- The distance of two numbers of the format is a multiple of the lowest place. -/
theorem dist (clear : Clear k x) (format : InFormat x) (clear' : Clear k y)
    (format' : InFormat y) : Clear (k - 52) |x - y| := by
  obtain ⟨m, rfl⟩ := clear.multiple format
  obtain ⟨m', rfl⟩ := clear'.multiple format'
  have distance : |(m : ℝ) * 2 ^ (k - 52) - m' * 2 ^ (k - 52)|
      = (|(m : ℤ) - m'| : ℤ) * 2 ^ (k - 52) := by
    rw [← sub_mul, abs_mul, abs_of_pos (two_zpow_pos _)]
    push_cast
    rfl
  rw [distance]
  rcases (abs_nonneg ((m : ℤ) - m')).eq_or_lt with same | apart
  · rw [← same, Int.cast_zero, zero_mul]
    exact .none
  · exact .above (le_mul_of_one_le_left (two_zpow_pos _).le (by exact_mod_cast apart))

end Clear

/-! ## One rounding

The error is at most half a unit of the last place, and a full mantissa has at least `2 ^
52` units.
-/

/-- The greatest relative error of rounding. -/
noncomputable def roundoff : ℝ := ((2 ^ 53 : ℕ) : ℝ)⁻¹

theorem roundoff_pos : 0 < roundoff := by
  unfold roundoff
  positivity

theorem roundoff_lt_one : roundoff < 1 := by
  norm_num [roundoff]

/-- Rounding to a natural number costs one half at most. -/
theorem abs_evenRound_sub_le {q : ℝ} (nonneg : 0 ≤ q) : |evenRound q - q| ≤ 1 / 2 := by
  have low := Nat.floor_le nonneg
  have high := Nat.lt_floor_add_one q
  unfold evenRound
  split_ifs with below above
  · rw [abs_sub_comm, abs_of_nonneg (by linarith)]
    exact below.le
  · rw [Nat.cast_add_one, abs_of_nonneg (by linarith)]
    linarith
  · -- the number is in the middle, whichever side is the even one
    have half : q - ⌊q⌋₊ = 1 / 2 := by linarith
    rcases Nat.mod_two_eq_zero_or_one ⌊q⌋₊ with parity | parity
    · rw [parity, Nat.add_zero, abs_sub_comm, half, abs_of_pos one_half_pos]
    · rw [parity, Nat.cast_add_one, abs_of_nonneg (by linarith)]
      linarith

/-- Rounding that moves a number by one half ends at an even number. -/
theorem even_evenRound {q : ℝ} (nonneg : 0 ≤ q) (tie : |evenRound q - q| = 1 / 2) :
    Even (evenRound q) := by
  have low := Nat.floor_le nonneg
  have high := Nat.lt_floor_add_one q
  unfold evenRound at tie ⊢
  split_ifs at tie ⊢ with below above
  · rw [abs_sub_comm, abs_of_nonneg (by linarith)] at tie
    exact absurd tie below.ne
  · rw [Nat.cast_add_one, abs_of_nonneg (by linarith)] at tie
    linarith
  · rw [Nat.even_iff]
    omega

/-- Rounding moves a number with a full mantissa by at most half a unit of its last place. -/
theorem abs_nearest_sub_le (normal : 2 ^ (-1022 : ℤ) ≤ x) :
    |nearest x - x| ≤ roundoff * 2 ^ Int.log 2 x := by
  have pos : 0 < x := (two_zpow_pos _).trans_le normal
  have leading : -1022 ≤ Int.log 2 x := (Int.zpow_le_iff_le_log one_lt_two pos).mp normal
  -- the number is not among the least ones, so its last place follows its leading one
  have place : lastPlace x = Int.log 2 x - 52 := by
    unfold lastPlace
    omega
  have unit := two_zpow_pos (lastPlace x)
  have error := abs_evenRound_sub_le (div_nonneg pos.le unit.le)
  have scaled : nearest x - x
      = (evenRound (x / 2 ^ lastPlace x) - x / 2 ^ lastPlace x) * 2 ^ lastPlace x := by
    rw [nearest, sub_mul, div_mul_cancel₀ _ unit.ne']
  calc |nearest x - x|
      = |evenRound (x / 2 ^ lastPlace x) - x / 2 ^ lastPlace x| * 2 ^ lastPlace x := by
        rw [scaled, abs_mul, abs_of_pos unit]
    _ ≤ 1 / 2 * 2 ^ lastPlace x := mul_le_mul_of_nonneg_right error unit.le
    _ = roundoff * 2 ^ Int.log 2 x := by
        rw [place, zpow_sub₀ two_ne_zero, roundoff]
        norm_num
        ring

/-- The leading one survives rounding. -/
theorem two_zpow_log_le_nearest (normal : 2 ^ (-1022 : ℤ) ≤ x) :
    2 ^ Int.log 2 x ≤ nearest x := by
  have pos : 0 < x := (two_zpow_pos _).trans_le normal
  have leading : -1022 ≤ Int.log 2 x := (Int.zpow_le_iff_le_log one_lt_two pos).mp normal
  rw [← nearest_of_format (inFormat_two_zpow (by omega : -1074 ≤ Int.log 2 x))]
  exact nearest_mono (two_zpow_pos _).le (zpow_log_le pos)

theorem nearest_le_mul (clear : Clear (-1022) x) : nearest x ≤ x * (1 + roundoff) := by
  rcases clear with _ | normal
  · rw [nearest_zero, zero_mul]
  · have error := (abs_le.mp (abs_nearest_sub_le normal)).2
    have leading := mul_le_mul_of_nonneg_left
      (zpow_log_le ((two_zpow_pos _).trans_le normal)) roundoff_pos.le
    linarith

/-- Rounding takes at most the relative error away. -/
theorem mul_le_nearest (clear : Clear (-1022) x) : x * (1 - roundoff) ≤ nearest x := by
  rcases clear with _ | normal
  · rw [nearest_zero, zero_mul]
  · have error := (abs_le.mp (abs_nearest_sub_le normal)).1
    have leading := mul_le_mul_of_nonneg_left
      (zpow_log_le ((two_zpow_pos _).trans_le normal)) roundoff_pos.le
    linarith

/-- The error is as small a fraction of the rounded number. -/
theorem le_nearest_mul (clear : Clear (-1022) x) : x ≤ nearest x * (1 + roundoff) := by
  rcases clear with _ | normal
  · rw [nearest_zero, zero_mul]
  · have error := (abs_le.mp (abs_nearest_sub_le normal)).1
    have leading := mul_le_mul_of_nonneg_left (two_zpow_log_le_nearest normal) roundoff_pos.le
    linarith

/-- The exact number, from below, by means of the rounded one. -/
theorem nearest_mul_le (clear : Clear (-1022) x) : nearest x * (1 - roundoff) ≤ x := by
  rcases clear with _ | normal
  · rw [nearest_zero, zero_mul]
  · have error := (abs_le.mp (abs_nearest_sub_le normal)).2
    have leading := mul_le_mul_of_nonneg_left (two_zpow_log_le_nearest normal) roundoff_pos.le
    linarith

/-! ## Sums from left to right

By induction on the list, with the sum so far as a parameter.  What has been lost is counted
as one factor for each addition.
-/

/-- A sum from left to right in which each addition is rounded. -/
noncomputable def roundedSum (start : ℝ) (vs : List ℝ) : ℝ :=
  vs.foldl (fun sum v => nearest (sum + v)) start

section Sums

variable {α : Type*} {l : List α} {f g : α → ℝ} {k : ℤ} {vs : List ℝ}

/-- Greater numbers have a greater rounded sum, since every single rounding keeps the order. -/
theorem roundedSum_mono (nonneg : ∀ a ∈ l, 0 ≤ f a) (le : ∀ a ∈ l, f a ≤ g a)
    (start : 0 ≤ x) (below : x ≤ y) :
    roundedSum x (l.map f) ≤ roundedSum y (l.map g) := by
  induction l generalizing x y with
  | nil => exact below
  | cons a rest ih =>
      obtain ⟨here, later⟩ := List.forall_mem_cons.mp nonneg
      obtain ⟨less, rest⟩ := List.forall_mem_cons.mp le
      exact ih later rest (nearest_nonneg _)
        (nearest_mono (add_nonneg start here) (add_le_add below less))

theorem roundedSum_nonneg (start : 0 ≤ x) (nonneg : ∀ v ∈ vs, 0 ≤ v) : 0 ≤ roundedSum x vs := by
  induction vs generalizing x with
  | nil => exact start
  | cons v rest ih => exact ih (nearest_nonneg _) (List.forall_mem_cons.mp nonneg).2

theorem clear_roundedSum (low : -1074 ≤ k) (start : Clear k x) (clear : ∀ v ∈ vs, Clear k v) :
    Clear k (roundedSum x vs) := by
  induction vs generalizing x with
  | nil => exact start
  | cons v rest ih =>
      obtain ⟨here, later⟩ := List.forall_mem_cons.mp clear
      exact ih ((start.add here).rounded low) later

/-- **Each addition costs one factor.**  The rest of the sum is not smaller for the factor
that has been paid already. -/
theorem roundedSum_le (start : Clear (-1022) x) (clear : ∀ v ∈ vs, Clear (-1022) v) :
    roundedSum x vs ≤ (x + vs.sum) * (1 + roundoff) ^ vs.length := by
  induction vs generalizing x with
  | nil => exact le_of_eq (by simp [roundedSum])
  | cons v rest ih =>
      obtain ⟨here, later⟩ := List.forall_mem_cons.mp clear
      have both := start.add here
      have nonneg : 0 ≤ rest.sum := List.sum_nonneg fun w mem => (later w mem).nonneg
      have factor := roundoff_pos.le
      -- the first addition is rounded, and what is left of the sum is given the same factor
      calc roundedSum (nearest (x + v)) rest
          ≤ (nearest (x + v) + rest.sum) * (1 + roundoff) ^ rest.length :=
            ih (both.rounded (by norm_num)) later
        _ ≤ ((x + v) * (1 + roundoff) + rest.sum * (1 + roundoff))
              * (1 + roundoff) ^ rest.length :=
            mul_le_mul_of_nonneg_right (add_le_add (nearest_le_mul both)
              (le_mul_of_one_le_right nonneg (by linarith))) (by positivity)
        _ = (x + (v :: rest).sum) * (1 + roundoff) ^ (v :: rest).length := by
            rw [List.sum_cons, List.length_cons, pow_succ]
            ring

/-- A rounded sum is short of the exact sum by one rounding for each number at most. -/
theorem le_roundedSum (start : Clear (-1022) x) (clear : ∀ v ∈ vs, Clear (-1022) v) :
    (x + vs.sum) * (1 - roundoff) ^ vs.length ≤ roundedSum x vs := by
  induction vs generalizing x with
  | nil => exact le_of_eq (by simp [roundedSum])
  | cons v rest ih =>
      obtain ⟨here, later⟩ := List.forall_mem_cons.mp clear
      have both := start.add here
      have nonneg : 0 ≤ rest.sum := List.sum_nonneg fun w mem => (later w mem).nonneg
      have factor := roundoff_pos.le
      have kept : 0 ≤ 1 - roundoff := sub_nonneg.mpr roundoff_lt_one.le
      -- as above, with the factor taken away
      calc (x + (v :: rest).sum) * (1 - roundoff) ^ (v :: rest).length
          = ((x + v) * (1 - roundoff) + rest.sum * (1 - roundoff))
              * (1 - roundoff) ^ rest.length := by
            rw [List.sum_cons, List.length_cons, pow_succ]
            ring
        _ ≤ (nearest (x + v) + rest.sum) * (1 - roundoff) ^ rest.length :=
            mul_le_mul_of_nonneg_right (add_le_add (mul_le_nearest both)
              (mul_le_of_le_one_right nonneg (by linarith))) (by positivity)
        _ ≤ roundedSum (nearest (x + v)) rest := ih (both.rounded (by norm_num)) later

theorem roundedSum_le_length_mul {b : ℝ} (clear : ∀ v ∈ vs, Clear (-1022) v)
    (le : ∀ v ∈ vs, v ≤ b) :
    roundedSum 0 vs ≤ vs.length * b * (1 + roundoff) ^ vs.length := by
  have values : vs.sum ≤ vs.length * b := by simpa using List.sum_le_card_nsmul vs b le
  have factor := roundoff_pos.le
  calc roundedSum 0 vs ≤ (0 + vs.sum) * (1 + roundoff) ^ vs.length := roundedSum_le .none clear
    _ = vs.sum * (1 + roundoff) ^ vs.length := by rw [zero_add]
    _ ≤ vs.length * b * (1 + roundoff) ^ vs.length :=
        mul_le_mul_of_nonneg_right values (by positivity)

theorem length_mul_le_roundedSum {b : ℝ} (clear : ∀ v ∈ vs, Clear (-1022) v)
    (le : ∀ v ∈ vs, b ≤ v) :
    vs.length * b * (1 - roundoff) ^ vs.length ≤ roundedSum 0 vs := by
  have values : vs.length * b ≤ vs.sum := by simpa using List.card_nsmul_le_sum vs b le
  have kept : 0 ≤ 1 - roundoff := sub_nonneg.mpr roundoff_lt_one.le
  calc vs.length * b * (1 - roundoff) ^ vs.length
      ≤ vs.sum * (1 - roundoff) ^ vs.length :=
        mul_le_mul_of_nonneg_right values (by positivity)
    _ = (0 + vs.sum) * (1 - roundoff) ^ vs.length := by rw [zero_add]
    _ ≤ roundedSum 0 vs := le_roundedSum .none clear

/-- **Copies of a value are summed exactly** if its multiples have a place in the format. -/
theorem roundedSum_copies {v : ℝ} (j : ℕ) (exact_ : ∀ i ≤ j + l.length, InFormat (i * v)) :
    roundedSum (j * v) (l.map fun _ => v) = (j + l.length : ℕ) * v := by
  induction l generalizing j with
  | nil => rfl
  | cons a rest ih =>
      rw [List.length_cons, ← Nat.add_assoc, Nat.add_right_comm] at exact_ ⊢
      have next : nearest (j * v + v) = (j + 1 : ℕ) * v := by
        rw [← nearest_of_format (exact_ (j + 1) (Nat.le_add_right _ _)), Nat.cast_add_one,
          add_one_mul]
      rw [← ih (j + 1) exact_, ← next]
      rfl

/-- A sum whose last place is twice an addend stands still: the tie goes back to it. -/
theorem nearest_add_le {e : ℕ} (hx : x ≤ 2 ^ (e + 53)) (hy : y ≤ 2 ^ e) (nonneg : 0 ≤ x + y) :
    nearest (x + y) ≤ 2 ^ (e + 53) := by
  have cast : ∀ i : ℕ, (2 : ℝ) ^ i = 2 ^ (i : ℤ) := fun i => (zpow_natCast 2 i).symm
  -- the greatest sum itself is rounded to the bound; the others follow by monotony
  have log : Int.log 2 ((2 : ℝ) ^ (e + 53) + 2 ^ e) = (e + 53 : ℕ) := by
    refine log_eq (by rw [cast]; simp) ?_
    rw [zpow_add_one₀ two_ne_zero, ← cast, pow_add]
    have unit : (0 : ℝ) < 2 ^ e := by positivity
    norm_num
    linarith
  have place : lastPlace ((2 : ℝ) ^ (e + 53) + 2 ^ e) = (e + 1 : ℕ) := by
    rw [lastPlace, log]
    push_cast
    omega
  have units : ((2 : ℝ) ^ (e + 53) + 2 ^ e) / 2 ^ (e + 1) = (2 ^ 52 : ℕ) + 1 / 2 := by
    rw [div_eq_iff (by positivity), pow_add, pow_succ]
    push_cast
    ring
  -- half a unit above an even number of units is rounded down
  have even : evenRound ((2 ^ 52 : ℕ) + 1 / 2) = 2 ^ 52 := by
    have floor : ⌊((2 ^ 52 : ℕ) + 1 / 2 : ℝ)⌋₊ = 2 ^ 52 :=
      (Nat.floor_eq_iff (by positivity)).mpr ⟨by linarith, by linarith⟩
    rw [evenRound, floor, add_sub_cancel_left, if_neg (lt_irrefl _), if_neg (lt_irrefl _)]
    rfl
  refine (nearest_mono nonneg (add_le_add hx hy)).trans_eq ?_
  rw [nearest, place, ← cast, units, even, pow_add, pow_succ]
  push_cast
  ring

/-- **Sums of doubles are rounded sums**, however many doubles there are. -/
theorem reads_foldl {e : ℕ} (moderate : e + 53 ≤ 900) {h : α → Float}
    (reads : ∀ a ∈ l, Reads (h a) .positive (f a)) (small : ∀ a ∈ l, f a ≤ 2 ^ e)
    {start : Float} (first : Reads start .positive x) (below : x ≤ 2 ^ (e + 53)) :
    Reads ((l.map h).foldl (· + ·) start) .positive (roundedSum x (l.map f)) ∧
      roundedSum x (l.map f) ≤ 2 ^ (e + 53) := by
  induction l generalizing x start with
  | nil => exact ⟨first, below⟩
  | cons a rest ih =>
      obtain ⟨here, later⟩ := List.forall_mem_cons.mp reads
      obtain ⟨less, rest⟩ := List.forall_mem_cons.mp small
      have sum := nearest_add_le below less (add_nonneg first.nonneg here.nonneg)
      exact ih later rest (first.add here (sum.trans_lt (Bound.two_pow moderate).small)) sum

end Sums

end CrossBench.Doubles
