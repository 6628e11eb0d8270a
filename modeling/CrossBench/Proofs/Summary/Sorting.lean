import CrossBench.Proofs.Doubles.Order

/-!
# Statistics that need the order only

Durations are converted to milliseconds first and sorted afterwards, as doubles.  Converting
keeps the order, though not strictly: above `2 ^ 53` several durations are one double.  So the
sorted list is the list of the sorted durations, converted (`sortedMillis_eq_map`), and the
least, the greatest and the middle value are those of the durations.

Sorting by bits leaves no choice, since two doubles with the same bits are one double.  A
summary is made from the sorted list alone, so it is the same for every order in which the
durations come (`sortedMillis_eq_of_perm`), although a sum of doubles depends on their order.

* `Summary.order_statistics` — the least, the greatest and the middle value.
* `Summary.summarize_of_perm` — durations in another order have the same summary.
-/

namespace CrossBench.Summary

open Doubles

/-! ## The order of bits

A total order on doubles in which only equal doubles are equal, so a list has one sorted
form.
-/

theorem bitsLe_trans (a b c : Float) (first : bitsLe a b = true) (second : bitsLe b c = true) :
    bitsLe a c = true :=
  decide_eq_true (UInt64.le_trans (of_decide_eq_true first) (of_decide_eq_true second))

/-- Of two doubles one is not above the other, as bits. -/
theorem bitsLe_total (a b : Float) : (bitsLe a b || bitsLe b a) = true := by
  rw [Bool.or_eq_true, bitsLe, bitsLe, decide_eq_true_iff, decide_eq_true_iff]
  exact UInt64.le_total _ _

/-- Sorting by bits leaves no choice: a double is its bits. -/
theorem bitsLe_antisymm {a b : Float} (le : bitsLe a b = true) (ge : bitsLe b a = true) :
    a = b := by
  have same := UInt64.le_antisymm (of_decide_eq_true le) (of_decide_eq_true ge)
  rw [← Float.ofBits_toBits a, same, Float.ofBits_toBits]

theorem pairwise_sortedMillis (samples : List UInt64) :
    (sortedMillis samples).Pairwise (bitsLe · ·) :=
  List.pairwise_mergeSort bitsLe_trans bitsLe_total _

/-- An ascending list of the converted values is the sorted one. -/
theorem sortedMillis_eq {samples : List UInt64} {xs : List Float}
    (ascending : xs.Pairwise (bitsLe · ·)) (perm : xs.Perm (samples.map millis)) :
    sortedMillis samples = xs :=
  List.Perm.eq_of_pairwise (fun _ _ _ _ => bitsLe_antisymm) (pairwise_sortedMillis samples)
    ascending ((List.mergeSort_perm _ _).trans perm.symm)

/-- The order of the samples does not matter to them: doubles with the same bits are the same. -/
theorem sortedMillis_eq_of_perm {samples samples' : List UInt64}
    (perm : samples.Perm samples') : sortedMillis samples = sortedMillis samples' :=
  sortedMillis_eq (pairwise_sortedMillis samples')
    ((List.mergeSort_perm _ _).trans (perm.symm.map millis))

/-! ## Conversion to milliseconds

Two roundings that keep the order, and so may be exchanged with sorting.
-/

/-- The milliseconds of a duration: the duration is rounded, and so is the quotient. -/
noncomputable def exactMillis (ns : UInt64) : ℝ := nearest (nearest ns.toNat / 1000000)

/-- No duration in milliseconds exceeds `2 ^ 45`. -/
theorem exactMillis_le (ns : UInt64) : exactMillis ns ≤ 2 ^ 45 := by
  refine nearest_le_of_format (div_nonneg (nearest_nonneg _) (by norm_num)) ?_
    (Bound.two_pow (by norm_num)).inFormat
  calc nearest ns.toNat / 1000000 ≤ 2 ^ 64 / 1000000 :=
        div_le_div_of_nonneg_right (nearest_toNat_le ns) (by norm_num)
    _ ≤ 2 ^ 45 := by norm_num

theorem exactMillis_mono {ns ns' : UInt64} (le : ns ≤ ns') : exactMillis ns ≤ exactMillis ns' := by
  have whole : nearest ns.toNat ≤ nearest ns'.toNat :=
    nearest_mono ns.toNat.cast_nonneg (Nat.cast_le.mpr (UInt64.le_iff_toNat_le.mp le))
  exact nearest_mono (div_nonneg (nearest_nonneg _) (by norm_num))
    (div_le_div_of_nonneg_right whole (by norm_num))

theorem reads_ofCount {n : ℕ} (few : n < 2 ^ 53) : Reads (ofCount n) .positive n :=
  reads_toFloat few

/-- **A duration in milliseconds** is rounded twice, as a count and as a quotient. -/
theorem reads_millis (ns : UInt64) : Reads (millis ns) .positive (exactMillis ns) := by
  have million : Reads (ofCount 1000000) .positive 1000000 := by
    exact_mod_cast reads_ofCount (n := 1000000) (by norm_num)
  exact (reads_nearest_toNat ns).div million (by norm_num)
    ((exactMillis_le ns).trans_lt (Bound.two_pow (by norm_num)).small)

theorem bitsLe_millis {ns ns' : UInt64} (le : ns ≤ ns') :
    bitsLe (millis ns) (millis ns') = true :=
  decide_eq_true ((toBits_le_iff_of_reads (reads_millis ns) (reads_millis ns')).mpr
    (exactMillis_mono le))

theorem millis_zero : millis 0 = 0 := by
  have none : exactMillis 0 = 0 := by simp [exactMillis, nearest_zero]
  exact eq_of_reads (reads_millis 0) (none ▸ reads_zero)

variable {samples sorted : List UInt64}

/-- **The sorted list is the list of the sorted durations**, converted. -/
theorem sortedMillis_eq_map (perm : sorted.Perm samples) (ascending : sorted.Pairwise (· ≤ ·)) :
    sortedMillis samples = sorted.map millis :=
  sortedMillis_eq (ascending.map millis fun _ _ => bitsLe_millis) (perm.map millis)

/-- Converted durations have no minus sign, so their bits are ordered like all doubles are. -/
theorem sortedMillis_eq_mergeSort_totalPlace (samples : List UInt64) :
    sortedMillis samples = (samples.map millis).mergeSort fun a b =>
      decide (totalPlace a ≤ totalPlace b) := by
  have agree : ∀ a ∈ samples.map millis, ∀ b ∈ samples.map millis,
      bitsLe a b = decide (totalPlace (id a) ≤ totalPlace (id b)) := by
    simp only [List.forall_mem_map]
    intro ns _ ns' _
    rw [id, id, totalPlace_of_reads (reads_millis ns), totalPlace_of_reads (reads_millis ns'),
      bitsLe, decide_eq_decide, Nat.cast_le, UInt64.le_iff_toNat_le]
  have sorted := List.map_mergeSort (s := fun a b => decide (totalPlace a ≤ totalPlace b)) agree
  rwa [List.map_id, List.map_id] at sorted

/-! ## What a summary holds

The fields of a summary by the sorted list.
-/

theorem sortedMillis_eq_nil_iff : sortedMillis samples = [] ↔ samples = [] := by
  rw [← List.length_eq_zero_iff, ← List.length_eq_zero_iff, sortedMillis, List.length_mergeSort,
    List.length_map]

/-- A summary is made of the first, the last and the middle of the sorted list, and of its
sums. -/
theorem summarize_eq (tag : Tag) (any : samples ≠ []) :
    let xs := sortedMillis samples
    summarize tag samples = some {
      tag
      min := xs.getD 0 0
      max := xs.getD (samples.length - 1) 0
      mean := meanOf xs
      median := medianOf xs
      stdev := stdevOf (meanOf xs) xs
      samples := samples.length } := by
  have length : (sortedMillis samples).length = samples.length := by
    rw [sortedMillis, List.length_mergeSort, List.length_map]
  have some := mt sortedMillis_eq_nil_iff.mp any
  unfold summarize
  generalize sortedMillis samples = xs at length some
  cases xs with
  | nil => exact absurd rfl some
  | cons first rest =>
      -- the last element is also the one at the last index
      have last : rest.getLastD first = (first :: rest).getD (samples.length - 1) 0 := by
        rw [List.getD_eq_getElem?_getD, ← length, ← List.getLast?_eq_getElem?, List.getLast?_cons,
          Option.getD_some, List.getLastD_eq_getLast?]
      simp only [last, length]
      rfl

/-- **There is a summary unless there are no samples.** -/
theorem summarize_eq_none_iff (tag : Tag) : summarize tag samples = none ↔ samples = [] := by
  refine ⟨fun none => ?_, fun empty => ?_⟩
  · by_contra any
    cases none.symm.trans (summarize_eq tag any)
  · unfold summarize
    rw [sortedMillis_eq_nil_iff.mpr empty]

/-! ## The least, the greatest and the middle value

These three pick values of the list, and only the middle one may have to compute: half of a
sum, if there are two in the middle.
-/

/-- Converting and picking a sample can be exchanged. -/
theorem getD_map_millis (sorted : List UInt64) (i : ℕ) :
    (sorted.map millis).getD i 0 = millis (sorted.getD i 0) := by
  rw [← millis_zero, List.getD_map]

/-- Of samples in ascending order a later one is no shorter. -/
theorem getD_le_getD (ascending : sorted.Pairwise (· ≤ ·)) {i j : ℕ} (le : i ≤ j)
    (lt : j < sorted.length) : sorted.getD i 0 ≤ sorted.getD j 0 := by
  rcases le.eq_or_lt with rfl | less
  · exact UInt64.le_refl _
  · rw [List.getD_eq_getElem _ _ lt, List.getD_eq_getElem _ _ (less.trans lt)]
    exact List.pairwise_iff_getElem.mp ascending i j (less.trans lt) lt less

/-- The middle of a sorted list with an odd number of values is one of them. -/
theorem medianOf_odd (odd : sorted.length % 2 = 1) :
    medianOf (sorted.map millis) = millis (sorted.getD (sorted.length / 2) 0) := by
  have some : ¬ sorted.length % 2 = 0 := by omega
  simp only [medianOf, List.length_map, if_neg some, getD_map_millis]

/-- The middle of a sorted list lies between the last value of its lower half and the first
one of its upper half; with an odd number of values these are one. -/
theorem reads_medianOf (ascending : sorted.Pairwise (· ≤ ·)) (any : 0 < sorted.length) :
    ∃ middle, Reads (medianOf (sorted.map millis)) .positive middle ∧
      exactMillis (sorted.getD ((sorted.length - 1) / 2) 0) ≤ middle ∧
      middle ≤ exactMillis (sorted.getD (sorted.length / 2) 0) := by
  rcases Nat.mod_two_eq_zero_or_one sorted.length with even | odd
  · have lower : (sorted.length - 1) / 2 = sorted.length / 2 - 1 := by omega
    -- an even number of values: half of the sum of the two in the middle
    have le : exactMillis (sorted.getD (sorted.length / 2 - 1) 0)
        ≤ exactMillis (sorted.getD (sorted.length / 2) 0) :=
      exactMillis_mono (getD_le_getD ascending (by omega) (by omega))
    have two : Reads (ofCount 2) .positive 2 := by
      exact_mod_cast reads_ofCount (n := 2) (by norm_num)
    simp only [medianOf, List.length_map, if_pos even, getD_map_millis, lower]
    refine reads_half (reads_millis _) (reads_millis _) two le ?_
    calc 2 * exactMillis (sorted.getD (sorted.length / 2) 0) ≤ 2 * 2 ^ 45 :=
          mul_le_mul_of_nonneg_left (exactMillis_le _) zero_le_two
      _ = 2 ^ 46 := by norm_num
      _ < 2 ^ (1024 : ℤ) := (Bound.two_pow (by norm_num)).small
  · have same : (sorted.length - 1) / 2 = sorted.length / 2 := by omega
    rw [medianOf_odd odd, same]
    exact ⟨_, reads_millis _, le_rfl, le_rfl⟩

/-- **The least, the greatest and the middle value.**  Let `c k` be the `k`-th duration in
ascending order, converted by two rounded operations.  The least value is the first, the
greatest the last.  The middle value of an odd number is the one in the middle, and that of
an even number lies between the two in the middle, so it is always in the range. -/
theorem order_statistics (tag : Tag) (any : samples ≠ []) (perm : sorted.Perm samples)
    (ascending : sorted.Pairwise (· ≤ ·)) :
    let n := samples.length
    let c (k : ℕ) : Float := millis (sorted.getD (k - 1) 0)
    (∀ ns, Reads (millis ns) .positive (nearest (nearest ns.toNat / 1000000))) ∧
      ∃ s, summarize tag samples = some s ∧ s.samples = n ∧ s.min = c 1 ∧ s.max = c n ∧
        (n % 2 = 1 → s.median = c ((n + 1) / 2)) ∧
        (n % 2 = 0 → c (n / 2) ≤ s.median ∧ s.median ≤ c (n / 2 + 1)) ∧
        s.min ≤ s.median ∧ s.median ≤ s.max := by
  intro n c
  have length : sorted.length = n := perm.length_eq
  have positive : 0 < n := List.length_pos_of_ne_nil any
  have list := sortedMillis_eq_map perm ascending
  obtain ⟨middle, reads, above, below⟩ := reads_medianOf ascending (length ▸ positive)
  have summary := summarize_eq tag any
  simp only [list, getD_map_millis] at summary
  refine ⟨reads_millis, _, summary, rfl, rfl, rfl, fun odd => ?_, fun even => ⟨?_, ?_⟩, ?_, ?_⟩
  · have place : sorted.length / 2 = (n + 1) / 2 - 1 := by omega
    -- ranks count from one, indices from zero
    exact (medianOf_odd (length ▸ odd)).trans (by rw [place])
  · have place : (sorted.length - 1) / 2 = n / 2 - 1 := by omega
    exact (le_iff_of_reads (reads_millis _) reads).mpr (place ▸ above)
  · have place : sorted.length / 2 = n / 2 + 1 - 1 := by omega
    exact (le_iff_of_reads reads (reads_millis _)).mpr (place ▸ below)
  · have first := exactMillis_mono (getD_le_getD ascending (Nat.zero_le ((sorted.length - 1) / 2))
      (by omega))
    exact (le_iff_of_reads (reads_millis _) reads).mpr (first.trans above)
  · have last := exactMillis_mono (getD_le_getD ascending
      (i := sorted.length / 2) (j := n - 1) (by omega) (by omega))
    exact (le_iff_of_reads reads (reads_millis _)).mpr (below.trans last)

/-- Four durations, two of which are one double. -/
theorem order_statistics_of_four :
    let tag := Tag.ofExtension "awk"
    let samples : List UInt64 := [9007199254740993, 5000000, 9007199254740992, 1000000]
    let sorted : List UInt64 := [1000000, 5000000, 9007199254740992, 9007199254740993]
    (samples ≠ [] ∧ sorted.Perm samples ∧ sorted.Pairwise (· ≤ ·)) ∧
      ∃ s, summarize tag samples = some s ∧ s.samples = 4 ∧ s.min = millis 1000000 ∧
        s.max = millis 9007199254740993 ∧ millis 5000000 ≤ s.median ∧
        s.median ≤ millis 9007199254740992 ∧ s.min ≤ s.median ∧ s.median ≤ s.max := by
  dsimp only
  have perm : [1000000, 5000000, 9007199254740992, 9007199254740993].Perm
      ([9007199254740993, 5000000, 9007199254740992, 1000000] : List UInt64) := by decide
  have ascending : List.Pairwise (· ≤ ·)
      ([1000000, 5000000, 9007199254740992, 9007199254740993] : List UInt64) := by decide
  obtain ⟨-, s, found, count, least, greatest, -, even, middle⟩ :=
    order_statistics (.ofExtension "awk") (List.cons_ne_nil _ _) perm ascending
  obtain ⟨above, below⟩ := even rfl
  exact ⟨⟨List.cons_ne_nil _ _, perm, ascending⟩, s, found, count, least, greatest, above,
    below, middle⟩

/-! ## The order of the durations

Everything is computed from the sorted list, sums included.
-/

/-- **Durations in another order have the same summary**, bit for bit, and there is none
exactly if there are no durations.  A sum of doubles depends on their order, but the list that
is summed is sorted in the total order of doubles, and this leaves no choice. -/
theorem summarize_of_perm (tag : Tag) {samples samples' : List UInt64}
    (perm : samples.Perm samples') :
    summarize tag samples = summarize tag samples' ∧
      (summarize tag samples = none ↔ samples = []) ∧
      sortedMillis samples = (samples.map millis).mergeSort fun a b =>
        decide (totalPlace a ≤ totalPlace b) := by
  refine ⟨?_, summarize_eq_none_iff tag, sortedMillis_eq_mergeSort_totalPlace samples⟩
  unfold summarize
  rw [sortedMillis_eq_of_perm perm]

theorem summarize_of_two_orders :
    let tag := Tag.ofExtension "awk"
    let samples : List UInt64 := [9007199254740993, 3, 9007199254740992, 100000]
    let samples' : List UInt64 := [9007199254740992, 100000, 9007199254740993, 3]
    samples.Perm samples' ∧ summarize tag samples = summarize tag samples' ∧
      summarize tag samples ≠ none := by
  intro tag samples samples'
  have perm : samples.Perm samples' := by decide
  obtain ⟨same, none, -⟩ := summarize_of_perm tag perm
  exact ⟨perm, same, mt none.mp (List.cons_ne_nil _ _)⟩

end CrossBench.Summary
