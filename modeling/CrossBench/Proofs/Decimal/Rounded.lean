import CrossBench.Proofs.Doubles.Error
import CrossBench.Proofs.Json.Numeral

/-!
# Doubles in print

A double is printed as a whole number of units of its last place.  Of all whole numbers of
units it is the one nearest to the exact value, and where two are equally near, it is the
even one.  `Rounds` says so without saying how the number is found, and this is enough for
the two facts that a reader relies on:

* `Rounds.abs_sub_le` — what is printed is at most half a unit away from the exact value;
* `Rounds.mono` — a greater number is never printed as a smaller one.

The arithmetic on mantissa and exponent finds that number of units (`rounds_units`), and a
reader of the text gets it back (`unsigned?_pointed`).  So of a finite double, whatever its
sign and its size, the nearest decimal is shown (`exists_rounds`), and the order of any two
doubles is the order of what is shown for them (`ordered_shown?`).
-/

namespace CrossBench

open Doubles

namespace Decimal

/-! ## The nearest number of units

Nothing here is about doubles.  A tie goes to the even number of units, so two numbers on
the two sides of one tie cannot be rounded past each other.
-/

/-- Of the multiples of `10 ^ -places`, the one with so many units is nearest to a number, and
if there is another that is equally near, it is the one that ends with an even digit. -/
structure Rounds (places : ℕ) (v : ℝ) (units : ℤ) : Prop where
  nearest : ∀ k : ℤ, |v - units / 10 ^ places| ≤ |v - k / 10 ^ places|
  even_of_tie : ∀ k : ℤ, k ≠ units →
    |v - k / 10 ^ places| = |v - units / 10 ^ places| → Even units

section Rounds

variable {places : ℕ} {v w : ℝ} {units units' : ℤ}

/-- Distances are compared in units. -/
theorem abs_sub_units (places : ℕ) (v : ℝ) (k : ℤ) :
    |v - k / 10 ^ places| = |v * 10 ^ places - k| / 10 ^ places := by
  have step : (0 : ℝ) < 10 ^ places := by positivity
  rw [eq_div_iff step.ne', ← abs_of_pos step, ← abs_mul, abs_of_pos step, sub_mul,
    div_mul_cancel₀ _ step.ne']

theorem abs_sub_units_le_iff {places : ℕ} {v : ℝ} {k l : ℤ} :
    |v - k / 10 ^ places| ≤ |v - l / 10 ^ places| ↔
      |v * 10 ^ places - k| ≤ |v * 10 ^ places - l| := by
  rw [abs_sub_units, abs_sub_units, div_le_div_iff_of_pos_right (by positivity)]

/-- Two numbers of units are at least one unit apart, so within half a unit is nearest. -/
theorem Rounds.of_half (near : |v * 10 ^ places - units| ≤ 1 / 2)
    (even : |v * 10 ^ places - units| = 1 / 2 → Even units) : Rounds places v units := by
  -- whoever is one unit away cannot be within half a unit as well
  have apart {k : ℤ} (other : k ≠ units) :
      1 ≤ |v * 10 ^ places - units| + |v * 10 ^ places - k| := by
    have gap : (1 : ℝ) ≤ |(units - k : ℝ)| := by
      exact_mod_cast Int.one_le_abs (sub_ne_zero.mpr other.symm)
    have detour := abs_sub_le (units : ℝ) (v * 10 ^ places) k
    rw [abs_sub_comm (units : ℝ) (v * 10 ^ places)] at detour
    linarith
  constructor
  · intro k
    rw [abs_sub_units_le_iff]
    by_cases same : k = units
    · rw [same]
    · linarith [apart same]
  · intro k other tie
    have equal : |v * 10 ^ places - k| = |v * 10 ^ places - units| :=
      le_antisymm (abs_sub_units_le_iff.mp tie.le) (abs_sub_units_le_iff.mp tie.ge)
    exact even (by linarith [apart other])

/-- **Half a unit** is the most that rounding to the nearest multiple can cost. -/
theorem Rounds.abs_sub_le (h : Rounds places v units) :
    |v - units / 10 ^ places| ≤ 1 / 2 / 10 ^ places := by
  have step : (0 : ℝ) < 10 ^ places := by positivity
  refine (h.nearest (round (v * 10 ^ places))).trans ?_
  rw [abs_sub_units, div_le_div_iff_of_pos_right step]
  exact abs_sub_round _

theorem Rounds.neg (h : Rounds places v units) : Rounds places (-v) (-units) := by
  have mirror (k : ℤ) : |-v - (k : ℤ) / 10 ^ places| = |v - ((-k : ℤ) : ℝ) / 10 ^ places| := by
    rw [← abs_neg]
    push_cast
    congr 1
    ring
  constructor
  · intro k
    rw [mirror, mirror, neg_neg]
    exact h.nearest (-k)
  · intro k other tie
    rw [mirror, mirror, neg_neg] at tie
    exact even_neg.mpr (h.even_of_tie (-k) (by omega) tie)

/-- The greater of two numbers is nearer only above the middle. -/
theorem middle_le_of_abs_sub_le {q m n : ℝ} (less : n < m) (near : |q - m| ≤ |q - n|) :
    (m + n) / 2 ≤ q := by
  by_contra! below
  have far : |q - n| < m - q := abs_lt.mpr ⟨by linarith, by linarith⟩
  linarith [neg_le_abs (q - m)]

/-- The less of two numbers is nearer only below the middle. -/
theorem le_middle_of_abs_sub_le {q m n : ℝ} (less : n < m) (near : |q - n| ≤ |q - m|) :
    q ≤ (m + n) / 2 := by
  by_contra! above
  have far : |q - m| < q - n := abs_lt.mpr ⟨by linarith, by linarith⟩
  linarith [le_abs_self (q - n)]

/-- **Rounding keeps the order.**  If the greater of two numbers had fewer units, both would be
in the middle between these units and those, and of two neighbours one is odd. -/
theorem Rounds.mono (h : Rounds places v units) (h' : Rounds places w units') (le : v ≤ w) :
    units ≤ units' := by
  by_contra! less
  have gap : (units' : ℝ) < units := Int.cast_lt.mpr less
  have step : (0 : ℝ) < 10 ^ places := by positivity
  have scaled : v * 10 ^ places ≤ w * 10 ^ places := mul_le_mul_of_nonneg_right le step.le
  have above := middle_le_of_abs_sub_le gap (abs_sub_units_le_iff.mp (h.nearest units'))
  have below := le_middle_of_abs_sub_le gap (abs_sub_units_le_iff.mp (h'.nearest units))
  -- turned around, both numbers would be in the middle, and so the same
  obtain rfl : v = w := mul_right_cancel₀ step.ne' (by linarith)
  have tie : |v - units' / 10 ^ places| = |v - units / 10 ^ places| :=
    le_antisymm (h'.nearest units) (h.nearest units')
  have even := h.even_of_tie units' less.ne tie
  have even' := h'.even_of_tie units less.ne' tie.symm
  have half := h'.abs_sub_le
  rw [abs_sub_units, div_le_div_iff_of_pos_right step] at half
  -- and then both of two neighbours would be even
  have neighbours : (units : ℝ) ≤ units' + 1 := by
    linarith [le_abs_self (v * 10 ^ places - units')]
  have neighbours : units ≤ units' + 1 := by exact_mod_cast neighbours
  rw [Int.even_iff] at even even'
  omega

end Rounds

/-! ## The number of units that is printed

The units are computed as a quotient of natural numbers, multiplied out so that neither side
has a negative power.  The two factors cancel, and what is left is the rounding of a real
number.
-/

theorem roundDiv_eq_evenRound (num : ℕ) {den : ℕ} (pos : 0 < den) :
    roundDiv num den = evenRound (num / den) := by
  have dpos : (0 : ℝ) < den := Nat.cast_pos.mpr pos
  have floor : ⌊(num : ℝ) / den⌋₊ = num / den := Nat.floor_div_eq_div num den
  -- the remainder decides, compared with half the divisor
  have rest : (num : ℝ) / den - (num / den : ℕ) = (num % den : ℕ) / den := by
    have parted : (num : ℝ) = den * (num / den : ℕ) + (num % den : ℕ) := by
      exact_mod_cast (Nat.div_add_mod num den).symm
    rw [eq_div_iff dpos.ne', sub_mul, div_mul_cancel₀ _ dpos.ne']
    linarith
  have below : ((num % den : ℕ) : ℝ) / den < 1 / 2 ↔ 2 * (num % den) < den := by
    rw [div_lt_div_iff₀ dpos two_pos, one_mul, mul_comm]
    exact_mod_cast Iff.rfl
  have above : 1 / 2 < ((num % den : ℕ) : ℝ) / den ↔ den < 2 * (num % den) := by
    rw [div_lt_div_iff₀ two_pos dpos, one_mul, mul_comm]
    exact_mod_cast Iff.rfl
  unfold roundDiv evenRound
  rw [floor, rest]
  simp only [below, above]
  split_ifs <;> omega

/-- A power is the quotient of the factors on the two sides of a comparison. -/
theorem powerAbove_div (b : ℕ) (e : ℤ) :
    (powerAbove b e : ℝ) / powerAbove b (-e) = (b : ℝ) ^ e := by
  unfold powerAbove
  simp only [Nat.pow_eq]
  push_cast
  rcases le_total 0 e with nonneg | nonpos
  · rw [show (-e).toNat = 0 by omega, pow_zero, div_one, ← zpow_natCast,
      Int.toNat_of_nonneg nonneg]
  · rw [show e.toNat = 0 by omega, pow_zero, one_div, ← zpow_natCast,
      Int.toNat_of_nonneg (by omega), zpow_neg, inv_inv]

/-- A power of two as such a quotient. -/
theorem two_zpow_eq_div (q : ℤ) : (2 : ℝ) ^ q = powerAbove 2 q / powerAbove 2 (-q) := by
  exact_mod_cast (powerAbove_div 2 q).symm

/-- The arithmetic on mantissa and exponent rounds the exact number of units. -/
theorem units_eq_evenRound (places m : ℕ) (q : ℤ) :
    units places m q = evenRound (m * 2 ^ q * 10 ^ places) := by
  rw [units, roundDiv_eq_evenRound _ (powerAbove_pos two_pos (-q)), two_zpow_eq_div]
  congr 1
  simp only [Nat.pow_eq]
  push_cast
  ring

/-- **A double is printed as the nearest multiple** of a unit of its last place. -/
theorem rounds_units (places m : ℕ) (q : ℤ) : Rounds places (m * 2 ^ q) (units places m q) := by
  have nonneg : 0 ≤ (m * 2 ^ q * 10 ^ places : ℝ) := by positivity
  rw [units_eq_evenRound]
  apply Rounds.of_half
  · rw [abs_sub_comm]
    exact_mod_cast abs_evenRound_sub_le nonneg
  · rw [abs_sub_comm]
    intro tie
    exact_mod_cast even_evenRound nonneg (by exact_mod_cast tie)

/-! ## Reading what is printed

A reader of its own, so that what is said about a printed number does not rest on the
printer: digits, a point, and the words for what is infinite or no number.
-/

/-- A number in print. -/
inductive Numeral where
  | infinite (negative : Bool)
  | decimal (negative : Bool) (magnitude : Scientific)
  deriving DecidableEq

/-- A text as a number: a decimal or the word for what is infinite, with a minus sign or
without. -/
def Numeral.read? (text : String) : Option Numeral :=
  match text.toList with
  | '-' :: cs => unsigned? true cs
  | cs => unsigned? false cs
where
  unsigned? (negative : Bool) (cs : List Char) : Option Numeral :=
    if cs = ['i', 'n', 'f'] then some (.infinite negative)
    else (Json.unsigned? cs).map (.decimal negative)

example : Numeral.read? "-12.50" = some (.decimal true ⟨1250, -2⟩) := by decide +kernel
example : Numeral.read? "inf" = some (.infinite false) := by decide +kernel
example : Numeral.read? "NaN" = none := by decide +kernel

/-- The number that a numeral stands for. -/
noncomputable def Numeral.value : Numeral → EReal
  | .infinite false => ⊤
  | .infinite true => ⊥
  | .decimal false d => (d.digits * 10 ^ d.exponent : ℝ)
  | .decimal true d => (-(d.digits * 10 ^ d.exponent) : ℝ)

theorem length_toDigits_le {n places : ℕ} (pos : 0 < places) (few : n < 10 ^ places) :
    (Nat.toDigits 10 n).length ≤ places :=
  (Nat.length_toDigits_le_iff (by decide) pos).mpr few

/-- A number of units is read as it was written, with so many places. -/
theorem unsigned?_pointed (places n : ℕ) :
    Json.unsigned? (pointed places n).toList = some ⟨n, -places⟩ := by
  unfold pointed
  simp only [Nat.pow_eq]
  rcases Nat.eq_zero_or_pos places with rfl | pos
  · rw [if_pos rfl, pow_zero, Nat.div_one, String.append_empty, Nat.repr_eq_ofList_toDigits,
      String.toList_ofList]
    exact Json.unsigned?_toDigits n
  · rw [if_neg pos.ne', Nat.repr_eq_ofList_toDigits]
    have short := length_toDigits_le pos (Nat.mod_lt n (by positivity : 0 < 10 ^ places))
    generalize rest : Nat.toDigits 10 (n % 10 ^ places) = digits at short
    -- the digits behind the point are filled up with zeros to their full length
    generalize zeros : List.replicate (places - digits.length) '0' = padding
    have right : ∀ c ∈ padding ++ digits, c.isDigit = true :=
      List.forall_mem_append.mpr ⟨zeros ▸ Json.isDigit_zeros _, rest ▸ Json.isDigit_toDigits _⟩
    have length : (padding ++ digits).length = places := by
      rw [List.length_append, ← zeros, List.length_replicate, Nat.sub_add_cancel short]
    have some : padding ++ digits ≠ [] := List.ne_nil_of_length_pos (length ▸ pos)
    -- what is read is quotient and remainder put back together
    have value : Nat.ofDigitChars 10 (Nat.toDigits 10 (n / 10 ^ places) ++ (padding ++ digits)) 0
        = n := by
      rw [Nat.ofDigitChars_append, Nat.ofDigitChars_ten_toDigits,
        Nat.ofDigitChars_eq_ofDigitChars_zero, length, ← zeros,
        Json.ofDigitChars_zeros_append, ← rest, Nat.ofDigitChars_ten_toDigits]
      exact Nat.div_add_mod n (10 ^ places)
    have read := Json.unsigned?_notation (Nat.toDigits 10 (n / 10 ^ places)) _ []
      (Json.isDigit_toDigits _) (Json.isWhole_toDigits _) right rfl
    rw [if_neg some, List.append_nil, value, length, Int.zero_sub] at read
    simpa using read

/-- A text without a sign is read as its decimal, and with a minus sign in front as the opposite
one. -/
theorem Numeral.read?_of_unsigned {text : String} {d : Scientific}
    (found : Json.unsigned? text.toList = some d) :
    read? text = some (.decimal false d) ∧ read? ("-" ++ text) = some (.decimal true d) := by
  have word : text.toList ≠ ['i', 'n', 'f'] := by
    intro word
    rw [word] at found
    cases found
  have read (negative : Bool) :
      read?.unsigned? negative text.toList = some (.decimal negative d) := by
    rw [read?.unsigned?, if_neg word, found, Option.map_some]
  constructor
  · unfold read?
    split
    next minus =>
      -- no number without a sign begins with one
      rw [minus] at found
      cases found
    next => exact read false
  · have minus : ("-" ++ text).toList = '-' :: text.toList := by simp
    unfold read?
    rw [minus]
    exact read true

/-- The number that a text shows, if it shows one. -/
noncomputable def shown? (text : String) : Option EReal := (Numeral.read? text).map Numeral.value

/-- What is no number shows nothing, and the infinite ones show the ends of the line. -/
theorem shown?_words :
    shown? "NaN" = none ∧ shown? "inf" = some ⊤ ∧ shown? "-inf" = some ⊥ := by
  have read : Numeral.read? "NaN" = none ∧ Numeral.read? "inf" = some (.infinite false) ∧
      Numeral.read? "-inf" = some (.infinite true) := by decide +kernel
  obtain ⟨nan, above, below⟩ := read
  simp only [shown?, nan, above, below]
  exact ⟨rfl, rfl, rfl⟩

/-! ## Doubles in print

The sign, the exact value and the words come together here.
-/

variable {x y : Float}

theorem ofFloat_of_reads {s : Float.Model.UnpackedFloat.Sign} {v : ℝ} (h : Reads x s v) :
    ∃ m q, Reading.ofFloat x = .finite (isMinus s) m q ∧ v = m * 2 ^ q := by
  rw [ofFloat_eq_readingOf]
  change Is x.toModel.unpack s v at h
  cases found : x.toModel.unpack with
  | zero =>
      rw [found] at h
      obtain ⟨rfl, rfl⟩ := h
      exact ⟨0, -1074, rfl, by simp⟩
  | finite =>
      rw [found] at h
      obtain ⟨rfl, -, rfl⟩ := h
      exact ⟨_, _, rfl, rfl⟩
  | infinity | notANumber =>
      rw [found] at h
      exact h.elim

theorem reads_of_ofFloat {negative : Bool} {m : ℕ} {q : ℤ}
    (found : Reading.ofFloat x = .finite negative m q) : ∃ s v, Reads x s v := by
  rw [ofFloat_eq_readingOf] at found
  refine exists_reads_iff.mpr ?_
  change x.toModel.unpack.isFinite = true
  cases unpacked : x.toModel.unpack with
  | zero | finite => rfl
  | infinity | notANumber =>
      rw [unpacked] at found
      cases found

/-- **A finite double in print** is a decimal with its sign and the given number of places,
and of all of these it is the nearest one to the exact value, ties going to the even last
digit. -/
theorem exists_rounds {s : Float.Model.UnpackedFloat.Sign} {v : ℝ} (reads : Reads x s v)
    (places : ℕ) :
    ∃ units : ℤ,
      Numeral.read? (fixed places x) = some (.decimal (isMinus s) ⟨units.natAbs, -places⟩) ∧
        shown? (fixed places x) = some ((units / 10 ^ places : ℝ) : EReal) ∧
          Rounds places (signed s v) units := by
  obtain ⟨m, q, found, rfl⟩ := ofFloat_of_reads reads
  have rounds := rounds_units places m q
  have read := Numeral.read?_of_unsigned (unsigned?_pointed places (units places m q))
  have scaled (n : ℕ) : (n : ℝ) * 10 ^ (-places : ℤ) = n / 10 ^ places := by
    rw [zpow_neg, zpow_natCast, div_eq_mul_inv]
  unfold shown? fixed
  rw [found]
  -- the sign stands before the text and before the units alike
  cases s with
  | negative =>
      refine ⟨-(units places m q : ℤ), ?_, ?_, rounds.neg⟩
      · rw [Int.natAbs_neg, Int.natAbs_natCast]
        exact read.2
      · refine (congrArg (Option.map Numeral.value) read.2).trans ?_
        rw [Option.map_some, Numeral.value, scaled, Int.cast_neg, Int.cast_natCast, neg_div]
  | positive =>
      refine ⟨units places m q, ?_, ?_, rounds⟩
      · rw [Int.natAbs_natCast]
        exact read.1
      · refine (congrArg (Option.map Numeral.value) read.1).trans ?_
        rw [Option.map_some, Numeral.value, scaled, Int.cast_natCast]

/-- What is shown in the place of a value: an infinity in the place of itself, and in the
place of a number the nearest multiple. -/
inductive Rounded (places : ℕ) : EReal → EReal → Prop
  | bot : Rounded places ⊥ ⊥
  | top : Rounded places ⊤ ⊤
  | real {v : ℝ} {units : ℤ} : Rounds places v units →
      Rounded places v ((units / 10 ^ places : ℝ) : EReal)

/-- **What is shown keeps the order**, the ends of the line included. -/
theorem Rounded.mono {places : ℕ} {v v' w w' : EReal} (h : Rounded places v v')
    (h' : Rounded places w w') (le : v ≤ w) : v' ≤ w' := by
  cases h with
  | bot => exact bot_le
  | top =>
      cases h' with
      | bot => exact le
      | top => exact le_rfl
      | real => exact absurd le (EReal.coe_lt_top _).not_ge
  -- only between two real numbers is there something to round
  | real rounds =>
      cases h' with
      | bot => exact absurd le (EReal.bot_lt_coe _).not_ge
      | top => exact le_top
      | real rounds' =>
          have units := rounds.mono rounds' (EReal.coe_le_coe_iff.mp le)
          refine EReal.coe_le_coe_iff.mpr (div_le_div_of_nonneg_right ?_ (by positivity))
          exact Int.cast_le.mpr units

/-- **Every double in print** shows what it stands for, rounded, and nothing if it stands for
nothing. -/
theorem rel_shown? (places : ℕ) (x : Float) :
    Option.Rel (Rounded places) (value? x) (shown? (fixed places x)) := by
  by_cases finite : x.isFinite = true
  · obtain ⟨s, v, reads⟩ := exists_reads_iff.mpr finite
    obtain ⟨units, -, shown, rounds⟩ := exists_rounds reads places
    rw [reads.value?_eq, shown]
    exact .some (.real rounds)
  · have opened := ofFloat_eq_readingOf x
    -- what is not finite is written as a word
    change ¬ x.toModel.unpack.isFinite = true at finite
    obtain ⟨nan, above, below⟩ := shown?_words
    unfold value? fixed
    rw [opened]
    cases found : x.toModel.unpack with
    | notANumber =>
        change Option.Rel _ none (shown? "NaN")
        rw [nan]
        exact .none
    | infinity s =>
        cases s with
        | negative =>
            change Option.Rel _ (some ⊥) (shown? "-inf")
            rw [below]
            exact .some .bot
        | positive =>
            change Option.Rel _ (some ⊤) (shown? "inf")
            rw [above]
            exact .some .top
    | zero | finite =>
        rw [found] at finite
        exact absurd rfl finite

/-- **Doubles keep their order in print.** -/
theorem ordered_shown? (places : ℕ) (le : x ≤ y) :
    Ordered (shown? (fixed places x)) (shown? (fixed places y)) := by
  obtain ⟨v, hv, w, hw, vw⟩ := le_iff_ordered.mp le
  have first := rel_shown? places x
  have second := rel_shown? places y
  rw [Option.mem_def.mp hv] at first
  rw [Option.mem_def.mp hw] at second
  generalize shown? (fixed places x) = a at first ⊢
  generalize shown? (fixed places y) = b at second ⊢
  cases first with
  | some rounded =>
      cases second with
      | some rounded' => exact ordered_some.mpr (rounded.mono rounded' vw)

/-! ## The characters of a double in print

The reports are divided at commas, at equals signs and at escape characters, none of which
can be in a number.
-/

/-- The characters of doubles in print. -/
def printChar (c : Char) : Bool := c.isDigit || ['-', '.', 'N', 'a', 'i', 'n', 'f'].contains c

theorem printChar_of_isDigit {c : Char} (digit : c.isDigit = true) : printChar c = true := by
  simp [printChar, digit]

theorem printChar_pointed (places n : ℕ) :
    ∀ c ∈ (pointed places n).toList, printChar c = true := by
  have digits (k : ℕ) : ∀ c ∈ Nat.toDigits 10 k, printChar c = true :=
    fun c mem => printChar_of_isDigit (Json.isDigit_toDigits k c mem)
  unfold pointed
  dsimp only
  rw [String.toList_append, Nat.repr_eq_ofList_toDigits, String.toList_ofList]
  refine List.forall_mem_append.mpr ⟨digits _, ?_⟩
  split
  · exact List.all_eq_true.mp rfl
  · rw [String.toList_append]
    refine List.forall_mem_append.mpr ⟨List.all_eq_true.mp rfl, ?_⟩
    rw [String.toList_ofList]
    refine List.forall_mem_append.mpr ⟨fun c mem => ?_, digits _⟩
    exact printChar_of_isDigit (Json.isDigit_zeros _ c mem)

/-- A double in print has no other characters, whatever it is. -/
theorem printChar_fixed (places : ℕ) (x : Float) :
    ∀ c ∈ (fixed places x).toList, printChar c = true := by
  unfold fixed
  split
  · exact List.all_eq_true.mp rfl
  · split <;> exact List.all_eq_true.mp rfl
  · rw [String.toList_append]
    refine List.forall_mem_append.mpr ⟨?_, printChar_pointed _ _⟩
    split <;> exact List.all_eq_true.mp rfl

end Decimal

end CrossBench
