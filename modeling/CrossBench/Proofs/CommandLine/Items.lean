import CrossBench.Proofs.CommandLine.Reading
import CrossBench.Proofs.Text.Utf8
import Mathlib

/-!
# What a command line says

The words of a command line say one thing after the other: an option with its value, a switch,
the benchmark.  Such an *item* is about one *key*, and what it says of a command line depends on
nothing but what the line has under this key.  So items that are taken one after the other do
not get in each other's way, and what they come to can be told without an order: the line has
what each of them says and is otherwise as before.

* `CommandLine.Denotes` — the integer that a text denotes, in decimal and with or without a sign;
  `CommandLine.runs_eq_ok_iff` and `CommandLine.core_eq_ok_iff` say which texts are numbers of
  runs and of cores.
* `CommandLine.Spells` — that a word spells an integer, being such a text.
* `CommandLine.Item`, `CommandLine.Has`, `CommandLine.SameAt` — items, and what a command line has
  under a key.
* `CommandLine.Amends` — what items make of a command line.
* `CommandLine.Progress.takes_of_take` — what taking one item does.
* `CommandLine.Progress.takeAll_iff` — what taking items one after the other comes to.
-/

namespace CrossBench.CommandLine

/-! ## Numbers

A number is read of a text by taking its sign off and then its digits.  What is read is told
without the reader, by `Denotes`, so that the leading zeros and the plus that the reader
lets pass can be seen in the statement.
-/

/-- Decimal digits, at least one. -/
def Digits (digits : List Char) : Prop := digits ≠ [] ∧ ∀ c ∈ digits, c.isDigit = true

/-- The number that decimal digits stand for. -/
def valueOf (digits : List Char) : ℕ := Nat.ofDigitChars 10 digits 0

/-- **The integer that a text denotes**: decimal digits, with a sign in front of them or
without. -/
inductive Denotes : List Char → ℤ → Prop
  | unsigned {digits : List Char} (h : Digits digits) : Denotes digits (valueOf digits)
  | plus {digits : List Char} (h : Digits digits) : Denotes ('+' :: digits) (valueOf digits)
  | minus {digits : List Char} (h : Digits digits) : Denotes ('-' :: digits) (-valueOf digits)

theorem natural?_eq_some_iff {digits : List Char} {n : ℕ} :
    integer?.natural? digits = some n ↔ Digits digits ∧ n = valueOf digits := by
  have value : digits.foldl (fun n c => n * 10 + (c.toNat - 48)) 0 = valueOf digits := by
    rw [valueOf, Nat.ofDigitChars]
    simp only [Nat.mul_comm 10]
    rfl
  unfold integer?.natural? Digits
  simp only [value, List.all_eq_true, Option.ite_none_right_eq_some, Option.some.injEq,
    eq_comm (a := valueOf digits)]

theorem Digits.of_cons {c : Char} {digits : List Char} (h : Digits (c :: digits)) :
    c.isDigit = true := h.2 c (List.mem_cons_self ..)

/-- The integer that is made of the number that digits spell. -/
theorem map_natural?_eq_some_iff {digits : List Char} {f : ℤ → ℤ} {i : ℤ} :
    (integer?.natural? digits >>= fun n => pure (n : ℤ)).map f = some i ↔
      Digits digits ∧ f (valueOf digits) = i := by
  cases read : integer?.natural? digits with
  | none =>
      have other : ¬ Digits digits := fun h => by
        cases read.symm.trans (natural?_eq_some_iff.mpr ⟨h, rfl⟩)
      simp [other]
  | some n =>
      obtain ⟨h, rfl⟩ := natural?_eq_some_iff.mp read
      simp [h]

/-- A text denotes the integer that is read of it, and no other. -/
theorem integer?_eq_some_iff {text : String} {i : ℤ} :
    integer? text = some i ↔ Denotes text.toList i := by
  unfold integer?
  -- three readings, by the first character: the sign settles which constructor applies
  split
  next digits chars =>
    rw [chars]
    refine map_natural?_eq_some_iff.trans ⟨?_, ?_⟩
    · rintro ⟨h, rfl⟩
      exact .minus h
    · rintro (h | h | h)
      · -- no digit is a sign, so the text is not also an unsigned numeral
        exact absurd h.of_cons (by decide)
      · exact ⟨h, rfl⟩
  next digits chars =>
    rw [chars]
    refine map_natural?_eq_some_iff.trans ⟨?_, ?_⟩
    · rintro ⟨h, rfl⟩
      exact .plus h
    · rintro (h | h | h)
      · exact absurd h.of_cons (by decide)
      · exact ⟨h, rfl⟩
  next unminus unplus =>
    refine map_natural?_eq_some_iff.trans ⟨?_, ?_⟩
    · rintro ⟨h, rfl⟩
      exact .unsigned h
    · generalize text.toList = chars at unminus unplus
      rintro (h | h | h)
      · exact ⟨h, rfl⟩
      · exact absurd rfl (unplus _)
      · exact absurd rfl (unminus _)

theorem Denotes.unique {chars : List Char} {i j : ℤ} (hi : Denotes chars i)
    (hj : Denotes chars j) : i = j := by
  rw [← String.toList_ofList (l := chars)] at hi hj
  exact Option.some.inj ((integer?_eq_some_iff.mpr hi).symm.trans (integer?_eq_some_iff.mpr hj))

/-- **A number of runs** is taken as the integer that its text denotes, if that is in its
range. -/
theorem runs_eq_ok_iff (low : ℕ) {text : String} {n : UInt32} :
    runs low text = .ok n ↔ low ≤ n.toNat ∧ Denotes text.toList n.toNat := by
  rw [← integer?_eq_some_iff]
  unfold runs
  constructor
  · intro read
    split at read
    next k denotes =>
      split at read
      next bounds =>
        cases read
        have small : k.toNat < 2 ^ 32 := by
          have := bounds.2
          simp only [Nat.pow_eq] at this
          omega
        rw [UInt32.toNat_ofNat_of_lt' small, denotes]
        -- the bounds were asked of an integer; inside them it is its own natural number
        have nonneg : (k.toNat : ℤ) = k := by omega
        exact ⟨by omega, congrArg some nonneg.symm⟩
      next => cases read
    next => cases read
  · rintro ⟨least, denotes⟩
    have small : (n.toNat : ℤ) < (Nat.pow 2 32 : ℕ) := Int.ofNat_lt.mpr n.toNat_lt
    rw [denotes]
    dsimp only
    rw [if_pos ⟨Int.ofNat_le.mpr least, small⟩, Int.toNat_natCast, UInt32.ofNat_toNat]

/-- **The number of a core** is taken as the integer that its text denotes, if it is written
without a minus and in range. -/
theorem core_eq_ok_iff {text : String} {n : UInt64} :
    core text = .ok n ↔ text.toList.head? ≠ some '-' ∧ Denotes text.toList n.toNat := by
  rw [← integer?_eq_some_iff]
  unfold core
  constructor
  · intro read
    split at read
    next k denotes =>
      split at read
      next bounds =>
        cases read
        have small : k.toNat < 2 ^ 64 := by
          have := bounds.2.1
          simp only [Nat.pow_eq] at this
          omega
        rw [UInt64.toNat_ofNat_of_lt' small, denotes]
        -- as for `runs`: a core has no lower bound, but its text may not start with a minus
        have nonneg : (k.toNat : ℤ) = k := by omega
        exact ⟨bounds.2.2, congrArg some nonneg.symm⟩
      next => cases read
    next => cases read
  · rintro ⟨unsigned, denotes⟩
    have small : (n.toNat : ℤ) < (Nat.pow 2 64 : ℕ) := Int.ofNat_lt.mpr n.toNat_lt
    rw [denotes]
    dsimp only
    rw [if_pos ⟨Int.natCast_nonneg _, small, unsigned⟩, Int.toNat_natCast, UInt64.ofNat_toNat]

/-- **That a word spells an integer**: it is a text that denotes it. -/
def Spells (word : Word) (i : ℤ) : Prop := ∃ text, word = Utf8.encode text ∧ Denotes text.toList i

/-- The bytes of a text spell a number if the text denotes it. -/
theorem spells_encode_iff {text : String} {i : ℤ} :
    Spells (Utf8.encode text) i ↔ Denotes text.toList i := by
  constructor
  · rintro ⟨text', same, denotes⟩
    rwa [Utf8.encode_injective same]
  · exact fun denotes => ⟨text, rfl, denotes⟩

theorem Spells.unique {word : Word} {i j : ℤ} (hi : Spells word i) (hj : Spells word j) :
    i = j := by
  obtain ⟨text, rfl, denotes⟩ := hi
  exact denotes.unique (spells_encode_iff.mp hj)

/-- A word is a text exactly if it is how that text is encoded. -/
theorem textOf_eq_ok_iff {word : Word} {text : String} :
    textOf word = .ok text ↔ word = Utf8.encode text := by
  rw [← Utf8.decode?_eq_some_iff]
  unfold textOf
  cases Utf8.decode? word with
  | none => exact iff_of_false nofun nofun
  | some text' => simp

/-- What is done with a word as a text is done if the word is the bytes of a text. -/
theorem bind_textOf_eq_ok_iff {α : Type} {word : Word} {f : String → Except Refusal α} {a : α} :
    (textOf word).bind f = .ok a ↔ ∃ text, word = Utf8.encode text ∧ f text = .ok a := by
  constructor
  · intro done
    obtain ⟨text, isText, done⟩ := exists_of_bind_eq_ok done
    exact ⟨text, textOf_eq_ok_iff.mp isText, done⟩
  · rintro ⟨text, isText, done⟩
    rw [textOf_eq_ok_iff.mpr isText]
    exact done

/-- A number of runs in a word is the integer that the word spells. -/
theorem runs_textOf_eq_ok_iff (low : ℕ) {word : Word} {n : UInt32} :
    (textOf word).bind (runs low) = .ok n ↔ low ≤ n.toNat ∧ Spells word n.toNat := by
  simp only [bind_textOf_eq_ok_iff, runs_eq_ok_iff, Spells]
  exact ⟨fun ⟨text, isText, least, denotes⟩ => ⟨least, text, isText, denotes⟩,
    fun ⟨least, text, isText, denotes⟩ => ⟨text, isText, least, denotes⟩⟩

/-- A text begins with a minus exactly if its first byte is a hyphen. -/
theorem head?_encode_eq_hyphen_iff {text : String} :
    (Utf8.encode text).head? = some hyphen ↔ text.toList.head? = some '-' :=
  Utf8.head?_encode_eq_some_iff (d := '-') (by decide)

/-- The number of a core in a word is the integer that the word spells without a minus. -/
theorem core_textOf_eq_ok_iff {word : Word} {n : UInt64} :
    (textOf word).bind core = .ok n ↔ word.head? ≠ some hyphen ∧ Spells word n.toNat := by
  simp only [bind_textOf_eq_ok_iff, core_eq_ok_iff, Spells]
  constructor
  · rintro ⟨text, rfl, unsigned, denotes⟩
    exact ⟨mt head?_encode_eq_hyphen_iff.mp unsigned, text, rfl, denotes⟩
  · rintro ⟨unsigned, text, rfl, denotes⟩
    exact ⟨text, rfl, mt head?_encode_eq_hyphen_iff.mpr unsigned, denotes⟩

/-! ## Items

Equality under a key is what the sections below work with: two lines that have the same
under every key are the same (`ext_of_sameAt`), and what an item says is about its own key
(`Has.of_sameAt`, `Has.sameAt`).
-/

/-- One thing that the words of a command line say. -/
inductive Item where
  | setting (s : Setting) (value : Word)
  | switch (s : Switch)
  | benchmark (word : Word)
  deriving DecidableEq

/-- What an item is about: an option, or else the benchmark. -/
def Item.key : Item → Option Argument
  | .setting s _ => some (.setting s)
  | .switch s => some (.switch s)
  | .benchmark _ => none

/-- The text for a format. -/
def formatText : Format → String
  | .human => "human"
  | .csv => "csv"
  | .json => "json"

/-- The text for a policy. -/
def policyText : FailedRuns → String
  | .record => "record"
  | .flag => "flag"

/-- That a command line has what an item says.  Nothing has the options that ask for help or
for the version. -/
def Has (c : CommandLine) : Item → Prop
  | .setting .iterations value =>
      ∃ n, c.iterations = some n ∧ 1 ≤ n.toNat ∧ Spells value n.toNat
  | .setting .warmup value => ∃ n, c.warmup = some n ∧ Spells value n.toNat
  | .setting .root value => value ≠ [] ∧ c.root = some ⟨value⟩
  | .setting .config value => value ≠ [] ∧ c.config = some ⟨value⟩
  | .setting .format value => value = Utf8.encode (formatText c.format)
  | .setting .failedRuns value =>
      ∃ f, c.failedRuns = some f ∧ value = Utf8.encode (policyText f)
  | .setting .pinCore value =>
      ∃ n, c.pinCore = some n ∧ value.head? ≠ some hyphen ∧ Spells value n.toNat
  | .switch .noBuild => c.noBuild = true
  | .switch .noColor => c.noColor = true
  | .switch .verbose => c.verbose = true
  | .switch .help => False
  | .switch .version => False
  | .benchmark word => ∃ text, c.benchmark = some text ∧ word = Utf8.encode text

/-- That two command lines have the same under a key. -/
def SameAt (c c' : CommandLine) : Option Argument → Prop
  | some (.setting .iterations) => c.iterations = c'.iterations
  | some (.setting .warmup) => c.warmup = c'.warmup
  | some (.setting .root) => c.root = c'.root
  | some (.setting .config) => c.config = c'.config
  | some (.setting .format) => c.format = c'.format
  | some (.setting .failedRuns) => c.failedRuns = c'.failedRuns
  | some (.setting .pinCore) => c.pinCore = c'.pinCore
  | some (.switch .noBuild) => c.noBuild = c'.noBuild
  | some (.switch .noColor) => c.noColor = c'.noColor
  | some (.switch .verbose) => c.verbose = c'.verbose
  | some (.switch .help) => True
  | some (.switch .version) => True
  | none => c.benchmark = c'.benchmark

variable {c c' c'' : CommandLine}

/-- A command line is all that it has under its keys. -/
theorem ext_of_sameAt (same : ∀ key, SameAt c c' key) : c = c' := by
  obtain ⟨benchmark, iterations, warmup, root, config, format, failedRuns, pinCore, noBuild,
    noColor, verbose⟩ := c
  obtain rfl : benchmark = c'.benchmark := same none
  obtain rfl : iterations = c'.iterations := same (some (.setting .iterations))
  obtain rfl : warmup = c'.warmup := same (some (.setting .warmup))
  obtain rfl : root = c'.root := same (some (.setting .root))
  obtain rfl : config = c'.config := same (some (.setting .config))
  obtain rfl : format = c'.format := same (some (.setting .format))
  obtain rfl : failedRuns = c'.failedRuns := same (some (.setting .failedRuns))
  obtain rfl : pinCore = c'.pinCore := same (some (.setting .pinCore))
  obtain rfl : noBuild = c'.noBuild := same (some (.switch .noBuild))
  obtain rfl : noColor = c'.noColor := same (some (.switch .noColor))
  obtain rfl : verbose = c'.verbose := same (some (.switch .verbose))
  rfl

theorem SameAt.refl (c : CommandLine) (key : Option Argument) : SameAt c c key := by
  rcases key with _ | ⟨s⟩ | ⟨s⟩
  · rfl
  · cases s <;> rfl
  · cases s <;> trivial

theorem SameAt.symm {key : Option Argument} (same : SameAt c c' key) : SameAt c' c key := by
  rcases key with _ | ⟨s⟩ | ⟨s⟩
  · exact Eq.symm same
  · cases s <;> exact Eq.symm same
  · cases s <;> first | exact Eq.symm same | trivial

/-- Lines that are the same there as a third one are the same there. -/
theorem SameAt.trans {key : Option Argument} (first : SameAt c c' key)
    (second : SameAt c' c'' key) : SameAt c c'' key := by
  rcases key with _ | ⟨s⟩ | ⟨s⟩
  · exact Eq.trans first second
  · cases s <;> exact Eq.trans first second
  · cases s <;> first | exact Eq.trans first second | trivial

/-- What an item says depends on what is under its key. -/
theorem Has.of_sameAt {item : Item} (has : c.Has item) (same : SameAt c c' item.key) :
    c'.Has item := by
  rcases item with ⟨s, value⟩ | ⟨s⟩ | word
  · cases s <;> simp only [Has, SameAt, Item.key] at has same ⊢ <;> rwa [← same]
  · cases s <;> simp only [Has, SameAt, Item.key] at has same ⊢ <;> rwa [← same]
  · simp only [Has, SameAt, Item.key] at has same ⊢
    rwa [← same]

theorem formatText_injective {f f' : Format} (same : formatText f = formatText f') : f = f' := by
  cases f <;> cases f' <;> first | rfl | exact absurd same (by decide)

theorem policyText_injective {f f' : FailedRuns} (same : policyText f = policyText f') :
    f = f' := by
  cases f <;> cases f' <;> first | rfl | exact absurd same (by decide)

/-- **An item determines what is under its key.** -/
theorem Has.sameAt {item : Item} (has : c.Has item) (has' : c'.Has item) :
    SameAt c c' item.key := by
  rcases item with ⟨s, value⟩ | ⟨s⟩ | word
  · cases s with
    | iterations =>
        obtain ⟨n, here, -, spells⟩ := has
        obtain ⟨n', there, -, spells'⟩ := has'
        -- one word spells one number, so both fields hold the same
        have same := Int.ofNat.inj (spells.unique spells')
        exact here.trans ((congrArg some (UInt32.toNat_inj.mp same)).trans there.symm)
    | warmup =>
        obtain ⟨n, here, spells⟩ := has
        obtain ⟨n', there, spells'⟩ := has'
        have same := Int.ofNat.inj (spells.unique spells')
        exact here.trans ((congrArg some (UInt32.toNat_inj.mp same)).trans there.symm)
    | root => exact has.2.trans has'.2.symm
    | config => exact has.2.trans has'.2.symm
    | format => exact formatText_injective (Utf8.encode_injective (Eq.trans (Eq.symm has) has'))
    | failedRuns =>
        obtain ⟨f, here, rfl⟩ := has
        obtain ⟨f', there, same⟩ := has'
        have same := policyText_injective (Utf8.encode_injective same)
        exact here.trans ((congrArg some same).trans there.symm)
    | pinCore =>
        obtain ⟨n, here, -, spells⟩ := has
        obtain ⟨n', there, -, spells'⟩ := has'
        have same := Int.ofNat.inj (spells.unique spells')
        exact here.trans ((congrArg some (UInt64.toNat_inj.mp same)).trans there.symm)
  · cases s <;> first | exact Eq.trans has (Eq.symm has') | exact has.elim
  · obtain ⟨text, here, rfl⟩ := has
    obtain ⟨text', there, same⟩ := has'
    exact here.trans ((congrArg some (Utf8.encode_injective same)).trans there.symm)

/-- That some command line has what an item says. -/
def Item.Valid (item : Item) : Prop := ∃ c : CommandLine, c.Has item

/-- **That items amend a command line to another**, which has what they say and under every key
that none of them is about is as the one before. -/
structure Amends (b : CommandLine) (items : List Item) (c : CommandLine) : Prop where
  has : ∀ item ∈ items, c.Has item
  rest : ∀ key, key ∉ items.map Item.key → SameAt b c key

/-- Items amend a command line to one other only. -/
theorem Amends.unique {b : CommandLine} {items : List Item} (amends : Amends b items c)
    (amends' : Amends b items c') : c = c' := by
  refine ext_of_sameAt fun key => ?_
  by_cases listed : key ∈ items.map Item.key
  · obtain ⟨item, mem, rfl⟩ := List.mem_map.mp listed
    exact (amends.has item mem).sameAt (amends'.has item mem)
  · exact (amends.rest key listed).symm.trans (amends'.rest key listed)

/-! ## Storing a value

What storing does is said twice for each kind of item: what it gives its own key, and that
it changes nothing under another.
-/

theorem filled_eq_ok_iff {word : Word} {p : Path} :
    filled word = .ok p ↔ word ≠ [] ∧ p = ⟨word⟩ := by
  unfold filled
  split
  next empty => simp [empty]
  next filled => simp [filled, eq_comm]

/-- A word names a format if it is the bytes of its name. -/
theorem formatNamed_eq_ok_iff {word : Word} {f : Format} :
    formatNamed word = .ok f ↔ word = Utf8.encode (formatText f) := by
  rw [← Utf8.decode?_eq_some_iff]
  unfold formatNamed
  constructor
  · intro named
    split at named
    next isText => cases named; exact isText
    next isText => cases named; exact isText
    next isText => cases named; exact isText
    next => cases named
  · intro isText
    rw [isText]
    cases f <;> rfl

/-- A word names a way with failed runs if it is the bytes of its name. -/
theorem policyNamed_eq_ok_iff {word : Word} {f : FailedRuns} :
    policyNamed word = .ok f ↔ word = Utf8.encode (policyText f) := by
  rw [← Utf8.decode?_eq_some_iff]
  unfold policyNamed
  constructor
  · intro named
    split at named
    next isText => cases named; exact isText
    next isText => cases named; exact isText
    next => cases named
  · intro isText
    rw [isText]
    cases f <;> rfl

/-- Storing a value gives a line what the setting says. -/
theorem has_of_store {s : Setting} {value : Word} (stored : s.store value c = .ok c') :
    c'.Has (.setting s value) := by
  cases s with
  | iterations =>
      obtain ⟨n, read, rfl⟩ := exists_of_map_eq_ok stored
      exact ⟨n, rfl, (runs_textOf_eq_ok_iff 1).mp read⟩
  | warmup =>
      obtain ⟨n, read, rfl⟩ := exists_of_map_eq_ok stored
      exact ⟨n, rfl, ((runs_textOf_eq_ok_iff 0).mp read).2⟩
  | root | config =>
      obtain ⟨p, read, rfl⟩ := exists_of_map_eq_ok stored
      obtain ⟨filled, rfl⟩ := filled_eq_ok_iff.mp read
      exact ⟨filled, rfl⟩
  | format =>
      obtain ⟨f, read, rfl⟩ := exists_of_map_eq_ok stored
      exact formatNamed_eq_ok_iff.mp read
  | failedRuns =>
      obtain ⟨f, read, rfl⟩ := exists_of_map_eq_ok stored
      exact ⟨f, rfl, policyNamed_eq_ok_iff.mp read⟩
  | pinCore =>
      obtain ⟨n, read, rfl⟩ := exists_of_map_eq_ok stored
      exact ⟨n, rfl, core_textOf_eq_ok_iff.mp read⟩

/-- It changes nothing else. -/
theorem sameAt_of_store {s : Setting} {value : Word} (stored : s.store value c = .ok c')
    {key : Option Argument} (other : key ≠ some (.setting s)) : SameAt c c' key := by
  cases s
  all_goals
    obtain ⟨_, -, rfl⟩ := exists_of_map_eq_ok stored
    rcases key with _ | ⟨s'⟩ | ⟨s'⟩
    · rfl
    · cases s' <;> first | rfl | exact absurd rfl other
    · cases s' <;> first | rfl | trivial

/-- A value that some line has can be stored in any. -/
theorem exists_store {s : Setting} {value : Word} (has : c'.Has (.setting s value))
    (c : CommandLine) : ∃ c'', s.store value c = .ok c'' := by
  cases s with
  | iterations =>
      obtain ⟨n, -, bounds⟩ := has
      exact ⟨_, congrArg (Except.map _) ((runs_textOf_eq_ok_iff 1).mpr bounds)⟩
  | warmup =>
      obtain ⟨n, -, spells⟩ := has
      exact ⟨_, congrArg (Except.map _) ((runs_textOf_eq_ok_iff 0).mpr ⟨Nat.zero_le _, spells⟩)⟩
  | root => exact ⟨_, congrArg (Except.map _) (filled_eq_ok_iff.mpr ⟨has.1, rfl⟩)⟩
  | config => exact ⟨_, congrArg (Except.map _) (filled_eq_ok_iff.mpr ⟨has.1, rfl⟩)⟩
  | format => exact ⟨_, congrArg (Except.map _) (formatNamed_eq_ok_iff.mpr has)⟩
  | failedRuns =>
      obtain ⟨f, -, named⟩ := has
      exact ⟨_, congrArg (Except.map _) (policyNamed_eq_ok_iff.mpr named)⟩
  | pinCore =>
      obtain ⟨n, -, bounds⟩ := has
      exact ⟨_, congrArg (Except.map _) (core_textOf_eq_ok_iff.mpr bounds)⟩

/-- A switch gives a line what it says, unless it asks for help or for the version. -/
theorem has_of_switch {s : Switch} (help : s ≠ .help) (version : s ≠ .version) :
    (s.store c).Has (.switch s) := by
  cases s <;> first | rfl | exact absurd rfl help | exact absurd rfl version

/-- It changes nothing else. -/
theorem sameAt_of_switch {s : Switch} {key : Option Argument} (other : key ≠ some (.switch s)) :
    SameAt c (s.store c) key := by
  cases s
  all_goals
    rcases key with _ | ⟨s'⟩ | ⟨s'⟩
    · rfl
    · cases s' <;> rfl
    · cases s' <;> first | rfl | trivial

/-- Storing the name of a benchmark changes nothing else. -/
theorem sameAt_of_benchmark {text : String} {key : Option Argument} (other : key ≠ none) :
    SameAt c { c with benchmark := some text } key := by
  rcases key with _ | ⟨s'⟩ | ⟨s'⟩
  · exact absurd rfl other
  · cases s' <;> rfl
  · cases s' <;> first | rfl | trivial

/-! ## Taking items

Taking is what reading does to a line once the spelling is out of the way.  One step has a
specification that mentions no reader (`Takes`); from it the effect of a list follows by
induction, and with it the fact that the order of the items does not matter.
-/

namespace Progress

variable {p q r : Progress}

/-- Takes an item, if nothing waits to be looked at. -/
def take (p : Progress) : Item → Except Refusal Progress
  | .setting s value => p.give s value
  | .switch s => p.switch s true
  | .benchmark word => p.benchmark word >>= resolve

/-- That nothing has been said under a key. -/
def Fresh (p : Progress) : Option Argument → Prop
  | some a => a ∉ p.seen
  | none => p.named = false

/-- **What taking an item does.**  The key was fresh and is so no longer; the line has what the
item says; and nothing else has changed. -/
structure Takes (p : Progress) (item : Item) (q : Progress) : Prop where
  fresh : p.Fresh item.key
  has : q.line.Has item
  same : ∀ key ≠ item.key, SameAt p.line q.line key
  left : ∀ key, q.Fresh key ↔ p.Fresh key ∧ key ≠ item.key
  ready : q.pending = none
  plainOnly : q.plainOnly = p.plainOnly

/-- A computation that succeeds has an intermediate result. -/
theorem bind_eq_ok_iff {α β : Type} {x : Except Refusal α} {f : α → Except Refusal β} {b : β} :
    x >>= f = .ok b ↔ ∃ a, x = .ok a ∧ f a = .ok b := by
  constructor
  · intro done
    cases x with
    | error e => cases done
    | ok a => exact ⟨a, rfl, done⟩
  · rintro ⟨a, rfl, done⟩
    exact done

theorem note_eq_ok_iff {a : Argument} :
    p.note a = .ok q ↔ a ∉ p.seen ∧ q = { p with seen := a :: p.seen } := by
  unfold note
  split
  next seen => simp [seen]
  next unseen => simp [unseen, eq_comm]

/-- What is fresh once an option has been noted. -/
theorem fresh_note {a : Argument} {line : CommandLine} (key : Option Argument) :
    Fresh { p with seen := a :: p.seen, line } key ↔ p.Fresh key ∧ key ≠ some a := by
  cases key with
  | none => simp [Fresh]
  | some b => simp [Fresh, and_comm]

/-- A setting gets a value if it has not been seen and the value can be stored. -/
theorem give_eq_ok_iff {s : Setting} {value : Word} :
    p.give s value = .ok q ↔ Argument.setting s ∉ p.seen ∧
      ∃ line, s.store value p.line = .ok line ∧
        q = { p with seen := .setting s :: p.seen, line } := by
  unfold give
  rw [bind_eq_ok_iff]
  constructor
  · rintro ⟨p', noted, given⟩
    obtain ⟨fresh, rfl⟩ := note_eq_ok_iff.mp noted
    obtain ⟨line, stored, same⟩ := bind_eq_ok_iff.mp given
    cases same
    exact ⟨fresh, line, stored, rfl⟩
  · rintro ⟨fresh, line, stored, rfl⟩
    exact ⟨_, note_eq_ok_iff.mpr ⟨fresh, rfl⟩, bind_eq_ok_iff.mpr ⟨line, stored, rfl⟩⟩

theorem resolve_of_ready (ready : p.pending = none) : p.resolve = .ok p := by
  rw [resolve, ready]

/-- A switch is thrown if it asks for no text and has not been seen. -/
theorem switch_eq_ok_iff {s : Switch} {long : Bool} (ready : p.pending = none) :
    p.switch s long = .ok q ↔ s ≠ .help ∧ s ≠ .version ∧ Argument.switch s ∉ p.seen ∧
      q = { p with seen := .switch s :: p.seen, line := s.store p.line } := by
  -- the switches that are stored, all in one way
  have noted (s : Switch) : (do
      let p ← p.note (.switch s)
      return { p with line := s.store p.line }) = Except.ok q ↔ Argument.switch s ∉ p.seen ∧
        q = { p with seen := .switch s :: p.seen, line := s.store p.line } := by
    rw [bind_eq_ok_iff]
    constructor
    · rintro ⟨p', noted, same⟩
      obtain ⟨fresh, rfl⟩ := note_eq_ok_iff.mp noted
      cases same
      exact ⟨fresh, rfl⟩
    · rintro ⟨fresh, rfl⟩
      exact ⟨_, note_eq_ok_iff.mpr ⟨fresh, rfl⟩, rfl⟩
  unfold switch
  rw [resolve_of_ready ready]
  cases s with
  | help => exact iff_of_false nofun fun h => h.1 rfl
  | version => exact iff_of_false nofun fun h => h.2.1 rfl
  | noBuild | noColor | verbose => exact (noted _).trans (by simp)

/-- A benchmark waits from then on, if there has been none. -/
theorem benchmark_eq_ok_iff {word : Word} (ready : p.pending = none) :
    p.benchmark word = .ok q ↔ p.named = false ∧
      q = { p with named := true, pending := some (.benchmark word) } := by
  unfold benchmark
  rw [resolve_of_ready ready]
  -- a second benchmark is refused
  cases p.named with
  | true => exact iff_of_false nofun fun h => nomatch h.1
  | false =>
      rw [if_neg Bool.false_ne_true, bind_eq_ok_iff, and_iff_right rfl]
      constructor
      · rintro ⟨_, same, rest⟩
        cases same
        cases rest
        rfl
      · rintro rfl
        exact ⟨p, rfl, rfl⟩

theorem name_eq_ok_iff {word : Word} : p.name word = .ok q ↔
    ∃ text, word = Utf8.encode text ∧
      q = { p with line := { p.line with benchmark := some text } } := by
  unfold name
  rw [bind_eq_ok_iff]
  refine exists_congr fun text => and_congr textOf_eq_ok_iff ?_
  exact ⟨fun same => by cases same; rfl, fun same => by rw [same]; rfl⟩

/-- The benchmark that is taken is a text. -/
theorem take_benchmark_eq_ok_iff {word : Word} (ready : p.pending = none) :
    p.take (.benchmark word) = .ok q ↔ p.named = false ∧ ∃ text, word = Utf8.encode text ∧
      q = { p with named := true, line := { p.line with benchmark := some text } } := by
  obtain ⟨line, seen, named, pending, plainOnly⟩ := p
  obtain rfl : pending = none := ready
  unfold take
  rw [bind_eq_ok_iff]
  constructor
  · rintro ⟨_, waits, resolved⟩
    obtain ⟨free, rfl⟩ := (benchmark_eq_ok_iff rfl).mp waits
    exact ⟨free, name_eq_ok_iff.mp resolved⟩
  · rintro ⟨free, isText⟩
    exact ⟨_, (benchmark_eq_ok_iff rfl).mpr ⟨free, rfl⟩, name_eq_ok_iff.mpr isText⟩

/-- **Taking an item** does what it is to do. -/
theorem takes_of_take {item : Item} (ready : p.pending = none) (taken : p.take item = .ok q) :
    p.Takes item q := by
  rcases item with ⟨s, value⟩ | ⟨s⟩ | word
  · obtain ⟨fresh, line, stored, rfl⟩ := give_eq_ok_iff.mp taken
    exact ⟨fresh, has_of_store stored, fun key other => sameAt_of_store stored other,
      fresh_note, ready, rfl⟩
  · obtain ⟨help, version, fresh, rfl⟩ := (switch_eq_ok_iff ready).mp taken
    exact ⟨fresh, has_of_switch help version, fun key other => sameAt_of_switch other,
      fresh_note, ready, rfl⟩
  · obtain ⟨free, text, rfl, rfl⟩ := (take_benchmark_eq_ok_iff ready).mp taken
    refine ⟨free, ⟨text, rfl, rfl⟩, fun key other => sameAt_of_benchmark other, fun key => ?_,
      ready, rfl⟩
    cases key with
    | none => simp [Fresh, Item.key]
    | some a => simp [Fresh, Item.key]

/-- An item that some line has can be taken if its key is fresh. -/
theorem exists_take {item : Item} (ready : p.pending = none) (fresh : p.Fresh item.key)
    (has : c.Has item) : ∃ q, p.take item = .ok q := by
  rcases item with ⟨s, value⟩ | ⟨s⟩ | word
  · obtain ⟨line, stored⟩ := exists_store has p.line
    exact ⟨_, give_eq_ok_iff.mpr ⟨fresh, line, stored, rfl⟩⟩
  · refine ⟨_, (switch_eq_ok_iff ready).mpr ⟨?_, ?_, fresh, rfl⟩⟩ <;>
      · rintro rfl
        exact has
  · obtain ⟨text, -, isText⟩ := has
    exact ⟨_, (take_benchmark_eq_ok_iff ready).mpr ⟨fresh, text, isText, rfl⟩⟩

/-- Takes items one after the other. -/
def takeAll (p : Progress) (items : List Item) : Except Refusal Progress := items.foldlM take p

theorem takeAll_singleton (item : Item) : p.takeAll [item] = p.take item := by
  rw [takeAll, List.foldlM_cons]
  cases p.take item <;> rfl

theorem takeAll_append_iff {own items : List Item} : p.takeAll (own ++ items) = .ok r ↔
    ∃ q, p.takeAll own = .ok q ∧ q.takeAll items = .ok r := by
  rw [takeAll, List.foldlM_append]
  exact bind_eq_ok_iff

theorem takeAll_cons_iff {item : Item} {items : List Item} : p.takeAll (item :: items) = .ok r ↔
    ∃ q, p.take item = .ok q ∧ q.takeAll items = .ok r := bind_eq_ok_iff

/-- Valid items can be taken if no key comes twice and none has been taken before. -/
theorem exists_takeAll {items : List Item} (ready : p.pending = none)
    (distinct : (items.map Item.key).Nodup) (fresh : ∀ item ∈ items, p.Fresh item.key)
    (valid : ∀ item ∈ items, item.Valid) : ∃ q, p.takeAll items = .ok q := by
  induction items generalizing p with
  | nil => exact ⟨p, rfl⟩
  | cons item rest ih =>
      obtain ⟨apart, distinct⟩ := List.nodup_cons.mp distinct
      obtain ⟨fresh_item, fresh_rest⟩ := List.forall_mem_cons.mp fresh
      obtain ⟨⟨c, has⟩, valid⟩ := List.forall_mem_cons.mp valid
      obtain ⟨q, first⟩ := exists_take ready fresh_item has
      have takes := takes_of_take ready first
      have fresh_left : ∀ other ∈ rest, q.Fresh other.key := by
        intro other listed
        refine (takes.left _).mpr ⟨fresh_rest other listed, fun own => apart ?_⟩
        exact own ▸ List.mem_map_of_mem listed
      -- the first item has used up its own key only
      obtain ⟨r, others⟩ := ih takes.ready distinct fresh_left valid
      exact ⟨r, takeAll_cons_iff.mpr ⟨q, first, others⟩⟩

/-- **What taking items does.**  No key came twice, none had been taken before, and the items
have amended the line. -/
theorem amends_of_takeAll {items : List Item} (ready : p.pending = none)
    (taken : p.takeAll items = .ok q) : (items.map Item.key).Nodup ∧
      (∀ item ∈ items, p.Fresh item.key) ∧ Amends p.line items q.line := by
  induction items generalizing p with
  | nil =>
      cases taken
      exact ⟨.nil, nofun, nofun, fun key _ => .refl _ key⟩
  | cons item rest ih =>
      obtain ⟨p', first, others⟩ := takeAll_cons_iff.mp taken
      have takes := takes_of_take ready first
      obtain ⟨distinct, fresh, amends⟩ := ih takes.ready others
      have apart : item.key ∉ rest.map Item.key := by
        intro mem
        obtain ⟨twin, listed, key⟩ := List.mem_map.mp mem
        exact ((takes.left _).mp (fresh twin listed)).2 key
      -- no other item is about the key of the first, so the line still has what it says
      refine ⟨List.nodup_cons.mpr ⟨apart, distinct⟩, List.forall_mem_cons.mpr ⟨takes.fresh, ?_⟩,
        List.forall_mem_cons.mpr ⟨takes.has.of_sameAt (amends.rest _ apart), amends.has⟩, ?_⟩
      · exact fun other listed => ((takes.left _).mp (fresh other listed)).1
      · intro key outside
        rw [List.map_cons, List.mem_cons, not_or] at outside
        exact (takes.same key outside.1).trans (amends.rest key outside.2)

/-- **What taking items comes to.**  They lead to a line exactly if no key comes twice, none has
been taken before, and the items amend the line that there was to this one. -/
theorem takeAll_iff {items : List Item} (ready : p.pending = none) :
    (∃ q, p.takeAll items = .ok q ∧ q.line = c) ↔ (items.map Item.key).Nodup ∧
      (∀ item ∈ items, p.Fresh item.key) ∧ Amends p.line items c := by
  constructor
  · rintro ⟨q, taken, rfl⟩
    exact amends_of_takeAll ready taken
  · rintro ⟨distinct, fresh, amends⟩
    obtain ⟨q, taken⟩ := exists_takeAll ready distinct fresh fun item listed =>
      ⟨c, amends.has item listed⟩
    exact ⟨q, taken, (amends_of_takeAll ready taken).2.2.unique amends⟩

end Progress

end CrossBench.CommandLine
