import CrossBench.Proofs.CommandLine.Spelling
import Mathlib

/-!
# Reading back a command line

Whatever is written for a command line is read as this command line: the reader undoes every
spelling, whatever the order of the items, and accepts nothing that is no spelling.

* `CommandLine.reads_back` — the main result: which words are accepted, and as what.
* `CommandLine.valid_digits_iff` — digits are accepted exactly if the number is in its bounds, so
  nothing is cut off.
* `CommandLine.Writable.exists_words` — a command line with a number of iterations other than zero
  and with paths that are not empty can be written.
* `CommandLine.not_every_line_is_read_back` — one with no iterations cannot.
-/

namespace CrossBench.CommandLine

variable {c : CommandLine}

/-! ## Numbers

The bounds are those of the fields, so a number outside of them is refused and never cut
down to its last digits.
-/

/-- The bounds of a setting that is a number. -/
def Setting.bounds? : Setting → Option (ℕ × ℕ)
  | .iterations => some (1, 2 ^ 32 - 1)
  | .warmup => some (0, 2 ^ 32 - 1)
  | .pinCore => some (0, 2 ^ 64 - 1)
  | _ => none

/-- The number that a command line has for a setting. -/
def number? (c : CommandLine) : Setting → Option ℕ
  | .iterations => c.iterations.map UInt32.toNat
  | .warmup => c.warmup.map UInt32.toNat
  | .pinCore => c.pinCore.map UInt64.toNat
  | _ => none

/-- A number is stored as the integer that its word spells. -/
theorem Has.number? {s : Setting} {value : Word} (has : c.Has (.setting s value))
    (numeric : s.bounds?.isSome) : ∃ n : ℕ, c.number? s = some n ∧ Spells value n := by
  cases s with
  | iterations =>
      obtain ⟨n, given, -, spells⟩ := has
      exact ⟨n.toNat, congrArg (Option.map _) given, spells⟩
  | warmup =>
      obtain ⟨n, given, spells⟩ := has
      exact ⟨n.toNat, congrArg (Option.map _) given, spells⟩
  | pinCore =>
      obtain ⟨n, given, -, spells⟩ := has
      exact ⟨n.toNat, congrArg (Option.map _) given, spells⟩
  | root | config | format | failedRuns => cases numeric

/-- Digits denote one natural number. -/
theorem Digits.denotes_iff {digits : List Char} (h : Digits digits) {n : ℕ} :
    Denotes digits n ↔ n = valueOf digits := by
  constructor
  · exact fun denotes => Int.ofNat.inj (denotes.unique (.unsigned h))
  · rintro rfl
    exact .unsigned h

/-- The word of some digits spells one natural number. -/
theorem Digits.spells_iff {digits : List Char} (h : Digits digits) {n : ℕ} :
    Spells (Utf8.encode (String.ofList digits)) n ↔ n = valueOf digits := by
  rw [spells_encode_iff, String.toList_ofList]
  exact h.denotes_iff

/-- Digits do not begin with a hyphen. -/
theorem Digits.head?_ne {digits : List Char} (h : Digits digits) :
    (Utf8.encode (String.ofList digits)).head? ≠ some hyphen := by
  rw [Ne, head?_encode_eq_hyphen_iff, String.toList_ofList]
  intro first
  exact absurd (h.2 '-' (List.mem_of_head? first)) (by decide)

theorem exists_uInt32_iff {low v : ℕ} :
    (∃ n : UInt32, low ≤ n.toNat ∧ n.toNat = v) ↔ low ≤ v ∧ v ≤ 2 ^ 32 - 1 := by
  constructor
  · rintro ⟨n, least, rfl⟩
    exact ⟨least, Nat.le_sub_one_of_lt n.toNat_lt⟩
  · rintro ⟨least, most⟩
    have exact : (UInt32.ofNat v).toNat = v :=
      UInt32.toNat_ofNat_of_lt' (Nat.lt_of_le_sub_one (by decide) most)
    exact ⟨.ofNat v, least.trans_eq exact.symm, exact⟩

/-- The numbers of sixty-four bits are those up to the greatest one. -/
theorem exists_uInt64_iff {v : ℕ} : (∃ n : UInt64, n.toNat = v) ↔ v ≤ 2 ^ 64 - 1 := by
  constructor
  · rintro ⟨n, rfl⟩
    exact Nat.le_sub_one_of_lt n.toNat_lt
  · intro most
    exact ⟨.ofNat v, UInt64.toNat_ofNat_of_lt' (Nat.lt_of_le_sub_one (by decide) most)⟩

/-- **Digits are a valid value of a number exactly if they are in its bounds.** -/
theorem valid_digits_iff {s : Setting} {low high : ℕ} (bounds : s.bounds? = some (low, high))
    {digits : List Char} (h : Digits digits) :
    (Item.setting s (Utf8.encode (String.ofList digits))).Valid ↔
      low ≤ valueOf digits ∧ valueOf digits ≤ high := by
  cases s with
  | iterations =>
      cases bounds
      simp only [Item.Valid, Has, h.spells_iff, ← exists_uInt32_iff]
      constructor
      · rintro ⟨_, n, -, taken⟩
        exact ⟨n, taken⟩
      · rintro ⟨n, taken⟩
        exact ⟨{ iterations := some n }, n, rfl, taken⟩
  | warmup =>
      cases bounds
      simp only [Item.Valid, Has, h.spells_iff, ← exists_uInt32_iff]
      constructor
      · rintro ⟨_, n, -, same⟩
        exact ⟨n, Nat.zero_le _, same⟩
      · rintro ⟨n, -, same⟩
        exact ⟨{ warmup := some n }, n, rfl, same⟩
  | pinCore =>
      cases bounds
      simp only [Item.Valid, Has, h.spells_iff, ← exists_uInt64_iff,
        Nat.zero_le, true_and]
      constructor
      · rintro ⟨_, n, -, -, same⟩
        exact ⟨n, same⟩
      · rintro ⟨n, same⟩
        exact ⟨{ pinCore := some n }, n, rfl, h.head?_ne, same⟩
  -- only the three numeric settings have bounds
  | root | config | format | failedRuns => cases bounds

/-! ## Words

What has been shown of readers in between, for a reader that has not read anything.
-/

theorem Progress.idle_blank : Progress.Idle {} := ⟨rfl, rfl⟩

theorem Progress.fresh_blank (key : Option Argument) : Progress.Fresh {} key := by
  cases key with
  | none => rfl
  | some a => exact List.not_mem_nil

/-- Words are read as the line to which the items that they spell amend the blank one. -/
theorem parse_eq_ok_iff {items : List Item} {words : List Word}
    (spelling : Spelling items words) :
    parse words = .ok c ↔ (items.map Item.key).Nodup ∧ Amends {} items c := by
  have accepts : parse words = .ok c ↔ Progress.Yields {} items c :=
    Progress.accepts_iff_yields spelling Progress.idle_blank
  have fresh : ∀ item ∈ items, Progress.Fresh {} item.key := fun item _ =>
    Progress.fresh_blank item.key
  rw [accepts, Progress.Yields, Progress.takeAll_iff rfl, and_iff_right fresh]

/-- Words are accepted if they say nothing twice and all that they say is valid. -/
theorem exists_parse_eq_ok_iff {items : List Item} {words : List Word}
    (spelling : Spelling items words) : (∃ c, parse words = .ok c) ↔
      (items.map Item.key).Nodup ∧ ∀ item ∈ items, item.Valid := by
  constructor
  · rintro ⟨c, accepted⟩
    obtain ⟨distinct, amends⟩ := (parse_eq_ok_iff spelling).mp accepted
    exact ⟨distinct, fun item listed => ⟨c, amends.has item listed⟩⟩
  · rintro ⟨distinct, valid⟩
    obtain ⟨q, taken⟩ := Progress.exists_takeAll (p := {}) rfl distinct
      (fun item _ => Progress.fresh_blank item.key) valid
    have amends := (Progress.amends_of_takeAll (p := {}) rfl taken).2.2
    exact ⟨q.line, (parse_eq_ok_iff spelling).mpr ⟨distinct, amends⟩⟩

/-- Words that are accepted spell items. -/
theorem exists_spelling {words : List Word} (accepted : parse words = .ok c) :
    ∃ items, Spelling items words := Progress.exists_spelling Progress.idle_blank accepted

/-! ## Every command line can be written

The options are gone through one by one.  A field that is at its default is left out, and
every other one has a word.
-/

/-- What the words of a command line can say: a number of iterations that is not zero, and paths
that are not empty. -/
structure Writable (c : CommandLine) : Prop where
  iterations : c.iterations ≠ some 0
  root : ∀ p, c.root = some p → p.bytes ≠ []
  config : ∀ p, c.config = some p → p.bytes ≠ []

theorem digits_toDigits (n : ℕ) : Digits (Nat.toDigits 10 n) :=
  ⟨Nat.toDigits_ne_nil, fun _ mem => Nat.isDigit_of_mem_toDigits (by decide) (by decide) mem⟩

/-- The word for a natural number, in decimal. -/
def numberWord (n : ℕ) : Word := Utf8.encode (String.ofList (Nat.toDigits 10 n))

theorem spells_numberWord (n : ℕ) : Spells (numberWord n) n :=
  (digits_toDigits n).spells_iff.mpr Nat.ofDigitChars_ten_toDigits.symm

/-- No number begins with a hyphen, so that it can stand behind an option as a word of its own. -/
theorem head?_numberWord_ne (n : ℕ) : (numberWord n).head? ≠ some hyphen :=
  (digits_toDigits n).head?_ne

/-- What is under a key can be said, if it has to be. -/
theorem exists_item (writable : c.Writable) (key : Option Argument) :
    SameAt {} c key ∨ ∃ item : Item, item.key = key ∧ c.Has item := by
  -- field by field: left at its default, or given and so written as one item
  rcases key with _ | ⟨s⟩ | ⟨s⟩
  · cases given : c.benchmark with
    | none => exact .inl given.symm
    | some text => exact .inr ⟨.benchmark (Utf8.encode text), rfl, text, given, rfl⟩
  · cases s with
    | iterations =>
        cases given : c.iterations with
        | none => exact .inl given.symm
        | some n =>
            -- zero iterations is the one value no words are read as
            have positive : 1 ≤ n.toNat := by
              refine Nat.one_le_iff_ne_zero.mpr fun zero => writable.iterations ?_
              exact given.trans (congrArg some (UInt32.toNat_inj.mp zero))
            exact .inr ⟨.setting .iterations _, rfl, n, given, positive, spells_numberWord _⟩
    | warmup =>
        cases given : c.warmup with
        | none => exact .inl given.symm
        | some n => exact .inr ⟨.setting .warmup _, rfl, n, given, spells_numberWord _⟩
    | root =>
        cases given : c.root with
        | none => exact .inl given.symm
        | some p => exact .inr ⟨.setting .root p.bytes, rfl, writable.root p given, given⟩
    | config =>
        cases given : c.config with
        | none => exact .inl given.symm
        | some p => exact .inr ⟨.setting .config p.bytes, rfl, writable.config p given, given⟩
    | format => exact .inr ⟨.setting .format (Utf8.encode (formatText c.format)), rfl, rfl⟩
    | failedRuns =>
        cases given : c.failedRuns with
        | none => exact .inl given.symm
        | some f =>
            exact .inr ⟨.setting .failedRuns (Utf8.encode (policyText f)), rfl, f, given, rfl⟩
    | pinCore =>
        cases given : c.pinCore with
        | none => exact .inl given.symm
        | some n =>
            exact .inr ⟨.setting .pinCore _, rfl, n, given, head?_numberWord_ne _,
              spells_numberWord _⟩
  · cases s with
    | noBuild =>
        cases given : c.noBuild with
        | false => exact .inl given.symm
        | true => exact .inr ⟨.switch .noBuild, rfl, given⟩
    | noColor =>
        cases given : c.noColor with
        | false => exact .inl given.symm
        | true => exact .inr ⟨.switch .noColor, rfl, given⟩
    | verbose =>
        cases given : c.verbose with
        | false => exact .inl given.symm
        | true => exact .inr ⟨.switch .verbose, rfl, given⟩
    | help | version => exact .inl trivial

/-- That items say what a command line has under some keys, and nothing else. -/
structure Covers (c : CommandLine) (keys : List (Option Argument)) (items : List Item) : Prop where
  distinct : (items.map Item.key).Nodup
  has : ∀ item ∈ items, c.Has item
  within : ∀ item ∈ items, item.key ∈ keys
  rest : ∀ key ∈ keys, key ∉ items.map Item.key → SameAt {} c key

theorem Covers.cons_of_sameAt {key : Option Argument} {keys : List (Option Argument)}
    {items : List Item} (covers : Covers c keys items) (same : SameAt {} c key) :
    Covers c (key :: keys) items where
  distinct := covers.distinct
  has := covers.has
  within item mem := List.mem_cons_of_mem _ (covers.within item mem)
  rest := List.forall_mem_cons.mpr ⟨fun _ => same, covers.rest⟩

theorem Covers.cons {item : Item} {keys : List (Option Argument)} {items : List Item}
    (covers : Covers c keys items) (has : c.Has item) (other : item.key ∉ keys) :
    Covers c (item.key :: keys) (item :: items) where
  distinct := by
    refine List.nodup_cons.mpr ⟨fun mem => other ?_, covers.distinct⟩
    obtain ⟨twin, listed, same⟩ := List.mem_map.mp mem
    exact same ▸ covers.within twin listed
  has := List.forall_mem_cons.mpr ⟨has, covers.has⟩
  within := List.forall_mem_cons.mpr
    ⟨List.mem_cons_self .., fun twin mem => List.mem_cons_of_mem _ (covers.within twin mem)⟩
  rest := by
    refine List.forall_mem_cons.mpr ⟨fun out => absurd (List.mem_cons_self ..) out, ?_⟩
    exact fun key mem out => covers.rest key mem fun listed => out (List.mem_cons_of_mem _ listed)

/-- Every option has a long name. -/
theorem exists_long (a : Argument) : ∃ name, Argument.long? name = some a := by
  rcases a with ⟨s⟩ | ⟨s⟩
  · cases s with
    | iterations => exact ⟨"iterations", rfl⟩
    | warmup => exact ⟨"warmup", rfl⟩
    | root => exact ⟨"root", rfl⟩
    | config => exact ⟨"config", rfl⟩
    | format => exact ⟨"format", rfl⟩
    | failedRuns => exact ⟨"failed-runs", rfl⟩
    | pinCore => exact ⟨"pin-core", rfl⟩
  · cases s with
    | noBuild => exact ⟨"no-build", rfl⟩
    | noColor => exact ⟨"no-color", rfl⟩
    | verbose => exact ⟨"verbose", rfl⟩
    | help => exact ⟨"help", rfl⟩
    | version => exact ⟨"version", rfl⟩

/-- An item about an option can be written in front of words. -/
theorem Spelling.exists_cons {item : Item} {a : Argument} (about : item.key = some a)
    {items : List Item} {words : List Word} (spelling : Spelling items words) :
    ∃ word, Spelling (item :: items) (word :: words) := by
  obtain ⟨name, named⟩ := exists_long a
  cases item with
  | setting s value =>
      cases about
      exact ⟨_, .joined named value spelling⟩
  | switch s =>
      cases about
      exact ⟨_, .switch named spelling⟩
  | benchmark word => cases about

/-- Options and the benchmark can be written. -/
theorem exists_spelling_of_options (writable : c.Writable) {options : List Argument}
    (distinct : options.Nodup) :
    ∃ items words, Spelling items words ∧ Covers c (options.map some ++ [none]) items := by
  induction options with
  | nil =>
      have blank : Covers c [] [] := ⟨.nil, nofun, nofun, nofun⟩
      obtain same | ⟨item, about, has⟩ := exists_item writable none
      · exact ⟨[], [], .nil, blank.cons_of_sameAt same⟩
      · have covers := blank.cons has List.not_mem_nil
        rw [about] at covers
        cases item with
        -- the benchmark may begin with a hyphen, so it is written behind `--`
        | benchmark word => exact ⟨_, _, .rest [word], covers⟩
        | setting s value => cases about
        | switch s => cases about
  | cons a rest ih =>
      obtain ⟨apart, distinct⟩ := List.nodup_cons.mp distinct
      obtain ⟨items, words, spelling, covers⟩ := ih distinct
      obtain same | ⟨item, about, has⟩ := exists_item writable (some a)
      · exact ⟨items, words, spelling, covers.cons_of_sameAt same⟩
      · obtain ⟨word, spelling⟩ := spelling.exists_cons about
        have covers := covers.cons has (by simpa [about] using apart)
        rw [about] at covers
        exact ⟨item :: items, word :: words, spelling, covers⟩

/-- The options that there are. -/
def everyOption : List Argument :=
  [.setting .iterations, .setting .warmup, .setting .root, .setting .config, .setting .format,
    .setting .failedRuns, .setting .pinCore, .switch .noBuild, .switch .noColor,
    .switch .verbose, .switch .help, .switch .version]

theorem mem_everyKey (key : Option Argument) : key ∈ everyOption.map some ++ [none] := by
  rcases key with _ | ⟨s⟩ | ⟨s⟩
  · decide
  · cases s <;> decide
  · cases s <;> decide

/-- **Every command line can be written.** -/
theorem Writable.exists_words (writable : c.Writable) : ∃ items words, Spelling items words ∧
    (items.map Item.key).Nodup ∧ Amends {} items c := by
  obtain ⟨items, words, spelling, covers⟩ :=
    exists_spelling_of_options writable (show everyOption.Nodup by decide)
  exact ⟨items, words, spelling, covers.distinct, covers.has,
    fun key => covers.rest key (mem_everyKey key)⟩

/-! ## Reading back

The parts of the main result, put together.
-/

/-- **A command line is read back from its words.**

* However items are spelled, the words are read as the command line to which the items amend the
  blank one, if no option and no benchmark comes twice, and as no other; if one does come twice,
  they are refused.
* Words that are accepted spell items, so nothing else is ever read.
* Words are accepted exactly if nothing comes twice and each item is valid. A number is stored as
  the integer that its word spells, and digits are valid exactly if they are in its bounds.
* Every command line that can be written has such items and words. -/
theorem reads_back :
    (∀ items words, Spelling items words → ∀ c : CommandLine,
      parse words = .ok c ↔ (items.map Item.key).Nodup ∧ Amends {} items c) ∧
    (∀ items words, Spelling items words → ¬ (items.map Item.key).Nodup →
      ∃ refusal, parse words = .error refusal) ∧
    (∀ words c, parse words = .ok c → ∃ items, Spelling items words) ∧
    (∀ items words, Spelling items words →
      ((∃ c, parse words = .ok c) ↔
        (items.map Item.key).Nodup ∧ ∀ item ∈ items, item.Valid)) ∧
    (∀ items words, Spelling items words → ∀ c, parse words = .ok c →
      ∀ (s : Setting) (value : Word), s.bounds?.isSome → .setting s value ∈ items →
        ∃ n : ℕ, c.number? s = some n ∧ Spells value n) ∧
    (∀ (s : Setting) (low high : ℕ), s.bounds? = some (low, high) → ∀ digits, Digits digits →
      ((Item.setting s (Utf8.encode (String.ofList digits))).Valid ↔
        low ≤ valueOf digits ∧ valueOf digits ≤ high)) ∧
    ∀ c : CommandLine, c.Writable → ∃ items words, Spelling items words ∧
      (items.map Item.key).Nodup ∧ Amends {} items c := by
  refine ⟨?back, ?twice, ?all, ?accepted, ?stored, ?bounds, ?written⟩
  case back => exact fun items words spelling c => parse_eq_ok_iff spelling
  case twice =>
    intro items words spelling twice
    cases read : parse words with
    | error refusal => exact ⟨refusal, rfl⟩
    | ok c => exact absurd ((parse_eq_ok_iff spelling).mp read).1 twice
  case all => exact fun words c accepted => exists_spelling accepted
  case accepted => exact fun items words spelling => exists_parse_eq_ok_iff spelling
  -- the value read is the value of the item, and numeric settings keep it as a number
  case stored =>
    intro items words spelling c accepted s value numeric listed
    exact (((parse_eq_ok_iff spelling).mp accepted).2.has _ listed).number? numeric
  case bounds => exact fun s low high bounds digits h => valid_digits_iff bounds h
  case written => exact fun c writable => writable.exists_words

/-- The order of the words, the form of the options and a format that goes without saying make
no difference. -/
example :
    parse (["greet", "-v", "--iterations=50", "-w", "10"].map Utf8.encode)
      = parse (["--format", "human", "-vw=10", "-n50", "greet"].map Utf8.encode) := rfl

/-- A path need not be a text. -/
example : parse [Utf8.encode "--root", [0x2F, 0xFF]] = .ok { root := some ⟨[0x2F, 0xFF]⟩ } := rfl

/-- **Not every command line is read back**: no number of iterations is zero, so the words for
this are refused. -/
theorem not_every_line_is_read_back :
    let words : List Word := [Utf8.encode "-n", Utf8.encode "0"]
    Spelling [.setting .iterations (Utf8.encode "0")] words ∧
      Spells (Utf8.encode "0") (0 : UInt32).toNat ∧
      parse words = .error .valueValidation ∧
      parse words ≠ .ok { iterations := some 0 } := by
  intro words
  have letters : Letters [110] [] (some .iterations) := .apart rfl
  have spelling : Spelling ([] ++ [.setting .iterations (Utf8.encode "0")]) words :=
    .lettersApart letters (.inl (by decide)) .nil
  have zero : Digits ['0'] := ⟨by decide, List.forall_mem_singleton.mpr rfl⟩
  have refused : parse words = .error .valueValidation := by decide
  refine ⟨spelling, spells_encode_iff.mpr (.unsigned zero), refused, ?_⟩
  rw [refused]
  nofun

end CrossBench.CommandLine
