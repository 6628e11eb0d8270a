import CrossBench.Proofs.CommandLine.Items
import Mathlib

/-!
# How a command line is spelled

The same items can be written in many ways: an option with its long name or its letter, a value
behind `=`, right behind the letter or in a word of its own, letters together in one word, and
the benchmark behind `--`.  `CommandLine.Spelling` lists them all, and reading words does what
taking the items does that they spell.

A value in a word of its own and the benchmark are looked at only when the next thing is read.
This makes no difference to what is accepted (`accepts_iff_resolve`): everything that is read of
a word, other than a plain value and `--`, looks first at what waits (`Resolves`).

* `CommandLine.Letters`, `CommandLine.Spelling` — words that spell items.
* `CommandLine.shape` — how a word may look.
* `CommandLine.Progress.accepts_iff_yields` — words do what the items do that they spell.
* `CommandLine.Progress.exists_spelling` — words that are accepted spell items.
-/

namespace CrossBench.CommandLine

/-! ## Words

The two relations are grammars, with a constructor for each way to write an item.  What a
word looks like is said apart from them (`Shape`), since the reader decides by that.
-/

/-- A word that is not read as an option: it does not begin with a hyphen, or is only that. -/
def Plain (word : Word) : Prop := word.head? ≠ some hyphen ∨ word = [hyphen]

/-- **Letters behind one hyphen**, with the items that they spell and the option, if any, whose
value is to be the next word.  The value of an option may follow its letter in the word, with
`=` or without. -/
inductive Letters : Word → List Item → Option Setting → Prop
  | nil : Letters [] [] none
  | switch {b : UInt8} {s : Switch} {rest : Word} {items : List Item}
      {waiting : Option Setting} (named : Argument.short? (.ofUInt8 b) = some (.switch s))
      (more : Letters rest items waiting) : Letters (b :: rest) (.switch s :: items) waiting
  | joined {b : UInt8} {s : Setting} {rest value : Word}
      (named : Argument.short? (.ofUInt8 b) = some (.setting s))
      (attached : Progress.attachedValue rest = some value) :
      Letters (b :: rest) [.setting s value] none
  | apart {b : UInt8} {s : Setting} (named : Argument.short? (.ofUInt8 b) = some (.setting s)) :
      Letters [b] [] (some s)

/-- **Words that spell items**, in the order of the items.  An option is written with its long
name or its letter; its value is joined to it or is the next word, which must be plain then; and
behind `--` every word is a benchmark. -/
inductive Spelling : List Item → List Word → Prop
  | nil : Spelling [] []
  | benchmark {word : Word} {items : List Item} {words : List Word} (plain : Plain word)
      (more : Spelling items words) : Spelling (.benchmark word :: items) (word :: words)
  | switch {name : String} {s : Switch} {items : List Item} {words : List Word}
      (named : Argument.long? name = some (.switch s)) (more : Spelling items words) :
      Spelling (.switch s :: items) (Utf8.encode ("--" ++ name) :: words)
  | joined {name : String} {s : Setting} {items : List Item} {words : List Word}
      (named : Argument.long? name = some (.setting s)) (value : Word)
      (more : Spelling items words) :
      Spelling (.setting s value :: items) ((Utf8.encode ("--" ++ name ++ "=") ++ value) :: words)
  | apart {name : String} {s : Setting} {value : Word} {items : List Item} {words : List Word}
      (named : Argument.long? name = some (.setting s)) (plain : Plain value)
      (more : Spelling items words) :
      Spelling (.setting s value :: items) (Utf8.encode ("--" ++ name) :: value :: words)
  | letters {letters : Word} {own items : List Item} {words : List Word}
      (filled : letters ≠ []) (cluster : Letters letters own none) (more : Spelling items words) :
      Spelling (own ++ items) ((hyphen :: letters) :: words)
  | lettersApart {letters value : Word} {s : Setting} {own items : List Item}
      {words : List Word} (cluster : Letters letters own (some s)) (plain : Plain value)
      (more : Spelling items words) :
      Spelling (own ++ .setting s value :: items) ((hyphen :: letters) :: value :: words)
  | rest (words : List Word) : Spelling (words.map .benchmark) (Utf8.encode "--" :: words)

/-- How a word may look. -/
inductive Shape : Word → Prop
  | plain {word : Word} (plain : Plain word) : Shape word
  | dashes : Shape [hyphen, hyphen]
  | letters (b : UInt8) (rest : Word) (other : b ≠ hyphen) : Shape (hyphen :: b :: rest)
  | long (name : Word) (filled : name ≠ []) (bare : equals ∉ name) :
      Shape (hyphen :: hyphen :: name)
  | joined (name value : Word) (bare : equals ∉ name) :
      Shape (hyphen :: hyphen :: (name ++ equals :: value))

/-- The part of a word in front of the first `=`, and what begins there. -/
theorem exists_name (word : Word) : ∃ name behind, word = name ++ behind ∧
    equals ∉ name ∧ (behind = [] ∨ ∃ value, behind = equals :: value) := by
  refine ⟨word.takeWhile (· ≠ equals), word.dropWhile (· ≠ equals),
    List.takeWhile_append_dropWhile.symm, fun mem => ?_, ?_⟩
  · simpa using List.mem_takeWhile_imp mem
  · have first := List.head?_dropWhile_not (fun b : UInt8 => decide (b ≠ equals)) word
    rcases behind : word.dropWhile (· ≠ equals) with _ | ⟨e, value⟩
    · exact .inl rfl
    · rw [behind] at first
      exact .inr ⟨value, by simpa using first⟩

/-- Every word looks like one of these. -/
theorem shape (word : Word) : Shape word := by
  rcases word with _ | ⟨b, rest⟩
  · exact .plain (.inl (by simp))
  by_cases dash : b = hyphen
  case neg => exact .plain (.inl (by simpa using dash))
  subst dash
  rcases rest with _ | ⟨d, rest⟩
  · exact .plain (.inr rfl)
  by_cases dash : d = hyphen
  case neg => exact .letters d rest dash
  subst dash
  -- two hyphens: what counts then is whether there is an equals sign
  obtain ⟨name, behind, rfl, bare, rfl | ⟨value, rfl⟩⟩ := exists_name rest
  · rw [List.append_nil]
    by_cases filled : name = []
    · exact filled ▸ .dashes
    · exact .long name filled bare
  · exact .joined name value bare

/-- The bytes of a long option. -/
theorem encode_long (name : String) :
    Utf8.encode ("--" ++ name) = hyphen :: hyphen :: Utf8.encode name := by
  rw [Utf8.encode_append]
  rfl

/-- The bytes of a long option with its value. -/
theorem encode_joined (name : String) (value : Word) :
    Utf8.encode ("--" ++ name ++ "=") ++ value
      = hyphen :: hyphen :: (Utf8.encode name ++ equals :: value) := by
  rw [Utf8.encode_append, encode_long]
  simp [show Utf8.encode "=" = [equals] from rfl]

/-- No option has an empty name, or one with `=` in it. -/
theorem filled_of_long? {name : String} {a : Argument} (named : Argument.long? name = some a) :
    Utf8.encode name ≠ [] ∧ equals ∉ Utf8.encode name := by
  have plain : name ≠ "" ∧ '=' ∉ name.toList := by
    unfold Argument.long? at named
    split at named <;> first | decide | cases named
  exact ⟨fun none => plain.1 (Utf8.encode_injective none),
    mt (Utf8.mem_encode_iff (d := '=') (by decide)).mp plain.2⟩

/-- No letter is a hyphen. -/
theorem ne_hyphen_of_short? {b : UInt8} {a : Argument}
    (named : Argument.short? (.ofUInt8 b) = some a) : b ≠ hyphen := by
  rintro rfl
  cases named

namespace Progress

variable {p q r : Progress} {c : CommandLine}

/-! ## One word

One equation for each shape of a word.  They hold while options may still follow, and behind
`--` there is only one shape.
-/

/-- A word that does not look like an option stands for itself. -/
theorem word_plain {word : Word} (plain : Plain word) (read : p.plainOnly = false) :
    p.word word = p.plain word := by
  unfold Progress.word
  rw [read]
  rcases plain with other | rfl
  · rcases word with _ | ⟨b, _ | ⟨d, rest⟩⟩
    · rfl
    · rfl
    · have other : b ≠ hyphen := by simpa using other
      exact if_pos other
  · rfl

/-- Behind two hyphens every word stands for itself. -/
theorem word_of_plainOnly {word : Word} (read : p.plainOnly = true) :
    p.word word = p.plain word := by
  unfold Progress.word
  rw [read]

/-- Two hyphens only change how words are read. -/
theorem word_dashes (read : p.plainOnly = false) :
    p.word [hyphen, hyphen] = .ok { p with plainOnly := true } := by
  unfold Progress.word
  rw [read]
  rfl

theorem word_letters {b : UInt8} {rest : Word} (other : b ≠ hyphen)
    (read : p.plainOnly = false) :
    p.word (hyphen :: b :: rest) = p.cluster (b :: rest) := by
  unfold Progress.word
  rw [read]
  simp [other]

/-- A name without `=` is what stands in front of the first one, or the whole word. -/
theorem name_of_word {name : Word} (bare : equals ∉ name) (behind : Word) :
    (name ++ behind).takeWhile (· ≠ equals) = name ++ behind.takeWhile (· ≠ equals) ∧
      (name ++ behind).dropWhile (· ≠ equals) = behind.dropWhile (· ≠ equals) := by
  have other : ∀ b ∈ name, decide (b ≠ equals) = true := fun _ mem =>
    decide_eq_true fun same => bare (same ▸ mem)
  exact ⟨List.takeWhile_append_of_pos other, List.dropWhile_append_of_pos other⟩

/-- A word that begins with two hyphens and is more than that. -/
theorem word_of_two_hyphens {rest : Word} (more : rest ≠ []) (read : p.plainOnly = false) :
    p.word (hyphen :: hyphen :: rest)
      = p.long (rest.takeWhile (· ≠ equals)) (rest.dropWhile (· ≠ equals)).tail? := by
  unfold Progress.word
  rw [read]
  dsimp only
  rw [if_neg (not_not_intro rfl), if_neg (not_not_intro rfl), if_neg more]
  cases rest.dropWhile (· ≠ equals) <;> rfl

theorem word_long {name : Word} (filled : name ≠ []) (bare : equals ∉ name)
    (read : p.plainOnly = false) : p.word (hyphen :: hyphen :: name) = p.long name none := by
  obtain ⟨front, behind⟩ := name_of_word bare []
  rw [List.append_nil] at front behind
  rw [word_of_two_hyphens filled read, front, behind]
  simp

/-- An equals sign parts the name of an option from its value. -/
theorem word_joined {name : Word} (bare : equals ∉ name) (value : Word)
    (read : p.plainOnly = false) :
    p.word (hyphen :: hyphen :: (name ++ equals :: value)) = p.long name (some value) := by
  obtain ⟨front, behind⟩ := name_of_word bare (equals :: value)
  rw [word_of_two_hyphens (by simp) read, front, behind]
  simp

/-! ## What waits

A reader looks at what waits when the next word comes, and the words that are accepted say
nothing about when it does.  `Resolves` is what makes the moment irrelevant: whatever is
read looks at what waits first, and fails with it.
-/

/-- That no option waits for a value that has not come yet. -/
def Settled (p : Progress) : Prop := ∀ s, p.pending ≠ some (.setting s none)

/-- What is known once one has looked at what waits. -/
theorem ready_of_resolve (resolved : p.resolve = .ok q) :
    q.pending = none ∧ q.plainOnly = p.plainOnly ∧ q.named = p.named := by
  unfold resolve at resolved
  split at resolved
  next ready =>
    cases resolved
    exact ⟨ready, rfl, rfl⟩
  next => cases resolved
  next s value _ =>
    obtain ⟨-, line, -, rfl⟩ := give_eq_ok_iff.mp resolved
    exact ⟨rfl, rfl, rfl⟩
  next word _ =>
    obtain ⟨text, -, rfl⟩ := name_eq_ok_iff.mp resolved
    exact ⟨rfl, rfl, rfl⟩

/-- Where nothing waits for a value all is settled. -/
theorem settled_of_ready (ready : p.pending = none) : p.Settled := fun s => by simp [ready]

/-- That something that is read makes one look first at what waits. -/
def Resolves (f : Progress → Except Refusal Progress) : Prop :=
  ∀ p r, f p = .ok r ↔ ∃ q, p.resolve = .ok q ∧ f q = .ok r

theorem Resolves.refused (e : Refusal) : Resolves fun _ => .error e := by
  intro p r
  constructor
  · rintro ⟨⟩
  · rintro ⟨q, -, ⟨⟩⟩

theorem Resolves.of_resolve {f g : Progress → Except Refusal Progress}
    (first : ∀ p, f p = p.resolve >>= g) : Resolves f := by
  intro p r
  rw [first, bind_eq_ok_iff]
  refine exists_congr fun q => and_congr_right fun resolved => ?_
  rw [first, resolve_of_ready (ready_of_resolve resolved).1]
  rfl

theorem Resolves.bind {f : Progress → Except Refusal Progress} (first : Resolves f)
    (g : Progress → Except Refusal Progress) : Resolves fun p => f p >>= g := by
  intro p r
  simp only [bind_eq_ok_iff]
  constructor
  · rintro ⟨p', done, more⟩
    obtain ⟨q, resolved, done⟩ := (first p p').mp done
    exact ⟨q, resolved, p', done, more⟩
  · rintro ⟨q, resolved, p', done, more⟩
    exact ⟨p', (first p p').mpr ⟨q, resolved, done⟩, more⟩

theorem Resolves.of_eq {f g : Progress → Except Refusal Progress} (first : Resolves f)
    (same : ∀ p, g p = f p) : Resolves g := by
  obtain rfl : g = f := funext same
  exact first

/-- A setting resolves what waits before it waits itself. -/
theorem resolves_setting (s : Setting) (attached : Option Word) :
    Resolves fun p => p.setting s attached := .of_resolve fun _ => rfl

theorem resolves_switch (s : Switch) (long : Bool) : Resolves fun p => p.switch s long :=
  .of_resolve fun _ => rfl

/-- An option by its name resolves what waits. -/
theorem resolves_long (name : Word) (attached : Option Word) :
    Resolves fun p => p.long name attached := by
  unfold long
  rcases (Utf8.decode? name).bind Argument.long? with _ | ⟨s⟩ | ⟨s⟩
  · exact .refused _
  · exact resolves_setting s attached
  · cases attached with
    | none => exact resolves_switch s true
    | some _ => exact .refused _

/-- A cluster of letters resolves what waits. -/
theorem resolves_cluster (b : UInt8) (rest : Word) :
    Resolves fun p => p.cluster (b :: rest) := by
  unfold cluster
  rcases Argument.short? (.ofUInt8 b) with _ | ⟨s⟩ | ⟨s⟩
  · exact .refused _
  · exact resolves_setting s _
  · refine .of_eq ((resolves_switch s false).bind fun p => p.cluster rest) fun p => ?_
    dsimp only
    cases p.switch s false <;> rfl

/-- A second benchmark is refused before one looks at what waits, which is a refusal all the
same. -/
theorem resolves_benchmark (word : Word) : Resolves fun p => p.benchmark word := by
  intro p r
  show p.benchmark word = .ok r ↔ ∃ q, p.resolve = .ok q ∧ q.benchmark word = .ok r
  constructor
  · intro done
    unfold benchmark at done
    split at done
    next => cases done
    next free =>
      obtain ⟨q, resolved, same⟩ := bind_eq_ok_iff.mp done
      cases same
      obtain ⟨ready, -, kept⟩ := ready_of_resolve resolved
      -- looking at what waits does not name a benchmark
      have free : q.named = false := kept.trans (by simpa using free)
      exact ⟨q, resolved, (benchmark_eq_ok_iff ready).mpr ⟨free, rfl⟩⟩
  · rintro ⟨q, resolved, done⟩
    obtain ⟨ready, -, kept⟩ := ready_of_resolve resolved
    obtain ⟨free, rfl⟩ := (benchmark_eq_ok_iff ready).mp done
    have free : ¬ p.named = true := by simp [← kept, free]
    unfold benchmark
    rw [if_neg free, resolved]
    rfl

/-! ## All words

`Accepts` goes along the words and looks at what waits when none is left, so a step of a
proof takes one word off the front.
-/

/-- That words lead from what has been read to a command line. -/
def Accepts (p : Progress) (words : List Word) (c : CommandLine) : Prop :=
  words.foldlM word p >>= finish = .ok c

/-- Without words a line is accepted if nothing waits for a value. -/
theorem accepts_nil_iff : p.Accepts [] c ↔ ∃ q, p.resolve = .ok q ∧ q.line = c := by
  show p.finish = .ok c ↔ _
  unfold finish
  cases p.resolve with
  | error e => exact iff_of_false nofun fun ⟨_, h, _⟩ => nomatch h
  | ok q => simp [Functor.map, Except.map]

theorem accepts_cons_iff {word : Word} {words : List Word} :
    p.Accepts (word :: words) c ↔ ∃ q, p.word word = .ok q ∧ q.Accepts words c := by
  have parted : (word :: words).foldlM Progress.word p >>= finish
      = p.word word >>= fun q => words.foldlM Progress.word q >>= finish := by
    rw [List.foldlM_cons]
    cases p.word word <;> rfl
  rw [Accepts, parted, bind_eq_ok_iff]
  rfl

/-- Whether only plain words follow does not matter to what waits. -/
theorem resolve_plainOnly (p : Progress) (b : Bool) : resolve { p with plainOnly := b } = .ok q ↔
    ∃ r, p.resolve = .ok r ∧ q = { r with plainOnly := b } := by
  unfold resolve
  -- nothing waits, or a setting without its value, with it, or a benchmark
  rcases pending : p.pending with _ | ⟨s, _ | value⟩ | word
  · simp [pending, eq_comm]
  · simp
  · simp only [give_eq_ok_iff]
    constructor
    · rintro ⟨fresh, line, stored, rfl⟩
      exact ⟨_, ⟨fresh, line, stored, rfl⟩, rfl⟩
    · rintro ⟨_, ⟨fresh, line, stored, rfl⟩, rfl⟩
      exact ⟨fresh, line, stored, rfl⟩
  · simp only [name_eq_ok_iff]
    constructor
    · rintro ⟨text, isText, rfl⟩
      exact ⟨_, ⟨text, isText, rfl⟩, rfl⟩
    · rintro ⟨_, ⟨text, isText, rfl⟩, rfl⟩
      exact ⟨text, isText, rfl⟩

/-- If no option waits for a value, a plain word is a benchmark. -/
theorem plain_of_settled {word : Word} (settled : p.Settled) :
    p.plain word = p.benchmark word := by
  unfold plain
  split
  next s waits => exact absurd waits (settled s)
  next => rfl

/-- One may look at what waits before a plain word is read, if that is not its value. -/
theorem plain_eq_ok_iff {word : Word} (settled : p.Settled) :
    p.plain word = .ok r ↔ ∃ q, p.resolve = .ok q ∧ q.plain word = .ok r := by
  rw [plain_of_settled settled]
  refine (resolves_benchmark word p r).trans (exists_congr fun q => and_congr_right fun done => ?_)
  rw [plain_of_settled (settled_of_ready (ready_of_resolve done).1)]

/-- One may look at what waits before any word is read, if it is not `--` and not the value of
an option that waits. -/
theorem word_eq_ok_iff {word : Word} (settled : p.Settled)
    (other : word ≠ [hyphen, hyphen] ∨ p.plainOnly = true) :
    p.word word = .ok r ↔ ∃ q, p.resolve = .ok q ∧ q.word word = .ok r := by
  -- what is read of the word does not depend on what has been read before it
  have read (f : Progress → Except Refusal Progress)
      (same : ∀ q : Progress, q.plainOnly = p.plainOnly → q.word word = f q)
      (resolves : f p = .ok r ↔ ∃ q, p.resolve = .ok q ∧ f q = .ok r) :
      p.word word = .ok r ↔ ∃ q, p.resolve = .ok q ∧ q.word word = .ok r := by
    rw [same p rfl, resolves]
    refine exists_congr fun q => and_congr_right fun resolved => ?_
    rw [same q (ready_of_resolve resolved).2.1]
  cases only : p.plainOnly with
  | true =>
      exact read _ (fun q kept => word_of_plainOnly (kept.trans only)) (plain_eq_ok_iff settled)
  | false =>
      cases shape word with
      | plain plain =>
          exact read _ (fun q kept => word_plain plain (kept.trans only)) (plain_eq_ok_iff settled)
      | dashes => simp [only] at other
      | letters b rest first =>
          exact read _ (fun q kept => word_letters first (kept.trans only))
            (resolves_cluster b rest p r)
      | long name filled bare =>
          exact read _ (fun q kept => word_long filled bare (kept.trans only))
            (resolves_long name none p r)
      | joined name value bare =>
          exact read _ (fun q kept => word_joined bare value (kept.trans only))
            (resolves_long name value p r)

/-- **It makes no difference when one looks at what waits**, unless it waits for a value. -/
theorem accepts_iff_resolve {words : List Word} (settled : p.Settled) :
    p.Accepts words c ↔ ∃ q, p.resolve = .ok q ∧ q.Accepts words c := by
  induction words generalizing p with
  | nil =>
      simp only [accepts_nil_iff]
      refine exists_congr fun q => and_congr_right fun resolved => ?_
      rw [resolve_of_ready (ready_of_resolve resolved).1]
      simp
  | cons word rest ih =>
      -- `--` leaves waiting what waits, and the words behind it are to be asked
      by_cases other : word ≠ [hyphen, hyphen] ∨ p.plainOnly = true
      · simp only [accepts_cons_iff, word_eq_ok_iff settled other]
        constructor
        · rintro ⟨r, ⟨q, resolved, read⟩, accepts⟩
          exact ⟨q, resolved, r, read, accepts⟩
        · rintro ⟨q, resolved, r, read, accepts⟩
          exact ⟨r, ⟨q, resolved, read⟩, accepts⟩
      · obtain ⟨rfl, only⟩ : word = [hyphen, hyphen] ∧ p.plainOnly = false := by simpa using other
        have behind {q : Progress} (kept : q.plainOnly = false) :
            q.Accepts ([hyphen, hyphen] :: rest) c ↔
              Accepts { q with plainOnly := true } rest c := by
          simp [accepts_cons_iff, word_dashes kept]
        rw [behind only, ih (p := { p with plainOnly := true }) settled]
        simp only [resolve_plainOnly]
        constructor
        · rintro ⟨_, ⟨q, resolved, rfl⟩, accepts⟩
          have kept := (ready_of_resolve resolved).2.1
          exact ⟨q, resolved, (behind (kept.trans only)).mpr accepts⟩
        · rintro ⟨q, resolved, accepts⟩
          have kept := (ready_of_resolve resolved).2.1
          exact ⟨_, ⟨q, resolved, rfl⟩, (behind (kept.trans only)).mp accepts⟩

/-! ## Items that words spell

Both directions of the main lemma are one induction on the spelling.  The invariant is
`Idle`: between items nothing waits and options may follow.
-/

/-- That nothing waits and options may follow. -/
structure Idle (p : Progress) : Prop where
  ready : p.pending = none
  mixed : p.plainOnly = false

theorem eq_of_ready (ready : p.pending = none) : { p with pending := none } = p := by
  rw [← ready]

theorem Idle.take {item : Item} (idle : p.Idle) (taken : p.take item = .ok q) : q.Idle :=
  have takes := takes_of_take idle.ready taken
  ⟨takes.ready, takes.plainOnly.trans idle.mixed⟩

theorem Idle.takeAll {items : List Item} (idle : p.Idle) (taken : p.takeAll items = .ok q) :
    q.Idle := by
  induction items generalizing p with
  | nil =>
      cases taken
      exact idle
  | cons item rest ih =>
      obtain ⟨r, first, others⟩ := takeAll_cons_iff.mp taken
      exact ih (idle.take first) others

/-- That items lead from what has been read to a command line. -/
def Yields (p : Progress) (items : List Item) (c : CommandLine) : Prop :=
  ∃ q, p.takeAll items = .ok q ∧ q.line = c

theorem yields_append_iff (own items : List Item) :
    p.Yields (own ++ items) c ↔ ∃ q, p.takeAll own = .ok q ∧ q.Yields items c := by
  simp only [Yields, takeAll_append_iff]
  constructor
  · rintro ⟨r, ⟨q, first, others⟩, line⟩
    exact ⟨q, first, r, others, line⟩
  · rintro ⟨q, first, r, others, line⟩
    exact ⟨r, ⟨q, first, others⟩, line⟩

theorem yields_cons_iff {item : Item} {items : List Item} :
    p.Yields (item :: items) c ↔ ∃ q, p.take item = .ok q ∧ q.Yields items c := by
  simp only [← takeAll_singleton item]
  exact yields_append_iff [item] items

/-- Whether only plain words follow does not matter to items. -/
theorem yields_plainOnly_iff {items : List Item} (ready : p.pending = none) (b : Bool) :
    Yields { p with plainOnly := b } items c ↔ p.Yields items c := by
  have fresh (key : Option Argument) : Fresh { p with plainOnly := b } key ↔ p.Fresh key := by
    cases key <;> exact Iff.rfl
  refine (takeAll_iff (p := { p with plainOnly := b }) ready).trans ?_
  simp only [fresh]
  exact (takeAll_iff ready).symm

theorem setting_some (ready : p.pending = none) (s : Setting) (value : Word) :
    p.setting s (some value) = p.take (.setting s value) := by
  rw [setting, resolve_of_ready ready]
  rfl

theorem setting_none (ready : p.pending = none) (s : Setting) :
    p.setting s none = .ok { p with pending := some (.setting s none) } := by
  rw [setting, resolve_of_ready ready]
  rfl

theorem switch_iff_take {s : Switch} (ready : p.pending = none) (long : Bool) :
    p.switch s long = .ok q ↔ p.take (.switch s) = .ok q :=
  (switch_eq_ok_iff ready).trans (switch_eq_ok_iff ready).symm

/-- A name that is a text is looked up as this text. -/
theorem bind_long?_encode (name : String) :
    (Utf8.decode? (Utf8.encode name)).bind Argument.long? = Argument.long? name := by
  rw [Utf8.decode?_eq_some_iff.mpr rfl]
  rfl

theorem long_of_setting {name : String} {s : Setting}
    (named : Argument.long? name = some (.setting s)) (attached : Option Word) :
    p.long (Utf8.encode name) attached = p.setting s attached := by
  unfold long
  rw [bind_long?_encode, named]

theorem long_of_switch {name : String} {s : Switch}
    (named : Argument.long? name = some (.switch s)) :
    p.long (Utf8.encode name) none = p.switch s true := by
  unfold long
  rw [bind_long?_encode, named]

/-- A setting takes what is left of the cluster as its value. -/
theorem cluster_of_setting {b : UInt8} {rest : Word} {s : Setting}
    (named : Argument.short? (.ofUInt8 b) = some (.setting s)) :
    p.cluster (b :: rest) = p.setting s (attachedValue rest) := by
  rw [cluster, named]

/-- A switch leaves what follows it to the rest of the cluster. -/
theorem cluster_of_switch {b : UInt8} {rest : Word} {s : Switch}
    (named : Argument.short? (.ofUInt8 b) = some (.switch s)) :
    p.cluster (b :: rest) = p.switch s false >>= fun q => q.cluster rest := by
  rw [cluster, named]
  dsimp only
  cases p.switch s false <;> rfl

/-- **What letters do**: the items that they spell are taken, and then an option waits if they
say so. -/
theorem cluster_eq_ok_iff {letters : Word} {items : List Item} {waiting : Option Setting}
    (spelling : Letters letters items waiting) (idle : p.Idle) :
    p.cluster letters = .ok r ↔
      ∃ q, p.takeAll items = .ok q ∧ r = { q with pending := waiting.map (.setting · none) } := by
  induction spelling generalizing p with
  | nil =>
      show Except.ok p = .ok r ↔ ∃ q, Except.ok p = .ok q ∧ r = { q with pending := none }
      simp [eq_of_ready idle.ready, eq_comm]
  -- a switch is taken before the letters behind it are looked at
  | switch named more ih =>
      rw [cluster_of_switch named, bind_eq_ok_iff]
      simp only [switch_iff_take idle.ready, takeAll_cons_iff]
      constructor
      · rintro ⟨p', taken, read⟩
        obtain ⟨q, others, same⟩ := (ih (idle.take taken)).mp read
        exact ⟨q, ⟨p', taken, others⟩, same⟩
      · rintro ⟨q, ⟨p', taken, others⟩, same⟩
        exact ⟨p', taken, (ih (idle.take taken)).mpr ⟨q, others, same⟩⟩
  | joined named attached =>
      rw [cluster_of_setting named, attached, setting_some idle.ready, takeAll_singleton]
      constructor
      · exact fun taken => ⟨r, taken, (eq_of_ready (idle.take taken).ready).symm⟩
      · rintro ⟨q, taken, rfl⟩
        rwa [Option.map_none, eq_of_ready (idle.take taken).ready]
  -- the value is the next word: nothing is taken yet, the setting waits
  | apart named =>
      rw [cluster_of_setting named, attachedValue, setting_none idle.ready]
      show _ ↔ ∃ q, Except.ok p = .ok q ∧ _
      simp [eq_comm]

/-- An option that waits takes a plain word as its value. -/
theorem accepts_value_iff {s : Setting} {value : Word} {words : List Word} (idle : p.Idle)
    (plain : Plain value) :
    Accepts { p with pending := some (.setting s none) } (value :: words) c ↔
      ∃ q, p.take (.setting s value) = .ok q ∧ q.Accepts words c := by
  have kept : word { p with pending := some (.setting s none) } value
      = .ok { p with pending := some (.setting s (some value)) } := by
    rw [word_plain (p := { p with pending := some (.setting s none) }) plain idle.mixed,
      Progress.plain]
    simp [idle.mixed]
  have looked : resolve { p with pending := some (.setting s (some value)) }
      = p.take (.setting s value) := by
    rw [take, ← eq_of_ready idle.ready]
    rfl
  rw [accepts_cons_iff, ← looked, ← accepts_iff_resolve fun s => by simp]
  simp [kept]

/-- A word that is read as a benchmark may be looked at on the spot. -/
theorem accepts_benchmark_iff {word : Word} {words : List Word} (ready : p.pending = none)
    (read : p.word word = p.benchmark word) : p.Accepts (word :: words) c ↔
      ∃ q, p.take (.benchmark word) = .ok q ∧ q.Accepts words c := by
  have looked {r : Progress} (waits : p.benchmark word = .ok r) :
      r.Accepts words c ↔ ∃ q, r.resolve = .ok q ∧ q.Accepts words c := by
    obtain ⟨-, rfl⟩ := (benchmark_eq_ok_iff ready).mp waits
    exact accepts_iff_resolve fun s => by simp
  simp only [accepts_cons_iff, read, take, bind_eq_ok_iff]
  constructor
  · rintro ⟨r, waits, accepts⟩
    obtain ⟨q, resolved, accepts⟩ := (looked waits).mp accepts
    exact ⟨q, ⟨r, waits, resolved⟩, accepts⟩
  · rintro ⟨q, ⟨r, waits, resolved⟩, accepts⟩
    exact ⟨r, waits, (looked waits).mpr ⟨q, resolved, accepts⟩⟩

/-- A plain word is a benchmark if nothing waits. -/
theorem word_of_idle {word : Word} (idle : p.Idle) (plain : Plain word) :
    p.word word = p.benchmark word := by
  rw [word_plain plain idle.mixed, plain_of_settled (settled_of_ready idle.ready)]

/-- Behind `--` every word is a benchmark. -/
theorem accepts_iff_yields_of_plainOnly {words : List Word} (ready : p.pending = none)
    (only : p.plainOnly = true) : p.Accepts words c ↔ p.Yields (words.map .benchmark) c := by
  induction words generalizing p with
  | nil => simp [accepts_nil_iff, resolve_of_ready ready, Yields, takeAll, pure, Except.pure]
  | cons word rest ih =>
      have read : p.word word = p.benchmark word := by
        rw [word_of_plainOnly only, plain_of_settled (settled_of_ready ready)]
      rw [accepts_benchmark_iff ready read, List.map_cons, yields_cons_iff]
      refine exists_congr fun q => and_congr_right fun taken => ?_
      have takes := takes_of_take ready taken
      exact ih takes.ready (takes.plainOnly.trans only)

/-- A word that is one item. -/
theorem accepts_item_iff {word : Word} {item : Item} {items : List Item} {words : List Word}
    (idle : p.Idle) (read : ∀ q, p.word word = .ok q ↔ p.take item = .ok q)
    (more : ∀ {q : Progress}, q.Idle → (q.Accepts words c ↔ q.Yields items c)) :
    p.Accepts (word :: words) c ↔ p.Yields (item :: items) c := by
  simp only [accepts_cons_iff, yields_cons_iff, read]
  exact exists_congr fun q => and_congr_right fun taken => more (idle.take taken)

/-- A word that has items and leaves an option waiting, with the value of the option. -/
theorem accepts_apart_iff {word value : Word} {s : Setting} (own : List Item)
    {items : List Item} {words : List Word} (idle : p.Idle) (plain : Plain value)
    (read : ∀ r, p.word word = .ok r ↔
      ∃ q, p.takeAll own = .ok q ∧ r = { q with pending := some (.setting s none) })
    (more : ∀ {q : Progress}, q.Idle → (q.Accepts words c ↔ q.Yields items c)) :
    p.Accepts (word :: value :: words) c ↔ p.Yields (own ++ .setting s value :: items) c := by
  -- the value belongs to the option that the word before it left waiting
  have behind {q : Progress} (idle : q.Idle) :
      Accepts { q with pending := some (.setting s none) } (value :: words) c ↔
        q.Yields (.setting s value :: items) c := by
    rw [accepts_value_iff idle plain, yields_cons_iff]
    exact exists_congr fun r => and_congr_right fun taken => more (idle.take taken)
  rw [accepts_cons_iff, yields_append_iff]
  simp only [read]
  constructor
  · rintro ⟨_, ⟨q, taken, rfl⟩, accepts⟩
    exact ⟨q, taken, (behind (idle.takeAll taken)).mp accepts⟩
  · rintro ⟨q, taken, yields⟩
    exact ⟨_, ⟨q, taken, rfl⟩, (behind (idle.takeAll taken)).mpr yields⟩

/-- The word of some letters is read as the letters are. -/
theorem word_of_letters {letters : Word} {items : List Item} {waiting : Option Setting}
    (spelling : Letters letters items waiting) (filled : letters ≠ [])
    (mixed : p.plainOnly = false) : p.word (hyphen :: letters) = p.cluster letters := by
  cases spelling with
  | nil => exact absurd rfl filled
  | switch named more => exact word_letters (ne_hyphen_of_short? named) mixed
  | joined named attached => exact word_letters (ne_hyphen_of_short? named) mixed
  | apart named => exact word_letters (ne_hyphen_of_short? named) mixed

/-- **Words do what the items do that they spell.** -/
theorem accepts_iff_yields {items : List Item} {words : List Word}
    (spelling : Spelling items words) (idle : p.Idle) :
    p.Accepts words c ↔ p.Yields items c := by
  induction spelling generalizing p with
  | nil => simp [accepts_nil_iff, resolve_of_ready idle.ready, Yields, takeAll, pure, Except.pure]
  | benchmark plain more ih =>
      rw [accepts_benchmark_iff idle.ready (word_of_idle idle plain), yields_cons_iff]
      exact exists_congr fun q => and_congr_right fun taken => ih (idle.take taken)
  | switch named more ih =>
      refine accepts_item_iff idle (fun q => ?_) ih
      obtain ⟨filled, bare⟩ := filled_of_long? named
      rw [encode_long, word_long filled bare idle.mixed, long_of_switch named]
      exact switch_iff_take idle.ready true
  | joined named value more ih =>
      refine accepts_item_iff idle (fun q => ?_) ih
      rw [encode_joined, word_joined (filled_of_long? named).2 value idle.mixed,
        long_of_setting named, setting_some idle.ready]
  | apart named plain more ih =>
      refine accepts_apart_iff [] idle plain (fun r => ?_) ih
      obtain ⟨filled, bare⟩ := filled_of_long? named
      rw [encode_long, word_long filled bare idle.mixed, long_of_setting named,
        setting_none idle.ready]
      show _ ↔ ∃ q, Except.ok p = .ok q ∧ _
      simp [eq_comm]
  | letters filled cluster more ih =>
      rw [accepts_cons_iff, yields_append_iff, word_of_letters cluster filled idle.mixed]
      simp only [cluster_eq_ok_iff cluster idle]
      constructor
      · rintro ⟨_, ⟨q, taken, rfl⟩, accepts⟩
        have idle := idle.takeAll taken
        rw [Option.map_none, eq_of_ready idle.ready] at accepts
        exact ⟨q, taken, (ih idle).mp accepts⟩
      · rintro ⟨q, taken, yields⟩
        have idle := idle.takeAll taken
        exact ⟨q, ⟨q, taken, (eq_of_ready idle.ready).symm⟩, (ih idle).mpr yields⟩
  | lettersApart cluster plain more ih =>
      refine accepts_apart_iff _ idle plain (fun r => ?_) ih
      rw [word_of_letters cluster (by rintro rfl; cases cluster) idle.mixed]
      exact cluster_eq_ok_iff cluster idle
  | rest words =>
      have dashes : Utf8.encode "--" = [hyphen, hyphen] := rfl
      -- benchmarks do the same whether or not options may follow
      rw [accepts_cons_iff, dashes, word_dashes idle.mixed,
        ← yields_plainOnly_iff idle.ready true]
      simpa using accepts_iff_yields_of_plainOnly (p := { p with plainOnly := true }) idle.ready rfl

/-! ## Every accepted line

The other way round there is no spelling to go along.  The induction is on the number of
words, since a word that leaves an option waiting is taken together with the next one.
-/

/-- Nothing but a plain word gives an option the value that it waits for. -/
theorem not_of_resolves {f : Progress → Except Refusal Progress} (resolves : Resolves f)
    {s : Setting} (waits : p.pending = some (.setting s none)) : f p ≠ .ok r := by
  intro done
  obtain ⟨q, resolved, -⟩ := (resolves p r).mp done
  rw [resolve, waits] at resolved
  cases resolved

theorem not_accepts_nil {s : Setting} (waits : p.pending = some (.setting s none)) :
    ¬ p.Accepts [] c := by
  intro accepts
  obtain ⟨q, resolved, -⟩ := accepts_nil_iff.mp accepts
  rw [resolve, waits] at resolved
  cases resolved

/-- Behind `--` an option waits in vain. -/
theorem not_accepts_of_plainOnly {s : Setting} {words : List Word}
    (waits : p.pending = some (.setting s none)) (only : p.plainOnly = true) :
    ¬ p.Accepts words c := by
  cases words with
  | nil => exact not_accepts_nil waits
  | cons word rest =>
      intro accepts
      obtain ⟨q, read, -⟩ := accepts_cons_iff.mp accepts
      rw [word_of_plainOnly only, Progress.plain, waits] at read
      simp only [only, if_true] at read
      exact not_of_resolves (resolves_benchmark word) waits read

/-- An option that waits gets its value, and this is a plain word. -/
theorem exists_value {s : Setting} {words : List Word} (idle : p.Idle)
    (accepts : Accepts { p with pending := some (.setting s none) } words c) :
    ∃ value rest, words = value :: rest ∧ Plain value ∧
      ∃ q : Progress, q.Idle ∧ q.Accepts rest c := by
  -- a setting that waits does not change how words are classed
  have mixed : { p with pending := some (.setting s none) }.plainOnly = false := idle.mixed
  cases words with
  | nil => exact absurd accepts (not_accepts_nil rfl)
  | cons value rest =>
      obtain ⟨q, read, more⟩ := accepts_cons_iff.mp accepts
      cases shape value with
      | plain plain =>
          obtain ⟨q, taken, more⟩ := (accepts_value_iff idle plain).mp accepts
          exact ⟨value, rest, rfl, plain, q, idle.take taken, more⟩
      | dashes =>
          rw [word_dashes mixed] at read
          cases read
          -- `--` leaves the setting waiting for good
          exact absurd more (not_accepts_of_plainOnly rfl rfl)
      | letters b rest first =>
          rw [word_letters first mixed] at read
          -- the remaining shapes name options, and an option is no value
          exact absurd read (not_of_resolves (resolves_cluster b rest) rfl)
      | long name filled bare =>
          rw [word_long filled bare mixed] at read
          exact absurd read (not_of_resolves (resolves_long name none) rfl)
      | joined name value bare =>
          rw [word_joined bare value mixed] at read
          exact absurd read (not_of_resolves (resolves_long name value) rfl)

/-- Only where the cluster ends is there no value in it. -/
theorem attachedValue_eq_none_iff {rest : Word} : attachedValue rest = none ↔ rest = [] := by
  cases rest with
  | nil => exact iff_of_true rfl rfl
  | cons b rest => exact iff_of_false nofun (List.cons_ne_nil b rest)

/-- Letters that can be read spell items. -/
theorem exists_letters {letters : Word} (idle : p.Idle) (read : p.cluster letters = .ok q) :
    ∃ items waiting, Letters letters items waiting := by
  induction letters generalizing p with
  | nil => exact ⟨[], none, .nil⟩
  | cons b rest ih =>
      rcases named : Argument.short? (.ofUInt8 b) with _ | ⟨s⟩ | ⟨s⟩
      · rw [cluster, named] at read
        cases read
      · rcases attached : attachedValue rest with _ | value
        · obtain rfl := attachedValue_eq_none_iff.mp attached
          exact ⟨_, _, .apart named⟩
        · exact ⟨_, _, .joined named attached⟩
      · -- a switch, and the letters behind it by induction
        rw [cluster_of_switch named] at read
        obtain ⟨r, switched, more⟩ := bind_eq_ok_iff.mp read
        have idle := idle.take ((switch_iff_take idle.ready false).mp switched)
        obtain ⟨items, waiting, letters⟩ := ih idle more
        exact ⟨_, _, .switch named letters⟩

/-- A long option that can be read has a name that there is, and a value only if it takes one. -/
theorem named_of_long {name : Word} {attached : Option Word}
    (read : p.long name attached = .ok q) : ∃ text, name = Utf8.encode text ∧
      ((∃ s, Argument.long? text = some (.setting s)) ∨
        attached = none ∧ ∃ s, Argument.long? text = some (.switch s)) := by
  unfold long at read
  split at read
  next => cases read
  next s named =>
    obtain ⟨text, isText, named⟩ := Option.bind_eq_some_iff.mp named
    exact ⟨text, Utf8.decode?_eq_some_iff.mp isText, .inl ⟨s, named⟩⟩
  next s named =>
    obtain ⟨text, isText, named⟩ := Option.bind_eq_some_iff.mp named
    exact ⟨text, Utf8.decode?_eq_some_iff.mp isText, .inr ⟨rfl, s, named⟩⟩
  next => cases read

/-- A word and what is read with it spell items if what is behind them does. -/
theorem exists_spelling_cons {word : Word} {words : List Word} (idle : p.Idle)
    (accepts : p.Accepts (word :: words) c)
    (onward : ∀ {q : Progress} {behind : List Word}, q.Idle → q.Accepts behind c →
      behind.length ≤ words.length → ∃ items, Spelling items behind) :
    ∃ items, Spelling items (word :: words) := by
  obtain ⟨q, read, more⟩ := accepts_cons_iff.mp accepts
  -- the shape of the first word picks the constructor; `onward` spells what it leaves
  cases shape word with
  | plain plain =>
      obtain ⟨q, taken, more⟩ :=
        (accepts_benchmark_iff idle.ready (word_of_idle idle plain)).mp accepts
      obtain ⟨items, spelling⟩ := onward (idle.take taken) more le_rfl
      exact ⟨_, .benchmark plain spelling⟩
  | dashes => exact ⟨_, .rest words⟩
  | letters b rest first =>
      rw [word_letters first idle.mixed] at read
      obtain ⟨own, waiting, letters⟩ := exists_letters idle read
      obtain ⟨r, taken, rfl⟩ := (cluster_eq_ok_iff letters idle).mp read
      have idle := idle.takeAll taken
      cases waiting with
      | none =>
          rw [Option.map_none, eq_of_ready idle.ready] at more
          obtain ⟨items, spelling⟩ := onward idle more le_rfl
          exact ⟨_, .letters (List.cons_ne_nil b rest) letters spelling⟩
      | some s =>
          -- the last letter waits for a value, which the next word has to be
          obtain ⟨value, words, rfl, plain, q, idle, more⟩ := exists_value idle more
          obtain ⟨items, spelling⟩ := onward idle more (Nat.le_succ _)
          exact ⟨_, .lettersApart letters plain spelling⟩
  | long name filled bare =>
      rw [word_long filled bare idle.mixed] at read
      obtain ⟨text, rfl, ⟨s, named⟩ | ⟨-, s, named⟩⟩ := named_of_long read
      · rw [long_of_setting named, setting_none idle.ready] at read
        cases read
        obtain ⟨value, words, rfl, plain, q, idle, more⟩ := exists_value idle more
        obtain ⟨items, spelling⟩ := onward idle more (Nat.le_succ _)
        rw [← encode_long]
        exact ⟨_, .apart named plain spelling⟩
      · rw [long_of_switch named, switch_iff_take idle.ready] at read
        obtain ⟨items, spelling⟩ := onward (idle.take read) more le_rfl
        rw [← encode_long]
        exact ⟨_, .switch named spelling⟩
  | joined name value bare =>
      rw [word_joined bare value idle.mixed] at read
      obtain ⟨text, rfl, ⟨s, named⟩ | ⟨⟨⟩, -⟩⟩ := named_of_long read
      rw [long_of_setting named, setting_some idle.ready] at read
      obtain ⟨items, spelling⟩ := onward (idle.take read) more le_rfl
      rw [← encode_joined]
      exact ⟨_, .joined named value spelling⟩

/-- **Words that are accepted spell items.** -/
theorem exists_spelling {words : List Word} (idle : p.Idle) (accepts : p.Accepts words c) :
    ∃ items, Spelling items words := by
  -- a value may be a word of its own, so the induction is on a bound of the number of words
  obtain ⟨bound, within⟩ : ∃ n, words.length ≤ n := ⟨_, le_rfl⟩
  induction bound generalizing p words with
  | zero =>
      obtain rfl := List.eq_nil_of_length_eq_zero (Nat.le_zero.mp within)
      exact ⟨[], .nil⟩
  | succ bound ih =>
      cases words with
      | nil => exact ⟨[], .nil⟩
      | cons word words =>
          exact exists_spelling_cons idle accepts fun idle accepts short =>
            ih idle accepts (short.trans (Nat.le_of_succ_le_succ within))

end Progress

end CrossBench.CommandLine
