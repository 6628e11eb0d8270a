import CrossBench.CommandLine.Parse
import Mathlib.Data.Nat.Notation

/-!
# What is true of every accepted command line

A command line is put together word by word, and only three things are ever done to it: a
setting gets a value, a switch is set, and the benchmark is named.  So whatever is true of
the empty line and is not undone by any of the three is true of every line that is
accepted.

* `CommandLine.Stable` — such a property.
* `CommandLine.Stable.of_parse` — every accepted command line has it.
* `CommandLine.one_le_iterations` — a number of iterations that is accepted is not zero.
-/

namespace CrossBench.CommandLine

variable {P : CommandLine → Prop}

/-- A property of the empty command line that nothing that is done to a line undoes. -/
structure Stable (P : CommandLine → Prop) : Prop where
  blank : P {}
  setting : ∀ {c c' : CommandLine} (s : Setting) (value : Word), P c →
    s.store value c = .ok c' → P c'
  switch : ∀ {c : CommandLine} (s : Switch), P c → P (s.store c)
  benchmark : ∀ {c : CommandLine} (text : String), P c → P { c with benchmark := some text }

namespace Progress

/-- Whatever a reading has come to, the line has the property. -/
def Keeps (P : CommandLine → Prop) (answer : Except Refusal Progress) : Prop :=
  ∀ p, answer = .ok p → P p.line

/-- A reading that has come to a line with the property. -/
theorem Keeps.ok {p : Progress} (h : P p.line) : Keeps P (.ok p) := by
  intro q same
  cases same
  exact h

/-- A reading that was refused has come to no line. -/
theorem Keeps.error (e : Refusal) : Keeps P (.error e) := by
  intro p same
  cases same

/-- One step after the other keeps the property if each of them does. -/
theorem Keeps.bind {answer : Except Refusal Progress} {f : Progress → Except Refusal Progress}
    (first : Keeps P answer) (onward : ∀ p, P p.line → Keeps P (f p)) :
    Keeps P (answer >>= f) := by
  cases answer with
  | error e => exact .error e
  | ok p => exact onward p (first p rfl)

/-! ## One word

One lemma for each function of the reader, in the order in which they call one another.  The
property is abstract, so none of them looks into a setting.
-/

variable {p : Progress}

/-- Taking note of an option leaves the line as it is. -/
theorem keeps_note (h : P p.line) (a : Argument) : Keeps P (p.note a) := by
  unfold note
  split
  · exact .error _
  · exact .ok h

/-- A value that is given goes into the line. -/
theorem keeps_give (stable : Stable P) (h : P p.line) (s : Setting) (value : Word) :
    Keeps P (p.give s value) := by
  refine (keeps_note h _).bind fun p h => ?_
  cases stored : s.store value p.line with
  | error e => exact .error e
  | ok line => exact .ok (stable.setting s value h stored)

/-- So does the name of the benchmark, if it is a text. -/
theorem keeps_name (stable : Stable P) (h : P p.line) (word : Word) : Keeps P (p.name word) := by
  unfold name
  cases textOf word with
  | error e => exact .error e
  | ok text => exact .ok (stable.benchmark text h)

/-- What waits is a value, the benchmark or nothing at all. -/
theorem keeps_resolve (stable : Stable P) (h : P p.line) : Keeps P p.resolve := by
  unfold resolve
  split
  · exact .ok h
  · exact .error _
  · exact keeps_give (p := { p with pending := none }) stable h _ _
  · exact keeps_name (p := { p with pending := none }) stable h _

/-- An option that takes a value makes what waits go into the line, and its own value if that
is in the same word. -/
theorem keeps_setting (stable : Stable P) (h : P p.line) (s : Setting)
    (attached : Option Word) : Keeps P (p.setting s attached) := by
  refine (keeps_resolve stable h).bind fun p h => ?_
  cases attached with
  | none => exact .ok h
  | some value => exact keeps_give stable h s value

/-- A switch that is not for help or the version is set in the line. -/
theorem keeps_switch (stable : Stable P) (h : P p.line) (s : Switch) (long : Bool) :
    Keeps P (p.switch s long) := by
  refine (keeps_resolve stable h).bind fun p h => ?_
  have noted : ∀ s : Switch, Keeps P (do
      let p ← p.note (.switch s)
      return { p with line := s.store p.line }) := fun s =>
    (keeps_note h _).bind fun p h => .ok (stable.switch s h)
  cases s with
  | help => exact .error _
  | version => exact .error _
  | noBuild => exact noted .noBuild
  | noColor => exact noted .noColor
  | verbose => exact noted .verbose

theorem keeps_long (stable : Stable P) (h : P p.line) (name : Word)
    (attached : Option Word) : Keeps P (p.long name attached) := by
  unfold long
  split
  · exact .error _
  · exact keeps_setting stable h _ _
  · exact keeps_switch stable h _ _
  · exact .error _

/-- Letters are switches up to the first option that takes a value. -/
theorem keeps_cluster (stable : Stable P) (h : P p.line) (letters : Word) :
    Keeps P (p.cluster letters) := by
  induction letters generalizing p with
  | nil => exact .ok h
  | cons b rest ih =>
      unfold cluster
      split
      · exact .error _
      · exact keeps_setting stable h _ _
      · split
        · exact .error _
        · next q switched => exact ih (keeps_switch stable h _ _ q switched)

/-- The benchmark itself only waits. -/
theorem keeps_benchmark (stable : Stable P) (h : P p.line) (word : Word) :
    Keeps P (p.benchmark word) := by
  unfold benchmark
  split
  · exact .error _
  · exact (keeps_resolve stable h).bind fun p h => .ok h

theorem keeps_plain (stable : Stable P) (h : P p.line) (word : Word) :
    Keeps P (p.plain word) := by
  unfold plain
  split
  · split
    · exact keeps_benchmark stable h word
    · exact .ok h
  · exact keeps_benchmark stable h word

/-- **One word** keeps the property, whatever kind of word it is. -/
theorem keeps_word (stable : Stable P) (h : P p.line) (text : Word) :
    Keeps P (p.word text) := by
  unfold word
  split
  · split
    · exact keeps_plain stable h _
    · split
      · exact keeps_cluster stable h _
      · split
        · exact .ok h
        · dsimp only
          split <;> exact keeps_long stable h _ _
  · exact keeps_plain stable h _

/-! ## All words -/

/-- By induction on the words, all of them keep it. -/
theorem keeps_words (stable : Stable P) (h : P p.line) (words : List Word) :
    Keeps P (words.foldlM word p) := by
  induction words generalizing p with
  | nil => exact .ok h
  | cons text rest ih => exact (keeps_word stable h text).bind fun p h => ih h

end Progress

/-- **Every accepted command line** has the properties that reading keeps. -/
theorem Stable.of_parse (stable : Stable P) {words : List Word} {c : CommandLine}
    (accepted : parse words = .ok c) : P c := by
  have read : Progress.Keeps P (words.foldlM Progress.word {} >>= Progress.resolve) :=
    (Progress.keeps_words stable stable.blank words).bind fun _ => Progress.keeps_resolve stable
  -- looking at what waits is the last thing that is done before the line is answered
  have finished : parse words
      = (·.line) <$> (words.foldlM Progress.word {} >>= Progress.resolve) := by
    unfold parse Progress.finish
    cases words.foldlM Progress.word {} <;> rfl
  rw [finished] at accepted
  cases resolved : words.foldlM Progress.word {} >>= Progress.resolve with
  | error e =>
      rw [resolved] at accepted
      cases accepted
  | ok p =>
      rw [resolved] at accepted
      cases accepted
      exact read p resolved

/-! ## The number of iterations

The one property that is needed of every accepted line: zero iterations are refused where
the word is read, and nothing else touches the field.
-/

theorem exists_of_bind_eq_ok {α β : Type} {answer : Except Refusal α}
    {f : α → Except Refusal β} {b : β} (bound : answer.bind f = .ok b) :
    ∃ a, answer = .ok a ∧ f a = .ok b := by
  cases answer with
  | error e => cases bound
  | ok a => exact ⟨a, rfl, bound⟩

theorem exists_of_map_eq_ok {α β : Type} {answer : Except Refusal α} {f : α → β} {b : β}
    (mapped : answer.map f = .ok b) : ∃ a, answer = .ok a ∧ f a = b := by
  cases answer with
  | error e => cases mapped
  | ok a =>
      cases mapped
      exact ⟨a, rfl, rfl⟩

/-- A number of runs that is accepted is at least the one that was asked for. -/
theorem le_toNat_of_runs {low : Nat} {text : String} {n : UInt32}
    (accepted : runs low text = .ok n) : low ≤ n.toNat := by
  unfold runs at accepted
  split at accepted
  · split at accepted
    · next k _ bounds =>
      cases accepted
      have small : k.toNat < 2 ^ 32 := by
        have := bounds.2
        simp only [Nat.pow_eq] at this
        omega
      rw [UInt32.toNat_ofNat_of_lt' small]
      omega
    · cases accepted
  · cases accepted

/-- Only a setting for the iterations touches their number. -/
theorem stable_iterations : Stable fun c => ∀ n, c.iterations = some n → 1 ≤ n.toNat where
  blank := nofun
  setting := by
    intro c c' s value h stored
    cases s with
    | iterations =>
        obtain ⟨n, read, rfl⟩ := exists_of_map_eq_ok stored
        obtain ⟨text, -, accepted⟩ := exists_of_bind_eq_ok read
        rintro _ ⟨⟩
        exact le_toNat_of_runs accepted
    -- the other settings leave the iterations as they are
    | warmup | root | config | format | failedRuns | pinCore =>
        obtain ⟨_, -, rfl⟩ := exists_of_map_eq_ok stored
        exact h
  switch := by
    intro c s h
    cases s <;> exact h
  benchmark := fun _ h => h

/-- **A number of iterations that is accepted is not zero.** -/
theorem one_le_iterations {words : List Word} {c : CommandLine}
    (accepted : parse words = .ok c) {n : UInt32} (given : c.iterations = some n) :
    1 ≤ n.toNat :=
  stable_iterations.of_parse accepted n given

end CrossBench.CommandLine
