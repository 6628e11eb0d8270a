import CrossBench.CommandLine.Basic
import CrossBench.CommandLine.Help

/-!
# Reading a command line

The words of a command line are read from left to right.

* A word that begins with two hyphens is a long option, which may have its value behind `=`.
* A word that begins with one hyphen is a cluster of letters. The first letter whose option takes a
  value takes the rest of the word as its value, if there is a rest; one `=` in front is dropped.
* `--` makes plain words of all the words behind it, and a lone `-` is a plain word.
* A plain word is the value that the option before it waits for, or else the benchmark.

The names and letters of options are text, so that a word that is none can only be a value or the
benchmark. A separate value and the benchmark are looked at only when the next thing is read: the
next option, the benchmark or the end of the line. So an unknown option is reported before a bad
value in front of it. `CommandLine.parse` is a fold of `Progress.word` over the words, followed by
`Progress.finish`.
-/

namespace CrossBench.CommandLine

/-- The byte of `-`. -/
def hyphen : UInt8 := 0x2D

/-- The byte of `=`. -/
def equals : UInt8 := 0x3D

/-- The text of a word that has to be one. -/
def textOf (word : Word) : Except Refusal String :=
  match Utf8.decode? word with
  | some text => .ok text
  | none => .error .notText

/-- The number that a text spells in decimal, with a sign or without. -/
def integer? (text : String) : Option Int :=
  match text.toList with
  | '-' :: digits => (natural? digits).map fun n => -(n : Int)
  | '+' :: digits => (natural? digits).map fun n => (n : Int)
  | digits => (natural? digits).map fun n => (n : Int)
where
  /-- The number that decimal digits spell; there has to be one at least. -/
  natural? (digits : List Char) : Option Nat :=
    if digits ≠ [] ∧ digits.all Char.isDigit then
      some (digits.foldl (fun n c => n * 10 + (c.toNat - 48)) 0)
    else none

/-- A number of runs, at least `low`. -/
def runs (low : Int) (text : String) : Except Refusal UInt32 :=
  match integer? text with
  | some n =>
    if low ≤ n ∧ n < (Nat.pow 2 32 : Nat) then .ok (.ofNat n.toNat) else .error .valueValidation
  | none => .error .valueValidation

/-- The number of a core. A minus is refused, even in front of zero. -/
def core (text : String) : Except Refusal UInt64 :=
  match integer? text with
  | some n =>
    if 0 ≤ n ∧ n < (Nat.pow 2 64 : Nat) ∧ text.toList.head? ≠ some '-' then .ok (.ofNat n.toNat)
    else .error .valueValidation
  | none => .error .valueValidation

/-- A path that is not empty. -/
def filled (word : Word) : Except Refusal Path :=
  if word = [] then .error .invalidValue else .ok ⟨word⟩

/-- A format by its name. -/
def formatNamed (word : Word) : Except Refusal Format :=
  match Utf8.decode? word with
  | some "human" => .ok .human
  | some "csv" => .ok .csv
  | some "json" => .ok .json
  | _ => .error .invalidValue

/-- A policy by its name. -/
def policyNamed (word : Word) : Except Refusal FailedRuns :=
  match Utf8.decode? word with
  | some "record" => .ok .record
  | some "flag" => .ok .flag
  | _ => .error .invalidValue

/-- The command line with one more value. -/
def Setting.store (s : Setting) (value : Word) (c : CommandLine) : Except Refusal CommandLine :=
  match s with
  | .iterations => ((textOf value).bind (runs 1)).map fun n => { c with iterations := some n }
  | .warmup => ((textOf value).bind (runs 0)).map fun n => { c with warmup := some n }
  | .root => (filled value).map fun p => { c with root := some p }
  | .config => (filled value).map fun p => { c with config := some p }
  | .format => (formatNamed value).map fun f => { c with format := f }
  | .failedRuns => (policyNamed value).map fun f => { c with failedRuns := some f }
  | .pinCore => ((textOf value).bind core).map fun n => { c with pinCore := some n }

/-- The command line with one more switch. -/
def Switch.store (s : Switch) (c : CommandLine) : CommandLine :=
  match s with
  | .noBuild => { c with noBuild := true }
  | .noColor => { c with noColor := true }
  | .verbose => { c with verbose := true }
  | .help => c
  | .version => c

/-- The last thing that was read, if nobody has looked yet at what it says. -/
inductive Pending where
  /-- An option that takes a value, with the value if there is one. -/
  | setting (s : Setting) (value : Option Word)
  | benchmark (name : Word)

/-- A command line that has been read in part. -/
structure Progress where
  line : CommandLine := {}
  /-- The options that were given. -/
  seen : List Argument := []
  /-- Whether a benchmark was given. -/
  named : Bool := false
  pending : Option Pending := none
  /-- Whether only plain words follow. -/
  plainOnly : Bool := false

namespace Progress

/-- Takes note of an option; an option can be given once. -/
def note (p : Progress) (a : Argument) : Except Refusal Progress :=
  if a ∈ p.seen then .error .argumentConflict else .ok { p with seen := a :: p.seen }

/-- Gives an option its value. -/
def give (p : Progress) (s : Setting) (value : Word) : Except Refusal Progress := do
  let p ← p.note (.setting s)
  let line ← s.store value p.line
  return { p with line }

/-- Gives the benchmark its name. -/
def name (p : Progress) (name : Word) : Except Refusal Progress := do
  let text ← textOf name
  return { p with line := { p.line with benchmark := some text } }

/-- Looks at the last thing that was read. -/
def resolve (p : Progress) : Except Refusal Progress :=
  match p.pending with
  | none => .ok p
  | some (.setting _ none) => .error .invalidValue
  | some (.setting s (some value)) => { p with pending := none }.give s value
  | some (.benchmark word) => { p with pending := none }.name word

/-- An option that takes a value, with the value if it is in the same word. -/
def setting (p : Progress) (s : Setting) (attached : Option Word) : Except Refusal Progress := do
  let p ← p.resolve
  match attached with
  | some value => p.give s value
  | none => return { p with pending := some (.setting s none) }

/-- An option that takes no value; `long` if it was written with its long name. -/
def switch (p : Progress) (s : Switch) (long : Bool) : Except Refusal Progress := do
  let p ← p.resolve
  match s with
  | .help => throw (.help long)
  | .version => throw .version
  | s =>
    let p ← p.note (.switch s)
    return { p with line := s.store p.line }

/-- A long option, with what stands behind its `=`. -/
def long (p : Progress) (name : Word) (attached : Option Word) : Except Refusal Progress :=
  match (Utf8.decode? name).bind Argument.long?, attached with
  | none, _ => .error .unknownArgument
  | some (.setting s), attached => p.setting s attached
  | some (.switch s), none => p.switch s true
  | some (.switch _), some _ => .error .tooManyValues

/-- The value that the rest of a cluster is. -/
def attachedValue : Word → Option Word
  | [] => none
  | b :: rest => some (if b = equals then rest else b :: rest)

/-- A cluster of letters. Every letter that stands for an option is one byte. -/
def cluster (p : Progress) : Word → Except Refusal Progress
  | [] => .ok p
  | b :: rest =>
    match Argument.short? (.ofUInt8 b) with
    | none => .error .unknownArgument
    | some (.setting s) => p.setting s (attachedValue rest)
    | some (.switch s) =>
      match p.switch s false with
      | .error e => .error e
      | .ok p => p.cluster rest

/-- A word that is no value: the benchmark. There can be one. -/
def benchmark (p : Progress) (word : Word) : Except Refusal Progress :=
  if p.named then .error .unknownArgument
  else do
    let p ← p.resolve
    return { p with named := true, pending := some (.benchmark word) }

/-- A plain word: the value that an option waits for, or else the benchmark. -/
def plain (p : Progress) (word : Word) : Except Refusal Progress :=
  match p.pending with
  | some (.setting s none) =>
    if p.plainOnly then p.benchmark word
    else .ok { p with pending := some (.setting s (some word)) }
  | _ => p.benchmark word

/-- One word of the command line. -/
def word (p : Progress) (word : Word) : Except Refusal Progress :=
  match p.plainOnly, word with
  | false, first :: second :: rest =>
    if first ≠ hyphen then p.plain word
    else if second ≠ hyphen then p.cluster (second :: rest)
    else if rest = [] then .ok { p with plainOnly := true }
    else
      let name := rest.takeWhile (· ≠ equals)
      match rest.dropWhile (· ≠ equals) with
      | [] => p.long name none
      | _ :: value => p.long name (some value)
  | _, _ => p.plain word

/-- The end of the command line. -/
def finish (p : Progress) : Except Refusal CommandLine := (·.line) <$> p.resolve

end Progress

/-- Reads the words behind the name of the program. -/
def parse (words : List Word) : Except Refusal CommandLine := do
  let p ← words.foldlM Progress.word {}
  p.finish

/-- The name under which the program shows itself, from the word that it was called by. -/
def programName (calledBy : Option Word) : String :=
  ((calledBy.bind fun word => (⟨word⟩ : Path).fileName?).bind Utf8.decode?).getD "runbench"

end CrossBench.CommandLine
