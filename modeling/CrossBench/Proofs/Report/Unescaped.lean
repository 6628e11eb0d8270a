import CrossBench.Proofs.Json.Numeral
import CrossBench.Report.Reporter
import Mathlib.Tactic.SplitIfs

/-!
# Texts without the escape character

`Unescaped` says of a text that the escape character is not in it.  A report is put together
from texts that somebody has chosen and from words and numbers of the program's own.  The
first are the `Event.texts`: tags, names, paths, commands and diagnostics.  The second are
dealt with here once and for all, one lemma for each kind: numbers, times, the words for the
end of a process and for an error of the system.

* `Unescaped.detail` and its like — a message is without the escape character if the texts
  in it are.
* `Csv.unescaped_lines` — so are the rows for an event.
* `Json.Value.unescaped_pretty` — a document is so in any case, because control characters
  are written by their numbers in it.
-/

namespace CrossBench

/-- A text without the escape character. -/
def Unescaped (text : String) : Prop := '\x1b' ∉ text.toList

namespace Unescaped

variable {s t : String}

/-- An escape character comes from one of the two parts. -/
theorem append (hs : Unescaped s) (ht : Unescaped t) : Unescaped (s ++ t) := by
  rw [Unescaped, String.toList_append, List.mem_append]
  exact not_or.mpr ⟨hs, ht⟩

theorem of_chars {chars : List Char} (others : '\x1b' ∉ chars) :
    Unescaped (String.ofList chars) := by
  rwa [Unescaped, String.toList_ofList]

theorem of_wordChars {chars : List Char}
    (words : ∀ c ∈ chars, Json.Lexer.wordChar c = true) : Unescaped (String.ofList chars) :=
  of_chars fun mem => absurd (words _ mem) (by decide)

/-! ### Numbers -/

theorem repr (n : Nat) : Unescaped n.repr := by
  rw [Nat.repr_eq_ofList_toDigits]
  exact of_wordChars (Json.wordChar_toDigits n)

theorem int (i : Int) : Unescaped (toString i) := by
  cases i with
  | ofNat n => exact repr n
  | negSucc n => exact append (s := "-") (of_chars (by decide)) (repr _)

theorem hexadecimal (n : Nat) : Unescaped (String.ofList (Nat.toDigits 16 n)) := by
  have others : ∀ c ∈ Nat.toDigits 16 n, c ≠ '\x1b' := by
    induction n using Nat.strongRecOn with
    | ind n ih =>
      have digit : ∀ d < 16, Nat.digitChar d ≠ '\x1b' := by decide
      rw [Nat.toDigits_eq_if (by decide)]
      split
      · next small => exact List.forall_mem_singleton.mpr (digit n small)
      · next large =>
          refine List.forall_mem_append.mpr ⟨ih _ (by omega), ?_⟩
          exact List.forall_mem_singleton.mpr (digit _ (Nat.mod_lt n (by decide)))
  exact of_chars fun mem => others _ mem rfl

theorem pointed (places n : Nat) : Unescaped (Decimal.pointed places n) := by
  unfold Decimal.pointed
  refine (repr _).append ?_
  split
  · exact of_chars (by decide)
  · refine append (s := ".") (of_chars (by decide)) (of_wordChars ?_)
    refine List.forall_mem_append.mpr ⟨fun c mem => ?_, Json.wordChar_toDigits _⟩
    exact Json.wordChar_of_isDigit (Json.isDigit_zeros _ c mem)

/-- A printed double has no escape character, whatever it is. -/
theorem fixed (places : Nat) (x : Float) : Unescaped (Decimal.fixed places x) := by
  unfold Decimal.fixed
  split
  · exact of_chars (by decide)
  · split <;> exact of_chars (by decide)
  · refine append ?_ (pointed _ _)
    split <;> exact of_chars (by decide)

/-! ### Words -/

/-- Words in a row have one only if one of them has one. -/
theorem intercalate {words : List String} (each : ∀ word ∈ words, Unescaped word) :
    Unescaped (" ".intercalate words) := by
  induction words with
  | nil => exact of_chars (by decide)
  | cons word rest ih =>
      obtain ⟨first, others⟩ := List.forall_mem_cons.mp each
      cases rest with
      | nil => rwa [String.intercalate_singleton]
      | cons next rest =>
          rw [String.intercalate_cons_cons]
          exact (first.append (of_chars (by decide))).append (ih others)

/-- Filling a text up with blanks brings none into it. -/
theorem left {text : String} (h : Unescaped text) (width : Nat) :
    Unescaped (Cell.left ⟨text, width, none⟩ ' ') := by
  refine of_chars fun mem => ?_
  rcases List.mem_append.mp mem with shown | filling
  · exact h shown
  · exact absurd (List.eq_of_mem_replicate filling) (by decide)

/-- None of the texts of the system has one. -/
theorem systemText (number : Int) : Unescaped (IoError.systemText number) := by
  unfold IoError.systemText
  split
  case h_133 => exact append (of_chars (by decide)) (int _)
  all_goals exact of_chars (by decide)

/-- None of the names of signals has one. -/
theorem signalName (number : Nat) : Unescaped (signalName number) := by
  unfold CrossBench.signalName
  split <;> exact of_chars (by decide)

/-- The words for the end of a process. -/
theorem waitStatus (status : WaitStatus) : Unescaped status.message := by
  unfold WaitStatus.message
  -- exited, killed, stopped, or a status that is none of these
  cases status.code? with
  | some code => exact append (of_chars (by decide)) (repr code)
  | none =>
      cases status.signal? with
      | some signal =>
          refine append (append (append (of_chars (by decide)) (repr signal))
            (signalName _)) ?_
          split <;> exact of_chars (by decide)
      | none =>
          cases status.stop? with
          | some signal =>
              exact append (append (of_chars (by decide)) (repr signal)) (signalName _)
          | none =>
              dsimp only
              split
              · exact of_chars (by decide)
              · exact append (append (append (of_chars (by decide)) (int _))
                  (of_chars (by decide))) (hexadecimal _)

/-- None of the reasons to build has one. -/
theorem staleness (reason : Staleness) : Unescaped reason.message := by
  cases reason <;> exact of_chars (by decide)

end Unescaped

/-! ### Documents -/

namespace Json

/-- In a string of a document, a control character is written as an escape of other characters. -/
theorem unescaped_escape (c : Char) : '\x1b' ∉ escape c := by
  have digit : ∀ n < 16, '\x1b' ≠ Nat.digitChar n := by decide
  unfold escape
  split_ifs with _ _ _ _ _ _ _ low
  -- the letters that a backslash makes of characters that have one
  iterate 7 decide
  · have high : c.toNat / 16 < 16 := by omega
    have last : c.toNat % 16 < 16 := Nat.mod_lt _ (by decide)
    simp [digit _ high, digit _ last]
  · rw [List.mem_singleton]
    rintro rfl
    exact low (by decide)

/-- A string of a document has none, whatever stands in it. -/
theorem unescaped_quoted (s : String) : '\x1b' ∉ quoted s := by
  intro mem
  rcases List.mem_append.mp mem with mem | mem
  · rcases List.mem_cons.mp mem with quote | mem
    · exact absurd quote (by decide)
    · obtain ⟨c, -, mem⟩ := List.mem_flatMap.mp mem
      exact unescaped_escape c mem
  · exact absurd (List.mem_singleton.mp mem) (by decide)

/-- A line break and its indentation have none. -/
theorem unescaped_lineBreak (depth : Nat) : '\x1b' ∉ lineBreak depth := by
  intro mem
  rcases List.mem_cons.mp mem with lineFeed | mem
  · exact absurd lineFeed (by decide)
  · exact absurd (List.eq_of_mem_replicate mem) (by decide)

namespace Value

mutual

/-- **A document has no escape character**, at any depth and whatever texts are in it. -/
theorem unescaped_render (depth : Nat) : ∀ value : Value, '\x1b' ∉ value.render depth
  | .null => by simp [render]
  | .nat n => fun mem => absurd (wordChar_toDigits n _ mem) (by decide)
  | .number x => fun mem => absurd (wordChar_numeral x _ mem) (by decide)
  | .string s => unescaped_quoted s
  | .array [] => by simp [render]
  | .array (item :: rest) => by
      simp [render, unescaped_lineBreak, unescaped_render (depth + 1) item,
        unescaped_renderItems (depth + 1) rest]
  | .object [] => by simp [render]
  | .object ((key, value) :: rest) => by
      simp [render, unescaped_lineBreak, unescaped_quoted,
        unescaped_render (depth + 1) value, unescaped_renderFields (depth + 1) rest]

theorem unescaped_renderItems (depth : Nat) : ∀ items : List Value,
    '\x1b' ∉ renderItems depth items
  | [] => by simp [renderItems]
  | item :: rest => by
      simp [renderItems, unescaped_lineBreak, unescaped_render depth item,
        unescaped_renderItems depth rest]

theorem unescaped_renderFields (depth : Nat) : ∀ fields : List (String × Value),
    '\x1b' ∉ renderFields depth fields
  | [] => by simp [renderFields]
  | (key, value) :: rest => by
      simp [renderFields, unescaped_lineBreak, unescaped_quoted,
        unescaped_render depth value, unescaped_renderFields depth rest]

end

/-- **A document has no escape character**, whatever texts stand in it. -/
theorem unescaped_pretty (value : Value) : Unescaped value.pretty :=
  .of_chars (unescaped_render 0 value)

end Value

end Json

/-! ## The texts of a report

Which texts of an event are somebody else's.  A message is made of these and of fixed words.
-/

/-- The text of a failure, unless it is one of the system's own. -/
def IoError.texts : IoError → List String
  | .system _ => []
  | .custom text => [text]

/-- The texts in an error of the build: its command, its output, and where the program was
to be. -/
def BuildError.texts : BuildError → List String
  | .emptyCommand => []
  | .spawn commandLine reason => commandLine :: reason.texts
  | .failed commandLine _ stderr => [commandLine, stderr]
  | .missingArtifact path => [path.toText]

def BuildOutcome.texts : BuildOutcome → List String
  | .failed _ error => error.texts
  | _ => []

/-- The texts of the native program that are reported: its tag, and the words of the build
command. -/
def Gate.texts (gate : Gate) : List String := gate.tag.text :: gate.command

def FileResult.texts (result : FileResult) : List String := [result.file, result.tag.text]

def SuiteReport.texts (report : SuiteReport) : List String :=
  report.name :: report.results.flatMap FileResult.texts

/-- **The texts of an event**: tags, names of suites and files, paths, commands and
diagnostics. -/
def Event.texts : Event → List String
  | .buildStarted gate _ => gate.texts
  | .buildFinished gate outcome => gate.texts ++ outcome.texts
  | .noSuites root => [root.toText]
  | .suiteStarted name _ => [name]
  | .fileMeasured suite _ result => suite :: result.texts
  | .suiteFinished report => report.texts
  | .runFinished => []

/-- Events without the escape character in their texts. -/
def Event.Unescaped (event : Event) : Prop := ∀ text ∈ event.texts, CrossBench.Unescaped text

namespace Unescaped

/-- The message about a failed operation has one only if one of its texts does. -/
theorem ioError {reason : IoError} (each : ∀ text ∈ reason.texts, Unescaped text) :
    Unescaped reason.message := by
  cases reason with
  | system number =>
      exact append (append (append (systemText _) (of_chars (by decide))) (int _))
        (of_chars (by decide))
  | custom text => exact each text (List.mem_singleton_self _)

/-- The message about a failed build has one only if one of its texts does. -/
theorem buildError {error : BuildError} (each : ∀ text ∈ error.texts, Unescaped text) :
    Unescaped error.message := by
  cases error with
  | emptyCommand => exact of_chars (by decide)
  | spawn commandLine reason =>
      obtain ⟨line, rest⟩ := List.forall_mem_cons.mp each
      exact append (append (append (of_chars (by decide)) line) (of_chars (by decide)))
        (ioError rest)
  | failed commandLine status stderr =>
      have line := each commandLine (List.mem_cons_self ..)
      exact append (append (append (of_chars (by decide)) line) (of_chars (by decide)))
        (waitStatus status)
  | missingArtifact path =>
      have text := each path.toText (List.mem_singleton_self _)
      exact append (append (of_chars (by decide)) text) (of_chars (by decide))

/-- What is shown of an error of the build. -/
theorem detail {error : BuildError} (each : ∀ text ∈ error.texts, Unescaped text) :
    Unescaped (error.diagnostics?.getD error.message) := by
  unfold BuildError.diagnostics?
  split
  · split
    · exact buildError each
    · exact each _ (List.mem_cons_of_mem _ (List.mem_singleton_self _))
  · exact buildError each

/-- A command on one line has one only if one of its words does. -/
theorem commandLine {gate : Gate} (each : ∀ word ∈ gate.command, Unescaped word) :
    Unescaped gate.commandLine :=
  intercalate each

end Unescaped

/-! ## Rows

A row has its own words and numbers, and the names of the suite and the tag.
-/

namespace Csv

open Unescaped (of_chars)

/-- The rows of a result have one only if the names of its suite and its tag do. -/
theorem unescaped_rows {suite : String} (named : Unescaped suite) (plan : Plan)
    {result : FileResult} (tag : Unescaped result.tag.text) :
    ∀ row ∈ rows suite plan result, Unescaped row := by
  -- all rows of a file begin with the same subject
  have about : Unescaped (subject suite plan result.tag) :=
    (((((((of_chars (by decide)).append named).append (of_chars (by decide))).append
      tag).append (of_chars (by decide))).append (.repr _)).append (of_chars (by decide))).append
      (.repr _)
  refine List.forall_mem_append.mpr ⟨?_, ?_⟩
  · split
    · exact List.forall_mem_nil _
    · next s _ =>
        intro row mem
        obtain ⟨⟨statistic, value⟩, listed, rfl⟩ := List.mem_map.mp mem
        have word : Unescaped statistic := by
          simp only [statistics, List.mem_cons, List.not_mem_nil, or_false,
            Prod.mk.injEq] at listed
          rcases listed with ⟨rfl, -⟩ | ⟨rfl, -⟩ | ⟨rfl, -⟩ | ⟨rfl, -⟩ | ⟨rfl, -⟩
          all_goals exact of_chars (by decide)
        exact ((((about.append (of_chars (by decide))).append word).append
          (of_chars (by decide))).append (.fixed 6 value)).append (of_chars (by decide))
  · split
    · exact List.forall_mem_nil _
    · next failed _ =>
        refine List.forall_mem_singleton.mpr ?_
        exact ((about.append (of_chars (by decide))).append (.repr failed)).append
          (of_chars (by decide))

/-- The lines about an event have one only if its texts do. -/
theorem unescaped_lines {event : Event} (clear : event.Unescaped) :
    ∀ line ∈ lines event, Unescaped line := by
  unfold lines
  split
  · next suite plan result =>
      obtain ⟨named, rest⟩ := List.forall_mem_cons.mp clear
      exact unescaped_rows named plan (rest _ (by simp [FileResult.texts]))
  · exact List.forall_mem_nil _

end Csv

end CrossBench
