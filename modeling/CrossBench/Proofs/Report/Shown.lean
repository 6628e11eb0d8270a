import CrossBench.Proofs.Decimal.Rounded
import CrossBench.Proofs.Report.Rows
import CrossBench.Report.Human

/-!
# Statistics in print

A statistic is looked up in a report by its name.  In the rows it is the figure of the row
that has the name in front of it, in a line the time behind the name and an equals sign.
What is found is the statistic in print, and neither the suite nor the tag nor the colours
can change that:

* `Csv.printed?_rows` — the rows of a result show each statistic with six places;
* `Human.printed?_resultLine` — its line shows each statistic with two places.

A row is read from its end, since the suite in it may have any name.  A line is too: its tag
may be any text, also one that ends with a name and a number, but it stands in front of all
the figures (`Human.exists_figures_resultLine`).

As printed doubles are the nearest decimals and keep their order (`Decimal.exists_rounds`,
`Decimal.ordered_shown?`), a summary whose median is between its least and its greatest
time is shown like that in both formats (`Summary.nearest_and_in_order`).
-/

namespace CrossBench

open Decimal (fixed)
open Doubles

/-! ## Rows

The figure is read from the end of the row, because in front of it stand names that may have
commas.
-/

namespace Csv

/-- The figure of a row.  It is in the last three fields, whatever the suite and the tag are. -/
def figure? (row : String) : Option Figure :=
  match (fields row).reverse with
  | unit :: value :: statistic :: _ => some ⟨statistic, value, unit⟩
  | _ => none

/-- What is printed for a statistic in the rows of a result. -/
def printed? (statistic : String) (rows : List String) : Option String :=
  ((rows.filterMap figure?).find? (·.statistic = statistic)).map (·.value)

theorem figure?_row (suite : String) (plan : Plan) (tag : Tag) {figure : Figure}
    (plain : figure.Plain) : figure? (row suite plan tag figure) = some figure := by
  rw [figure?, fields_row suite plan tag plain, List.reverse_append]
  rfl

theorem filterMap_figure?_rows (suite : String) (plan : Plan) (result : FileResult) :
    (rows suite plan result).filterMap figure? = figures result := by
  have each : ∀ figure ∈ figures result,
      (figure? ∘ row suite plan result.tag) figure = some figure := by
    intro figure mem
    rw [Function.comp_apply, figure?_row suite plan result.tag (figures_plain result figure mem)]
  rw [rows_eq_map, List.filterMap_map, List.filterMap_congr each, List.filterMap_some]

/-- **Rows show the statistics**, each one with six places. -/
theorem printed?_rows (suite : String) (plan : Plan) {result : FileResult} {s : Summary}
    (summary : result.summary = some s) : ∀ entry ∈ statistics s,
      printed? entry.1 (rows suite plan result) = some (fixed 6 entry.2) := by
  unfold printed?
  rw [filterMap_figure?_rows, figures, summary]
  simp [statistics, Figure.ofTime]

/-- The number that is shown for a statistic in the rows of a result. -/
noncomputable def shown? (statistic : String) (rows : List String) : Option EReal :=
  (printed? statistic rows).bind Decimal.shown?

/-- **Rows keep the order** of any two statistics. -/
theorem ordered_rows (suite : String) (plan : Plan) {result : FileResult} {s : Summary}
    (summary : result.summary = some s) {entry entry' : String × Float}
    (listed : entry ∈ statistics s) (listed' : entry' ∈ statistics s)
    (le : entry.2 ≤ entry'.2) :
    Ordered (shown? entry.1 (rows suite plan result))
      (shown? entry'.1 (rows suite plan result)) := by
  rw [shown?, shown?, printed?_rows suite plan summary entry listed,
    printed?_rows suite plan summary entry' listed']
  exact Decimal.ordered_shown? 6 le

end Csv

/-! ## Lines

A line has an equals sign in front of each figure, so it is divided there, and the name of a
figure is the last word of the part before.
-/

namespace Human

/-- The statistics of a summary under their names in a line. -/
def statistics (s : Summary) : List (String × Float) :=
  [("min", s.min), ("med", s.median), ("avg", s.mean), ("max", s.max), ("σ", s.stdev)]

/-- What stands behind the last blank. -/
def lastWord (cs : List Char) : List Char := (cs.reverse.takeWhile (· ≠ ' ')).reverse

/-- A text without the code in front of it that switches a style on, if there is one. -/
def uncoded : List Char → List Char
  | '\x1b' :: cs => (cs.dropWhile (· ≠ 'm')).tail
  | cs => cs

/-- What stands in front of the unit of a time. -/
def timeIn (cs : List Char) : List Char := (uncoded cs).takeWhile (· ≠ 'm')

/-- The figures in the parts of a line, the last one first.  In front of each part stands the
name of its figure, as the last word of the part before. -/
def figures : List (List Char) → List (String × String)
  | before :: part :: parts =>
      figures (part :: parts) ++ [(String.ofList (lastWord before), String.ofList (timeIn part))]
  | _ => []

/-- What is printed under a name in a line.  Where the name is there more than once, which can
only come from a tag, this is the last. -/
def printed? (name line : String) : Option String :=
  (figures (line.toList.splitOn '=')).lookup name

example : printed? "med" "  .sh     min=1.00ms  med=1.99ms  avg=2.00ms  max=3.46ms  σ=0.50ms"
    = some "1.99" := by decide +kernel

/-! ### Parts of a line

Colours put a code in front of a time and another behind it.  Both have to be passed over
without mistaking their digits for the time.
-/

/-- Parts of a line that meet in a whole part show what each shows. -/
theorem figures_append (front : List (List Char)) (part : List Char)
    (rest : List (List Char)) :
    figures (front ++ part :: rest) = figures (part :: rest) ++ figures (front ++ [part]) := by
  induction front with
  | nil => simp [figures]
  | cons first front ih =>
      cases front with
      | nil => simp [figures]
      | cons second front =>
          simp only [List.cons_append, figures] at ih ⊢
          rw [ih, List.append_assoc]

/-- A text without an equals sign ends the last part. -/
theorem exists_splitOn_append (xs : List Char) {ys : List Char} (none : '=' ∉ ys) :
    ∃ front last, (xs ++ ys).splitOn '=' = front ++ [last ++ ys] := by
  induction xs with
  | nil => exact ⟨[], [], List.splitOn_eq_singleton none⟩
  | cons x xs ih =>
      obtain ⟨front, last, split⟩ := ih
      rw [List.cons_append, List.splitOn_cons_eq_if_modifyHead, split]
      split_ifs
      · exact ⟨[] :: front, last, rfl⟩
      · cases front with
        | nil => exact ⟨[], x :: last, rfl⟩
        | cons first front => exact ⟨(x :: first) :: front, last, rfl⟩

/-- The last word of a text is what stands behind its last blank. -/
theorem lastWord_append (cs : List Char) {word : List Char} (none : ' ' ∉ word) :
    lastWord (cs ++ ' ' :: word) = word := by
  have letters : ∀ c ∈ word.reverse, (decide (c ≠ ' ')) = true := by
    intro c mem
    exact decide_eq_true fun same => none (same ▸ List.mem_reverse.mp mem)
  have reversed : (cs ++ ' ' :: word).reverse = word.reverse ++ ' ' :: cs.reverse := by simp
  rw [lastWord, reversed, List.takeWhile_append_of_pos letters]
  simp

theorem uncoded_of_ne {c : Char} (other : c ≠ '\x1b') (cs : List Char) :
    uncoded (c :: cs) = c :: cs := by
  unfold uncoded
  split
  next parts => exact absurd (List.cons.inj parts).1 other
  next => rfl

/-- A character of numbers in print is not one that they never have. -/
theorem ne_of_printChar {c d : Char} (h : Decimal.printChar c = true)
    (other : Decimal.printChar d = false) : c ≠ d := by
  rintro rfl
  exact Bool.false_ne_true (other.symm.trans h)

/-- Whether there are colours or not, the time is found in front of its unit. -/
theorem timeIn_paint (style : Style) (colored : Bool) (x : Float) (rest : List Char) :
    timeIn ((style.paint colored (milliseconds x)).toList ++ rest) = (fixed 2 x).toList := by
  have chars := Decimal.printChar_fixed 2 x
  have stops (behind : List Char) :
      ((fixed 2 x).toList ++ 'm' :: behind).takeWhile (· ≠ 'm') = (fixed 2 x).toList := by
    -- the unit begins at the first `m`, which no printed number has
    have goes : ∀ c ∈ (fixed 2 x).toList, decide (c ≠ 'm') = true :=
      fun c mem => decide_eq_true (ne_of_printChar (chars c mem) rfl)
    rw [List.takeWhile_append_of_pos goes]
    simp
  have unit : (milliseconds x).toList = (fixed 2 x).toList ++ ['m', 's'] := by simp [milliseconds]
  unfold timeIn
  cases colored with
  | false =>
      -- without colours there is no code to skip
      have plain (behind : List Char) : uncoded ((fixed 2 x).toList ++ 'm' :: behind)
          = (fixed 2 x).toList ++ 'm' :: behind := by
        cases digits : (fixed 2 x).toList with
        | nil => exact uncoded_of_ne (by decide) _
        | cons c cs =>
            have first := chars c (digits ▸ List.mem_cons_self)
            exact uncoded_of_ne (ne_of_printChar first rfl) _
      have text : (style.paint false (milliseconds x)).toList ++ rest
          = (fixed 2 x).toList ++ 'm' :: 's' :: rest := by simp [Style.paint, unit]
      rw [text, plain, stops]
  | true =>
      have text : uncoded ((style.paint true (milliseconds x)).toList ++ rest)
          = (fixed 2 x).toList ++ 'm' :: 's' :: ((escapeSequence "0").toList ++ rest) := by
        cases style <;> simp [Style.paint, escapeSequence, Style.code, uncoded, unit]
      rw [text, stops]

theorem equals_not_mem_paint (style : Style) (colored : Bool) (x : Float) :
    '=' ∉ (style.paint colored (milliseconds x)).toList := by
  have chars : '=' ∉ (fixed 2 x).toList :=
    fun mem => ne_of_printChar (Decimal.printChar_fixed 2 x _ mem) rfl rfl
  cases colored <;> cases style <;>
    simp [Style.paint, escapeSequence, Style.code, milliseconds, chars]

/-- A part of a line: a time, and the name of the next one. -/
def part (style : Style) (colored : Bool) (x : Float) (next : String) : List Char :=
  (style.paint colored (milliseconds x)).toList ++ next.toList

section Part

variable (style : Style) (colored : Bool) (x : Float)

theorem timeIn_part (next : String) (rest : List Char) :
    timeIn (part style colored x next ++ rest) = (fixed 2 x).toList := by
  rw [part, List.append_assoc]
  exact timeIn_paint style colored x _

theorem lastWord_part {name : String} (none : ' ' ∉ name.toList) :
    lastWord (part style colored x ("  " ++ name)) = name.toList := by
  have text : part style colored x ("  " ++ name)
      = ((style.paint colored (milliseconds x)).toList ++ [' ']) ++ ' ' :: name.toList := by
    simp [part]
  rw [text, lastWord_append _ none]

theorem equals_not_mem_part {next : String} (none : '=' ∉ next.toList) :
    '=' ∉ part style colored x next :=
  List.not_mem_append (equals_not_mem_paint style colored x) none

end Part

/-- The names that the count of failed runs can have, without colours and with them. -/
def countNames : List String := ["failed", "\x1b[31mfailed"]

/-- The remark on failed runs is a count behind a name of its own. -/
theorem exists_toList_failedMark (colored : Bool) (s : Summary) (n : ℕ) :
    ∃ name ∈ countNames, ∃ count : List Char, '=' ∉ count ∧
      (failedMark colored s (some (n + 1))).toList
        = ' ' :: ' ' :: (name.toList ++ '=' :: count) := by
  have digits (k : ℕ) : '=' ∉ Nat.toDigits 10 k :=
    fun mem => absurd (Json.isDigit_toDigits k _ mem) (by decide)
  cases colored with
  | false =>
      refine ⟨"failed", by decide, ((n + 1).repr ++ "/" ++ s.samples.repr).toList, ?_, ?_⟩
      · simp [digits]
      · simp [failedMark, Style.paint]
  | true =>
      refine ⟨"\x1b[31mfailed", by decide,
        ((n + 1).repr ++ "/" ++ s.samples.repr ++ escapeSequence "0").toList, ?_, ?_⟩
      · simp [digits, escapeSequence]
      · simp [failedMark, Style.paint, escapeSequence, Style.code]

/-- Behind the last time there is a count at most. -/
theorem exists_splitOn_failedMark (colored : Bool) (s : Summary) (failed : Option ℕ)
    {cs : List Char} (none : '=' ∉ cs) :
    ∃ mark rest, (cs ++ (failedMark colored s failed).toList).splitOn '=' = (cs ++ mark) :: rest ∧
      ∀ entry ∈ figures ((cs ++ mark) :: rest), entry.1 ∈ countNames := by
  -- no remark if failures are not counted, or there are none
  have silent : (cs ++ "".toList).splitOn '=' = [cs ++ []] := by
    simp [List.splitOn_eq_singleton none]
  match failed with
  | .none => exact ⟨[], [], silent, by simp [figures]⟩
  | some 0 => exact ⟨[], [], silent, by simp [figures]⟩
  | some (n + 1) =>
      obtain ⟨name, listed, count, clear, text⟩ := exists_toList_failedMark colored s n
      have words : ∀ name ∈ countNames, '=' ∉ name.toList ∧ ' ' ∉ name.toList := by decide
      obtain ⟨equals, blank⟩ := words name listed
      refine ⟨' ' :: ' ' :: name.toList, [count], ?_, ?_⟩
      · have parted : cs ++ (failedMark colored s (some (n + 1))).toList
            = (cs ++ ' ' :: ' ' :: name.toList) ++ '=' :: count := by simp [text]
        have apart : '=' ∉ cs ++ ' ' :: ' ' :: name.toList := by simp [none, equals]
        rw [parted, List.splitOn_append_cons_self_of_not_mem apart,
          List.splitOn_eq_singleton clear]
      · have word : lastWord (cs ++ ' ' :: ' ' :: name.toList) = name.toList := by
          simpa using lastWord_append (cs ++ [' ']) blank
        simp [figures, word, listed]

/-- **The line about a result**, in the parts between its equals signs. -/
theorem toList_resultLine (colored : Bool) {result : FileResult} {s : Summary}
    (summary : result.summary = some s) :
    (resultLine colored result).toList
      = (("  " ++ tagLabel colored result.tag).toList ++ "  min".toList) ++
        '=' :: (part .green colored s.min ("  " ++ "med") ++
        '=' :: (part .cyan colored s.median ("  " ++ "avg") ++
        '=' :: (part .cyan colored s.mean ("  " ++ "max") ++
        '=' :: (part .yellow colored s.max ("  " ++ "σ") ++
        '=' :: (part .dim colored s.stdev "" ++
          (failedMark colored s result.failedRuns).toList))))) := by
  unfold resultLine
  rw [summary]
  simp [part]

/-- The figures of a line: the times from the last to the first, in front of them at most a
count, and behind them what has come from the tag. -/
theorem exists_figures_resultLine (colored : Bool) {result : FileResult} {s : Summary}
    (summary : result.summary = some s) :
    ∃ counts tagged, (∀ entry ∈ counts, entry.1 ∈ countNames) ∧
      figures ((resultLine colored result).toList.splitOn '=')
        = counts ++ ((statistics s).map fun (name, x) => (name, fixed 2 x)).reverse ++ tagged := by
  obtain ⟨front, last, before⟩ := exists_splitOn_append
    ("  " ++ tagLabel colored result.tag).toList (by decide : '=' ∉ "  min".toList)
  obtain ⟨mark, rest, behind, counts⟩ := exists_splitOn_failedMark colored s result.failedRuns
    (equals_not_mem_part .dim colored s.stdev (by decide : '=' ∉ "".toList))
  -- neither a time nor a name holds an equals sign, so each split ends one part
  have splits (style : Style) (x : Float) {name : String} (none : '=' ∉ ("  " ++ name).toList)
      (cs : List Char) : (part style colored x ("  " ++ name) ++ '=' :: cs).splitOn '='
        = part style colored x ("  " ++ name) :: cs.splitOn '=' :=
    List.splitOn_append_cons_self_of_not_mem (equals_not_mem_part style colored x none) cs
  have first : lastWord (last ++ "  min".toList) = "min".toList := by
    simpa using lastWord_append (last ++ [' ']) (by decide : ' ' ∉ "min".toList)
  have named (style : Style) (x : Float) (name : String) (none : ' ' ∉ name.toList) :
      String.ofList (lastWord (part style colored x ("  " ++ name))) = name := by
    rw [lastWord_part style colored x none, String.ofList_toList]
  have time (style : Style) (x : Float) (next : String) :
      String.ofList (timeIn (part style colored x next)) = fixed 2 x := by
    simpa using congrArg String.ofList (timeIn_part style colored x next [])
  refine ⟨_, figures (front ++ [last ++ "  min".toList]), counts, ?_⟩
  rw [toList_resultLine colored summary, List.splitOn_append_cons_self, before,
    splits _ _ (by decide), splits _ _ (by decide), splits _ _ (by decide),
    splits _ _ (by decide), behind, List.append_assoc, List.singleton_append, figures_append]
  simp only [figures, first, time, timeIn_part, named _ _ "med" (by decide),
    named _ _ "avg" (by decide), named _ _ "max" (by decide), named _ _ "σ" (by decide),
    String.ofList_toList]
  simp [statistics]

/-- **A line shows the statistics**, each one with two places, whatever the tag is. -/
theorem printed?_resultLine (colored : Bool) {result : FileResult} {s : Summary}
    (summary : result.summary = some s) : ∀ entry ∈ statistics s,
      printed? entry.1 (resultLine colored result) = some (fixed 2 entry.2) := by
  obtain ⟨counts, tagged, names, line⟩ := exists_figures_resultLine colored summary
  have absent : ∀ name ∉ countNames, counts.lookup name = none := by
    intro name other
    refine List.lookup_eq_none_iff.mpr fun entry mem => ?_
    exact bne_iff_ne.mpr fun same => other (same ▸ names entry mem)
  unfold printed?
  rw [line]
  -- the five names are none of a count, and differ from each other
  simp [-List.lookup_eq_none_iff, statistics, List.lookup_append, List.lookup_cons, absent,
    countNames]

/-- The number that is shown under a name in a line. -/
noncomputable def shown? (name line : String) : Option EReal :=
  (printed? name line).bind Decimal.shown?

/-- **A line keeps the order** of any two statistics. -/
theorem ordered_resultLine (colored : Bool) {result : FileResult} {s : Summary}
    (summary : result.summary = some s) {entry entry' : String × Float}
    (listed : entry ∈ statistics s) (listed' : entry' ∈ statistics s)
    (le : entry.2 ≤ entry'.2) :
    Ordered (shown? entry.1 (resultLine colored result))
      (shown? entry'.1 (resultLine colored result)) := by
  rw [shown?, shown?, printed?_resultLine colored summary entry listed,
    printed?_resultLine colored summary entry' listed']
  exact Decimal.ordered_shown? 2 le

end Human

/-! ## Both formats

Rounding and order of printed doubles, applied to what the two readers find.
-/

/-- **Printed statistics are faithful and keep their order.**  A finite double is printed as
the nearest decimal with the places of its format, ties going to the even last digit, and so
at most half a unit of that digit away from it.  No double is printed as more than a greater
one.  The line and the rows of a result show its statistics like that, and in the order of
least time, median and greatest time if this is their order. -/
theorem Summary.nearest_and_in_order :
    (∀ x : Float, x.isFinite = true → ∃ s v, Reads x s v ∧ ∀ places, ∃ units : ℤ,
      Decimal.Numeral.read? (fixed places x)
          = some (.decimal (isMinus s) ⟨units.natAbs, -places⟩) ∧
        Decimal.shown? (fixed places x) = some ((units / 10 ^ places : ℝ) : EReal) ∧
          Decimal.Rounds places (signed s v) units ∧
            |signed s v - units / 10 ^ places| ≤ 1 / 2 / 10 ^ places) ∧
    (∀ x y : Float, x ≤ y → ∀ places,
      Ordered (Decimal.shown? (fixed places x)) (Decimal.shown? (fixed places y))) ∧
    ∀ (result : FileResult) (s : Summary), result.summary = some s →
      (∀ colored,
        let line := Human.resultLine colored result
        (∀ entry ∈ Human.statistics s,
          Human.printed? entry.1 line = some (fixed 2 entry.2)) ∧
        (s.min ≤ s.median → s.median ≤ s.max →
          Ordered (Human.shown? "min" line) (Human.shown? "med" line) ∧
            Ordered (Human.shown? "med" line) (Human.shown? "max" line))) ∧
      ∀ suite plan,
        let rows := Csv.rows suite plan result
        (∀ entry ∈ Csv.statistics s,
          Csv.printed? entry.1 rows = some (fixed 6 entry.2)) ∧
        (s.min ≤ s.median → s.median ≤ s.max →
          Ordered (Csv.shown? "min" rows) (Csv.shown? "median" rows) ∧
            Ordered (Csv.shown? "median" rows) (Csv.shown? "max" rows)) := by
  refine ⟨fun x finite => ?_, fun x y le places => Decimal.ordered_shown? places le,
    fun result s summary => ⟨fun colored => ?_, fun suite plan => ?_⟩⟩
  · obtain ⟨s, v, reads⟩ := exists_reads_iff.mpr finite
    refine ⟨s, v, reads, fun places => ?_⟩
    obtain ⟨units, read, shown, rounds⟩ := Decimal.exists_rounds reads places
    exact ⟨units, read, shown, rounds, rounds.abs_sub_le⟩
  · intro line
    have least : ("min", s.min) ∈ Human.statistics s := by simp [Human.statistics]
    have middle : ("med", s.median) ∈ Human.statistics s := by simp [Human.statistics]
    have greatest : ("max", s.max) ∈ Human.statistics s := by simp [Human.statistics]
    refine ⟨Human.printed?_resultLine colored summary, fun below above => ?_⟩
    -- two steps, least to middle and middle to greatest
    have first := Human.ordered_resultLine colored summary least middle below
    have second := Human.ordered_resultLine colored summary middle greatest above
    exact ⟨first, second⟩
  · intro rows
    have least : ("min", s.min) ∈ Csv.statistics s := by simp [Csv.statistics]
    have middle : ("median", s.median) ∈ Csv.statistics s := by simp [Csv.statistics]
    have greatest : ("max", s.max) ∈ Csv.statistics s := by simp [Csv.statistics]
    refine ⟨Csv.printed?_rows suite plan summary, fun below above => ?_⟩
    have first := Csv.ordered_rows suite plan summary least middle below
    have second := Csv.ordered_rows suite plan summary middle greatest above
    exact ⟨first, second⟩

/-- A tie in the line of a file whose tag looks like the figure behind it. -/
theorem Summary.nearest_and_in_order_of_ties :
    let tag := Tag.ofExtension "max=9.00ms"
    let s : Summary := ⟨tag, 0.125, 1 / 0, 0.375, 0.375, 0, 3⟩
    let result : FileResult := ⟨"x.max=9.00ms", tag, some s, some 1⟩
    let line := Human.resultLine true result
    (s.min.isFinite = true ∧ s.min ≤ s.median ∧ s.median ≤ s.max) ∧
      (∃ sign v, Reads s.min sign v ∧ ∃ units : ℤ, units.natAbs = 12 ∧
        Decimal.Rounds 2 (signed sign v) units) ∧
      Ordered (Decimal.shown? (fixed 6 s.min)) (Decimal.shown? (fixed 6 s.median)) ∧
      (Human.printed? "min" line = some "0.12" ∧ Human.printed? "max" line = some "inf") ∧
        Ordered (Human.shown? "min" line) (Human.shown? "med" line) ∧
          Ordered (Human.shown? "med" line) (Human.shown? "max" line) := by
  intro tag s result line
  have finite : s.min.isFinite = true := by decide +kernel
  have below : s.min ≤ s.median := by decide +kernel
  have above : s.median ≤ s.max := by decide +kernel
  have texts : fixed 2 s.min = "0.12" ∧ fixed 2 s.max = "inf" := by decide +kernel
  have digits : Decimal.Numeral.read? "0.12" = some (.decimal false ⟨12, -2⟩) := by
    decide +kernel
  obtain ⟨nearest, ordered, each⟩ := nearest_and_in_order
  obtain ⟨sign, v, reads, rounded⟩ := nearest s.min finite
  obtain ⟨units, read, -, rounds, -⟩ := rounded 2
  obtain ⟨printed, order⟩ := (each result s rfl).1 true
  -- a half goes to the even twelve and not to thirteen
  have twelve : units.natAbs = 12 := by
    rw [texts.1, digits] at read
    injection read with read
    injection read with _ read
    injection read with read
    exact read.symm
  have least := printed ("min", s.min) (.head _)
  have greatest := printed ("max", s.max) (by simp [Human.statistics])
  rw [texts.1] at least
  rw [texts.2] at greatest
  exact ⟨⟨finite, below, above⟩, ⟨sign, v, reads, units, twelve, rounds⟩,
    ordered s.min s.median below 6, ⟨least, greatest⟩, order below above⟩

end CrossBench
