import CrossBench.Proofs.Report.Reading
import CrossBench.Proofs.Run.Gaps
import CrossBench.Proofs.Summary.Mean

/-!
# Statistics in print

A double that is no number, is infinite, or is negative would be printed as a word or with
a minus sign, and there is no such number in a document.  The statistics of durations are
none of these, so nothing of this kind comes from them into a report: a word that stands
in a line of a report has come from the name of the suite or from the tag.

* `Summary.reads_of_mem_times` — what the statistics stand for.
* `Without.append` — no word comes about where two texts meet, if a character that is not
  in the word stands there.
* `Csv.without_row` and `Human.without_resultLine` — the two formats that print words.
* `Summary.printed_regularly` — the statistics of any durations, and what the reports of
  them contain.
-/

namespace CrossBench

open Doubles

/-! ## Statistics as doubles

What is known of the exact values is carried over to the comparisons of doubles.
-/

namespace Doubles

theorem isFinite_of_reads {x : Float} {v : ℝ} (reads : Reads x .positive v) :
    x.isFinite = true := by
  show x.toModel.unpack.isFinite = true
  have is : Is x.toModel.unpack .positive v := reads
  cases found : x.toModel.unpack with
  | zero => rfl
  | finite => rfl
  | infinity => rw [found] at is; cases is
  | notANumber => rw [found] at is; cases is

/-- A double without a sign is not below zero, as doubles compare. -/
theorem nonneg_of_reads {x : Float} {v : ℝ} (reads : Reads x .positive v) : 0 ≤ x :=
  (le_iff_of_reads reads_zero reads).mpr reads.nonneg

end Doubles

/-- **What the statistics stand for**: magnitudes, each with a positive sign. -/
theorem Summary.reads_of_mem_times {tag : Tag} {samples : List UInt64} (any : samples ≠ [])
    (few : samples.length < 2 ^ 64) {s : Summary} (found : summarize tag samples = some s) :
    ∀ x ∈ s.times, ∃ v, Reads x .positive v := by
  obtain ⟨sorted, perm, ascending⟩ := exists_sorted samples
  have length : sorted.length = samples.length := perm.length_eq
  have some : sorted ≠ [] := fun none => any (none ▸ perm).nil_eq.symm
  have count : sorted.length < 2 ^ 64 := length.trans_lt few
  obtain ⟨middle, median, -⟩ := reads_medianOf ascending (List.length_pos_of_ne_nil some)
  have summary := summarize_eq tag any
  simp only [sortedMillis_eq_map perm ascending, getD_map_millis] at summary
  obtain rfl := Option.some.inj (found.symm.trans summary)
  simp only [times, List.forall_mem_cons]
  exact ⟨⟨_, reads_millis _⟩, ⟨_, reads_millis _⟩, ⟨_, (reads_meanOf_millis some count).1⟩,
    ⟨_, median⟩, ⟨_, reads_stdevOf_millis some count⟩, List.forall_mem_nil _⟩

/-! ## Words in a text

That a word is not in a text is not kept by appending, since it can come about at the seam.
`Fenced` is the stronger property that is.
-/

/-- A text in which a word does not stand. -/
def Without (word text : String) : Prop := ¬ word.toList <:+: text.toList

/-- A text without a word, at both ends of which stand characters that are not in it. -/
structure Fenced (word text : String) : Prop where
  without : Without word text
  opened : ∃ c ∈ text.toList.head?, c ∉ word.toList
  closed : ∃ c ∈ text.toList.getLast?, c ∉ word.toList

section Words

variable {word s t u : String}

instance : Decidable (Without word s) := inferInstanceAs (Decidable ¬ _)

/-- Whether a text is fenced can be decided, if it is short, by looking at it. -/
theorem fenced_iff : Fenced word s ↔ Without word s ∧
    s.toList.head?.any (· ∉ word.toList) = true ∧
      s.toList.getLast?.any (· ∉ word.toList) = true := by
  simp only [Option.any_eq_true, decide_eq_true_iff]
  exact ⟨fun h => ⟨h.without, h.opened, h.closed⟩,
    fun ⟨without, opened, closed⟩ => ⟨without, opened, closed⟩⟩

instance : Decidable (Fenced word s) := decidable_of_iff' _ fenced_iff

/-- A word comes about where two texts meet only if both characters there are in it. -/
theorem Without.append (hs : Without word s) (ht : Without word t)
    (apart : (∃ c ∈ s.toList.getLast?, c ∉ word.toList) ∨
      ∃ c ∈ t.toList.head?, c ∉ word.toList) : Without word (s ++ t) := by
  intro inside
  rw [String.toList_append, List.infix_append_iff] at inside
  rcases inside with inside | inside | ⟨front, back, split, ends, begins⟩
  · exact hs inside
  · exact ht inside
  · rcases List.eq_nil_or_concat' front with rfl | ⟨before, c, rfl⟩
    · exact ht (split ▸ begins.isInfix)
    · cases back with
      | nil =>
          rw [List.append_nil] at split
          exact hs (split ▸ ends.isInfix)
      | cons d behind =>
          -- the two characters that meet are both in the word
          obtain ⟨more, ends⟩ := ends
          obtain ⟨rest, begins⟩ := begins
          rcases apart with ⟨e, last, other⟩ | ⟨e, first, other⟩
          · rw [← ends, ← List.append_assoc, List.getLast?_concat] at last
            cases last
            exact other (split ▸ by simp)
          · rw [← begins] at first
            cases first
            exact other (split ▸ by simp)

/-- In front of something else, a fenced text still opens with a character that is not in the
word. -/
theorem Fenced.opened_append (hs : Fenced word s) :
    ∃ c ∈ (s ++ t).toList.head?, c ∉ word.toList := by
  obtain ⟨c, first, other⟩ := hs.opened
  refine ⟨c, ?_, other⟩
  rw [String.toList_append, List.head?_append, first]
  rfl

/-- Behind something else, a fenced text still ends with a character that is not in the word. -/
theorem Fenced.closed_append (ht : Fenced word t) :
    ∃ c ∈ (s ++ t).toList.getLast?, c ∉ word.toList := by
  obtain ⟨c, last, other⟩ := ht.closed
  refine ⟨c, ?_, other⟩
  rw [String.toList_append, List.getLast?_append, last]
  rfl

/-- Fenced texts can be put together: no word can lie across the place where they meet. -/
theorem Fenced.append (hs : Fenced word s) (ht : Fenced word t) : Fenced word (s ++ t) :=
  ⟨hs.without.append ht.without (.inl hs.closed), hs.opened_append, ht.closed_append⟩

/-- A fence between two texts keeps a word out of the whole. -/
theorem Fenced.between (fence : Fenced word t) (hs : Without word s) (hu : Without word u) :
    Without word (s ++ t ++ u) := by
  have front := hs.append fence.without (.inr fence.opened)
  exact front.append hu (.inl fence.closed_append)

/-- A text without any character of the word is fenced. -/
theorem Fenced.of_apart (filled : word ≠ "") (some : s ≠ "")
    (apart : ∀ c ∈ s.toList, c ∉ word.toList) : Fenced word s := by
  have chars : s.toList ≠ [] := mt String.toList_eq_nil_iff.mp some
  refine ⟨fun inside => ?_, ?_, ?_⟩
  · obtain ⟨c, mem⟩ := List.exists_mem_of_ne_nil _ (mt String.toList_eq_nil_iff.mp filled)
    exact apart c (inside.subset mem) mem
  · exact ⟨_, List.head?_eq_some_head chars, apart _ (List.head_mem chars)⟩
  · exact ⟨_, List.getLast?_eq_some_getLast chars, apart _ (List.getLast_mem chars)⟩

end Words

/-- The words for what is no number and for infinities, and the sign of negative numbers. -/
def irregular : List String := ["NaN", "inf", "-"]

section Irregular

variable {word : String}

theorem not_mem_of_isDigit (mem : word ∈ irregular) {c : Char}
    (digit : c.isDigit = true) : c ∉ word.toList := by
  have none : ∀ word ∈ irregular, word.toList.all (! ·.isDigit) = true := by decide
  intro inside
  simpa [digit] using List.all_eq_true.mp (none word mem) c inside

theorem fenced_of_digits (mem : word ∈ irregular) {digits : List Char}
    (some : digits ≠ []) (all : ∀ c ∈ digits, c.isDigit = true) :
    Fenced word (String.ofList digits) := by
  have filled : ∀ word ∈ irregular, word ≠ "" := by decide
  refine .of_apart (filled word mem) ?_ fun c digit => ?_
  · exact mt String.ofList_eq_empty_iff.mp some
  · rw [String.toList_ofList] at digit
    exact not_mem_of_isDigit mem (all c digit)

theorem fenced_repr (mem : word ∈ irregular) (n : ℕ) : Fenced word n.repr := by
  rw [Nat.repr_eq_ofList_toDigits]
  exact fenced_of_digits mem Nat.toDigits_ne_nil
    fun _ digit => Nat.isDigit_of_mem_toDigits (by decide) (by decide) digit

/-- A number with a point is fenced: the point is in no irregular word. -/
theorem fenced_pointed (mem : word ∈ irregular) (places n : ℕ) :
    Fenced word (Decimal.pointed places n) := by
  have point : ∀ word ∈ irregular, Fenced word "." := by decide
  unfold Decimal.pointed
  dsimp only
  split
  · rw [String.append_empty]
    exact fenced_repr mem _
  · refine (fenced_repr mem _).append ((point word mem).append (fenced_of_digits mem ?_ ?_))
    · exact List.append_ne_nil_of_right_ne_nil _ Nat.toDigits_ne_nil
    · intro c digit
      rcases List.mem_append.mp digit with zero | digit
      · rw [List.eq_of_mem_replicate zero]
        rfl
      · exact Nat.isDigit_of_mem_toDigits (by decide) (by decide) digit

/-- **A number that is finite and has no sign** is printed as digits and a point. -/
theorem fenced_fixed (mem : word ∈ irregular) (places : ℕ) {x : Float} (unsigned : Unsigned x) :
    Fenced word (Decimal.fixed places x) := by
  obtain ⟨m, q, found⟩ := unsigned
  have digits : Decimal.fixed places x = Decimal.pointed places (Decimal.units places m q) := by
    rw [Decimal.fixed, found]
    exact String.empty_append
  rw [digits]
  exact fenced_pointed mem _ _

/-! ## Rows

Commas are fences, so a row has a word only if one of its fields has it.
-/

/-- A row has no irregular word if none of its fields has one, since commas part the fields. -/
theorem Csv.without_row (mem : word ∈ irregular) {suite : String} (plan : Plan) {tag : Tag}
    {figure : Figure} (hs : Without word suite) (ht : Without word tag.text)
    (statistic : Without word figure.statistic) (value : Without word figure.value)
    (unit : Without word figure.unit) : Without word (row suite plan tag figure) := by
  have marks : ∀ word ∈ irregular, Fenced word "," ∧ Fenced word "ext=" ∧
      Without word "bench" ∧ Without word "N=" ∧ Without word "W=" := by decide
  obtain ⟨comma, ext, bench, iterations, warmup⟩ := marks word mem
  have count (mark : String) (h : Without word mark) (n : ℕ) : Without word (mark ++ n.repr) :=
    h.append (fenced_repr mem n).without (.inr (fenced_repr mem n).opened)
  rw [row_eq]
  refine comma.between (comma.between (comma.between (comma.between (comma.between
    (comma.between (comma.between bench hs) ?_) ?_) ?_) statistic) value) unit
  · exact ext.without.append ht (.inl ext.closed)
  · exact count _ iterations _
  · exact count _ warmup _

/-- The rows of a result whose times are finite and have no sign. -/
theorem Csv.without_rows (mem : word ∈ irregular) {suite : String} (plan : Plan)
    {result : FileResult} (hs : Without word suite) (ht : Without word result.tag.text)
    (unsigned : ∀ s, result.summary = some s → ∀ x ∈ s.times, Unsigned x) :
    ∀ row ∈ rows suite plan result, Without word row := by
  have words : ∀ word ∈ irregular, Without word "ms" ∧ Without word "failed" ∧
      Without word "runs" ∧ ∀ name ∈ ["min", "median", "mean", "max", "stdev"],
        Without word name := by decide
  obtain ⟨ms, failed, runs, names⟩ := words word mem
  rw [rows_eq_map]
  refine List.forall_mem_map.mpr fun figure listed => ?_
  -- a figure is a time or the count of failed runs
  rcases List.mem_append.mp listed with listed | listed
  · obtain ⟨s, found, time⟩ := List.mem_flatMap.mp listed
    obtain ⟨entry, among, rfl⟩ := List.mem_map.mp time
    have name : entry.1 ∈ ["min", "median", "mean", "max", "stdev"] := List.mem_map_of_mem among
    have value : entry.2 ∈ Format.csv.times s := List.mem_map_of_mem among
    have time := unsigned s (Option.mem_toList.mp found) _ (mem_times_of_format value)
    exact without_row mem plan hs ht (names _ name) (fenced_fixed mem 6 time).without ms
  · obtain ⟨n, -, rfl⟩ := List.mem_map.mp listed
    exact without_row mem plan hs ht failed (fenced_repr mem n).without runs

/-! ## Lines

Between the parts of a line stand blanks, and in front of each time a name with an equals
sign.
-/

namespace Human

theorem fenced_escapeSequence (mem : word ∈ irregular) (style : Style) :
    Fenced word (escapeSequence style.code) ∧ Fenced word (escapeSequence "0") := by
  have codes : ∀ word ∈ irregular, ∀ code ∈ ["0", "1", "2", "31", "32", "33", "36"],
      Fenced word (escapeSequence code) := by decide
  refine ⟨codes word mem _ ?_, codes word mem "0" (by decide)⟩
  cases style <;> decide

theorem without_paint (mem : word ∈ irregular) (style : Style) (colored : Bool) {text : String}
    (h : Without word text) : Without word (style.paint colored text) := by
  obtain ⟨opening, closing⟩ := fenced_escapeSequence mem style
  cases colored with
  | false => exact h
  | true =>
      exact (opening.without.append h (.inl opening.closed)).append closing.without
        (.inr closing.opened)

theorem fenced_paint (mem : word ∈ irregular) (style : Style) (colored : Bool) {text : String}
    (h : Fenced word text) : Fenced word (style.paint colored text) := by
  obtain ⟨opening, closing⟩ := fenced_escapeSequence mem style
  cases colored with
  | false => exact h
  | true => exact (opening.append h).append closing

/-- The label of a tag has no irregular word unless the tag has it. -/
theorem without_tagLabel (mem : word ∈ irregular) (colored : Bool) {tag : Tag}
    (ht : Without word tag.text) : Without word (tagLabel colored tag) := by
  have blanks : ∀ word ∈ irregular, word ≠ "" ∧ ' ' ∉ word.toList ∧ Fenced word "." := by decide
  obtain ⟨filled, blank, point⟩ := blanks word mem
  refine without_paint mem _ _ (point.without.append ?_ (.inl point.closed))
  -- the tag is filled up with blanks, of which there may be none
  have cell : Cell.left ⟨tag.text, 5, none⟩ ' '
      = tag.text ++ String.ofList (.replicate (Cell.slack ⟨tag.text, 5, none⟩) ' ') := by
    rw [Cell.left, String.ofList_append]
    exact congrArg (· ++ _) String.ofList_toList
  rw [cell]
  cases Cell.slack ⟨tag.text, 5, none⟩ with
  | zero => exact String.append_empty ▸ ht
  | succ n =>
      have fence : Fenced word (String.ofList (.replicate (n + 1) ' ')) := by
        refine .of_apart filled (mt String.ofList_eq_empty_iff.mp (List.cons_ne_nil _ _)) ?_
        intro c listed
        rw [String.toList_ofList] at listed
        rwa [List.eq_of_mem_replicate listed]
      exact ht.append fence.without (.inr fence.opened)

theorem without_failedMark (mem : word ∈ irregular) (colored : Bool) (s : Summary)
    (failed : Option ℕ) : Without word (failedMark colored s failed) := by
  have marks : ∀ word ∈ irregular, Without word "" ∧ Fenced word "  " ∧
      Without word "failed" ∧ Fenced word "=" ∧ Fenced word "/" := by decide
  obtain ⟨nothing, blank, name, equals, slash⟩ := marks word mem
  match failed with
  | none => exact nothing
  | some 0 => exact nothing
  | some (n + 1) =>
      have count := slash.between (equals.between name (fenced_repr mem (n + 1)).without)
        (fenced_repr mem s.samples).without
      exact blank.without.append (without_paint mem .red colored count) (.inl blank.closed)

/-- A duration in a line is fenced if it is a finite number without a sign. -/
theorem fenced_milliseconds (mem : word ∈ irregular) (style : Style) (colored : Bool) {x : Float}
    (unsigned : Unsigned x) : Fenced word (style.paint colored (milliseconds x)) := by
  have unit : ∀ word ∈ irregular, Fenced word "ms" := by decide
  exact fenced_paint mem style colored ((fenced_fixed mem 2 unsigned).append (unit word mem))

/-- The line of a result whose times are finite and have no sign. -/
theorem without_resultLine (mem : word ∈ irregular) (colored : Bool) {result : FileResult}
    (ht : Without word result.tag.text)
    (unsigned : ∀ s, result.summary = some s → ∀ x ∈ s.times, Unsigned x) :
    Without word (resultLine colored result) := by
  obtain ⟨file, tag, summary, failedRuns⟩ := result
  -- the fixed parts are checked once for all irregular words
  have names : ∀ word ∈ irregular, Fenced word "  " ∧ Fenced word "  min=" ∧
      Fenced word "  med=" ∧ Fenced word "  avg=" ∧ Fenced word "  max=" ∧
      Fenced word "  σ=" ∧ Without word "no data" := by decide
  obtain ⟨blank, least, middle, average, greatest, spread, nothing⟩ := names word mem
  have label := blank.without.append (without_tagLabel mem colored ht) (.inl blank.closed)
  cases summary with
  | none =>
      have notice := without_paint mem .dim colored nothing
      have whole := blank.between label notice
      rwa [String.append_assoc] at whole
  | some s =>
      have each := unsigned s rfl
      simp only [Summary.times, List.forall_mem_cons] at each
      obtain ⟨min, max, mean, median, stdev, -⟩ := each
      have time (style : Style) {x : Float} (h : Unsigned x) :=
        fenced_milliseconds mem style colored h
      -- each time stands between two fixed parts, and no irregular word can reach across
      have times := ((((((((least.append (time .green min)).append middle).append
        (time .cyan median)).append average).append (time .cyan mean)).append greatest).append
        (time .yellow max)).append spread).append (time .dim stdev)
      have whole := times.between label (without_failedMark mem colored s failedRuns)
      rwa [String.append_assoc] at whole

end Human

end Irregular

/-! ## Documents

A document has no words for numbers but `null`, and the datum of a finite time is a number.
-/

/-- A finite number without a sign is read as a number without a sign. -/
theorem Json.Datum.Represents.number {datum : Datum} {x : Float} (represents : datum.Represents x)
    (unsigned : Unsigned x) : ∃ value, datum = .number false value := by
  obtain ⟨m, q, found⟩ := unsigned
  obtain ⟨s, v, reads⟩ := Decimal.reads_of_ofFloat found
  obtain ⟨value, rfl, -⟩ := represents.finite s v reads
  obtain ⟨m', q', found', -⟩ := Decimal.ofFloat_of_reads reads
  rw [found, Decimal.Reading.finite.injEq] at found'
  exact ⟨value, by rw [← found'.1]⟩

namespace Document

open Json (Datum)

/-- One of the results in a document. -/
def Lists (document item : Datum) : Prop :=
  ∃ suites, document.field? "suites" = some (.array suites) ∧ ∃ suite ∈ suites,
    ∃ items, suite.field? "results" = some (.array items) ∧ item ∈ items

theorem lists_ofSuites {reports : List SuiteReport} {report : SuiteReport} {result : FileResult}
    (listed : report ∈ reports) (mem : result ∈ report.results) :
    Lists (ofSuites reports).datum (ofResult result).datum := by
  refine ⟨_, rfl, (ofSuite report).datum, ?_, _, rfl, ?_⟩
  · rw [Json.Value.itemData_eq_map, List.map_map]
    exact List.mem_map_of_mem listed
  · rw [Json.Value.itemData_eq_map, List.map_map]
    exact List.mem_map_of_mem mem

end Document

/-! ## All statistics of all durations

What has been said of doubles, rows, lines and documents, for the summary of any samples.
-/

namespace Summary

variable {samples : List UInt64}

/-- **The statistics of any durations** are finite, and neither they nor what is printed
for them has a minus sign.

So a line of a report, in colours or not, has one of the irregular words in it only if it
has come with the tag, and a row only if it has come with the tag or the name of the suite.
In a document there is a number without a sign for each of the five. -/
theorem printed_regularly (tag : Tag) (any : samples ≠ []) (few : samples.length < 2 ^ 64) :
    ∃ s, summarize tag samples = some s ∧
      (∀ x ∈ s.times, x.isFinite = true ∧ 0 ≤ x ∧ Unsigned x ∧
        ∀ word ∈ irregular, ∀ places, Without word (Decimal.fixed places x)) ∧
      ∀ result : FileResult, result.summary = some s →
        (∀ word ∈ irregular, Without word result.tag.text →
          (∀ colored, Without word (Human.resultLine colored result)) ∧
          ∀ suite plan, Without word suite →
            ∀ row ∈ Csv.rows suite plan result, Without word row) ∧
        ∀ reports, ∀ report ∈ reports, result ∈ report.results →
          ∃ document item, Json.read? (Document.ofSuites reports).pretty = some document ∧
            Document.Lists document item ∧ Document.DescribesResult item result ∧
              ∀ entry ∈ Document.statistics s, ∃ value,
                item.field? entry.1 = some (.number false value) := by
  obtain ⟨s, found⟩ : ∃ s, summarize tag samples = some s := ⟨_, summarize_eq tag any⟩
  -- fewer than 2 ^ 64 samples keep the sums below the greatest double
  have reads := reads_of_mem_times any few found
  have unsigned : ∀ x ∈ s.times, Unsigned x := fun x mem =>
    (reads x mem).elim fun _ reads => unsigned_of_reads reads
  refine ⟨s, found, fun x mem => ?_, fun result summarized => ?_⟩
  · obtain ⟨v, magnitude⟩ := reads x mem
    exact ⟨isFinite_of_reads magnitude, nonneg_of_reads magnitude, unsigned x mem,
      fun word irregular places => (fenced_fixed irregular places (unsigned x mem)).without⟩
  · have times : ∀ s', result.summary = some s' → ∀ x ∈ s'.times, Unsigned x := by
      intro s' same
      obtain rfl := Option.some.inj (summarized.symm.trans same)
      exact unsigned
    refine ⟨fun word irregular tag => ⟨fun colored => ?_, fun suite plan name => ?_⟩, ?_⟩
    · exact Human.without_resultLine irregular colored tag times
    · exact Csv.without_rows irregular plan name tag times
    · intro reports report listed mem
      have describes := Document.describesResult result
      refine ⟨_, _, Json.read?_pretty _, Document.lists_ofSuites listed mem, describes, ?_⟩
      intro entry among
      -- what the document holds for a time is a numeral, since the time is finite
      obtain ⟨datum, stands, represents⟩ := describes.statistics s summarized entry among
      have time : entry.2 ∈ s.times := by
        have values : (Document.statistics s).map Prod.snd = s.times := rfl
        exact values ▸ List.mem_map_of_mem among
      obtain ⟨value, rfl⟩ := represents.number (unsigned _ time)
      exact ⟨value, stands⟩

/-- The longest duration, the shortest, and one between them. -/
theorem printed_regularly_of_three :
    let tag := Tag.ofExtension "awk"
    let samples : List UInt64 := [18446744073709551615, 0, 1500000]
    (samples ≠ [] ∧ samples.length < 2 ^ 64) ∧
      ∃ s, summarize tag samples = some s ∧ ∀ x ∈ s.times, x.isFinite = true ∧ 0 ≤ x ∧
        Without "NaN" (Decimal.fixed 6 x) := by
  intro tag samples
  have few : samples.length < 2 ^ 64 := by decide
  obtain ⟨s, found, regular, -⟩ := printed_regularly tag (List.cons_ne_nil _ _) few
  refine ⟨⟨List.cons_ne_nil _ _, few⟩, s, found, fun x mem => ?_⟩
  obtain ⟨finite, nonneg, -, words⟩ := regular x mem
  exact ⟨finite, nonneg, words "NaN" (.head _) 6⟩

end Summary

end CrossBench
