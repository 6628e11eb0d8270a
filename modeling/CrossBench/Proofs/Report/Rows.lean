import CrossBench.Report.Csv
import Mathlib

/-!
# Rows read back

A row is eight texts with commas between them, and nothing in it is escaped.  Six of the
eight never hold a comma or a line break: they are words of the format, numbers, and names
of statistics.  The other two are the name of a suite, which may be the name of any
directory, and a tag, which may be any extension.

* `Csv.fields` and `Csv.read?` — a row divided at its commas, and what a reader makes of
  eight fields.
* `Csv.rows_read_back` — what a reader gets from the rows of any result.
* `Csv.not_every_row_has_eight_fields` — a directory with a comma in its name.
-/

namespace CrossBench

/-! ## Texts that fit in a field

The comma parts fields and the line break parts rows; a text with neither of them can be a
field.
-/

/-- A text without the two characters that have a meaning in a report of rows. -/
structure Csv.Plain (text : String) : Prop where
  comma : ',' ∉ text.toList
  lineBreak : '\n' ∉ text.toList

namespace Csv.Plain

instance (text : String) : Decidable (Plain text) :=
  decidable_of_iff (',' ∉ text.toList ∧ '\n' ∉ text.toList)
    ⟨fun h => ⟨h.1, h.2⟩, fun h => ⟨h.comma, h.lineBreak⟩⟩

/-- Texts that fit in a field can be put together. -/
theorem append {s t : String} (hs : Plain s) (ht : Plain t) : Plain (s ++ t) := by
  constructor
  · simp [hs.comma, ht.comma]
  · simp [hs.lineBreak, ht.lineBreak]

theorem of_digits {digits : List Char} (all : ∀ c ∈ digits, c.isDigit = true) :
    Plain (String.ofList digits) := by
  constructor <;> intro mem <;> exact absurd (all _ (by simpa using mem)) (by decide)

theorem repr (n : Nat) : Plain n.repr := by
  rw [Nat.repr_eq_ofList_toDigits]
  exact of_digits fun _ mem => Nat.isDigit_of_mem_toDigits (by decide) (by decide) mem

/-- A number of units has digits and at most one point. -/
theorem pointed (places n : Nat) : Plain (Decimal.pointed places n) := by
  unfold Decimal.pointed
  refine (repr _).append ?_
  split
  · exact (by decide : Plain "")
  · refine append (by decide : Plain ".") (of_digits fun c mem => ?_)
    rcases List.mem_append.mp mem with zero | digit
    · rw [List.eq_of_mem_replicate zero]
      rfl
    · exact Nat.isDigit_of_mem_toDigits (by decide) (by decide) digit

/-- **A printed double fits in a field**, whatever it is. -/
theorem fixed (places : Nat) (x : Float) : Plain (Decimal.fixed places x) := by
  unfold Decimal.fixed
  split
  · decide
  · split <;> decide
  · refine append ?_ (pointed _ _)
    split <;> decide

end Csv.Plain

namespace Csv

/-! ## Rows and their fields

A result has one row for each statistic and one for its failed runs, and the rows differ in
their figures only.
-/

/-- What a row tells about its subject. -/
structure Figure where
  statistic : String
  value : String
  unit : String
  deriving DecidableEq

/-- A time with its name. -/
def Figure.ofTime (entry : String × Float) : Figure :=
  ⟨entry.1, Decimal.fixed 6 entry.2, "ms"⟩

/-- The figures of a result, in the order of their rows. -/
def figures (result : FileResult) : List Figure :=
  (result.summary.toList.flatMap fun s => (statistics s).map .ofTime)
    ++ result.failedRuns.toList.map fun failed => ⟨"failed", failed.repr, "runs"⟩

/-- The row of a figure. -/
def row (suite : String) (plan : Plan) (tag : Tag) (figure : Figure) : String :=
  subject suite plan tag ++ "," ++ figure.statistic ++ "," ++ figure.value ++ ","
    ++ figure.unit

/-- The rows of a result are those of its figures. -/
theorem rows_eq_map (suite : String) (plan : Plan) (result : FileResult) :
    rows suite plan result = (figures result).map (row suite plan result.tag) := by
  obtain ⟨file, tag, summary, failedRuns⟩ := result
  have time : ∀ entry : String × Float,
      subject suite plan tag ++ "," ++ entry.1 ++ "," ++ Decimal.fixed 6 entry.2 ++ ",ms"
        = row suite plan tag (.ofTime entry) := by
    intro entry
    simp only [row, Figure.ofTime, String.append_assoc]
    rfl
  -- the row about failed runs has another statistic and another unit
  have count : ∀ failed : Nat,
      subject suite plan tag ++ ",failed," ++ failed.repr ++ ",runs"
        = row suite plan tag ⟨"failed", failed.repr, "runs"⟩ := by
    intro failed
    simp only [row, String.append_assoc]
    rfl
  cases summary <;> cases failedRuns <;>
    simp [rows, figures, time, count]

/-- A figure whose texts fit in a field each. -/
structure Figure.Plain (figure : Figure) : Prop where
  statistic : Csv.Plain figure.statistic
  value : Csv.Plain figure.value
  unit : Csv.Plain figure.unit

theorem figures_plain (result : FileResult) :
    ∀ figure ∈ figures result, figure.Plain := by
  intro figure mem
  rcases List.mem_append.mp mem with mem | mem
  · obtain ⟨s, -, mem⟩ := List.mem_flatMap.mp mem
    obtain ⟨entry, listed, rfl⟩ := List.mem_map.mp mem
    have names : ∀ name ∈ (statistics s).map Prod.fst, Csv.Plain name := by
      simp only [statistics, List.map_cons, List.map_nil]
      decide
    exact ⟨names _ (List.mem_map_of_mem listed), .fixed 6 entry.2,
      (by decide : Csv.Plain "ms")⟩
  · obtain ⟨failed, -, rfl⟩ := List.mem_map.mp mem
    exact ⟨(by decide : Csv.Plain "failed"), .repr failed,
      (by decide : Csv.Plain "runs")⟩

/-! ## Dividing a row

The fields of a row are counted by its commas, and nothing is lost in dividing it
(`fields_injective`).
-/

/-- The fields of a row: what stands between its commas. -/
def fields (row : String) : List String := (row.toList.splitOn ',').map String.ofList

/-- A comma parts the fields in front of it from those behind it. -/
theorem fields_append (s t : String) : fields (s ++ "," ++ t) = fields s ++ fields t := by
  have parts : (s ++ "," ++ t).toList = s.toList ++ ',' :: t.toList := by simp
  rw [fields, parts, List.splitOn_append_cons_self, List.map_append]
  rfl

theorem fields_of_comma {s : String} (h : ',' ∉ s.toList) : fields s = [s] := by
  rw [fields, List.splitOn_eq_singleton h, List.map_singleton, String.ofList_toList]

/-- Nothing is lost in dividing a row. -/
theorem fields_injective {s t : String} (same : fields s = fields t) : s = t := by
  have lists := List.map_injective_iff.mpr (fun _ _ => String.ofList_injective) same
  have joined := congrArg ([','].intercalate ·) lists
  exact String.toList_inj.mp (by simpa using joined)

/-- A list is parted into one part more than there are marks. -/
theorem length_splitOn (c : Char) (cs : List Char) :
    (cs.splitOn c).length = cs.count c + 1 := by
  induction cs with
  | nil => rfl
  | cons d rest ih =>
      rw [List.splitOn_eq_splitOnP] at ih ⊢
      rw [List.splitOnP_cons_eq_if_modifyHead]
      by_cases same : d = c
      · simp [same, ih]
      · simp [same, ih]

/-- How many commas a text has. -/
def commas (text : String) : Nat := text.toList.count ','

/-- How many line breaks a text has. -/
def lineBreaks (text : String) : Nat := text.toList.count '\n'

/-- There is one field more than there are commas. -/
theorem length_fields (s : String) : (fields s).length = commas s + 1 := by
  rw [fields, List.length_map, length_splitOn, commas]

theorem commas_append (s t : String) : commas (s ++ t) = commas s + commas t := by
  simp [commas]

theorem lineBreaks_append (s t : String) :
    lineBreaks (s ++ t) = lineBreaks s + lineBreaks t := by
  simp [lineBreaks]

/-- A text that fits in a field has no line break. -/
theorem Plain.lineBreaks {s : String} (h : Plain s) : lineBreaks s = 0 :=
  List.count_eq_zero.mpr h.lineBreak

/-- A row, one text behind the other. -/
theorem row_eq (suite : String) (plan : Plan) (tag : Tag) (figure : Figure) :
    row suite plan tag figure
      = "bench" ++ "," ++ suite ++ "," ++ ("ext=" ++ tag.text)
        ++ "," ++ ("N=" ++ plan.iterations.toNat.repr)
        ++ "," ++ ("W=" ++ plan.warmup.toNat.repr)
        ++ "," ++ figure.statistic ++ "," ++ figure.value ++ "," ++ figure.unit := by
  simp only [row, subject, String.append_assoc]
  rfl

theorem fields_bench : fields "bench" = ["bench"] := rfl

/-- The five fields behind those that a suite and a tag are. -/
def rear (plan : Plan) (figure : Figure) : List String :=
  ["N=" ++ plan.iterations.toNat.repr, "W=" ++ plan.warmup.toNat.repr, figure.statistic,
    figure.value, figure.unit]

/-- **The fields of a row.** -/
theorem fields_row (suite : String) (plan : Plan) (tag : Tag) {figure : Figure}
    (plain : figure.Plain) :
    fields (row suite plan tag figure)
      = fields ("bench" ++ "," ++ suite ++ "," ++ ("ext=" ++ tag.text))
        ++ rear plan figure := by
  have count : ∀ mark n, Plain mark → fields (mark ++ Nat.repr n) = [mark ++ Nat.repr n] :=
    fun mark n word => fields_of_comma (word.append (.repr n)).comma
  rw [row_eq]
  simp only [fields_append]
  rw [count _ _ (by decide), count _ _ (by decide),
    fields_of_comma plain.statistic.comma, fields_of_comma plain.value.comma,
    fields_of_comma plain.unit.comma]
  simp [rear]

/-- A row has the line breaks of the two names in it, and no others. -/
theorem lineBreaks_row (suite : String) (plan : Plan) (tag : Tag) {figure : Figure}
    (plain : figure.Plain) :
    lineBreaks (row suite plan tag figure) = lineBreaks suite + lineBreaks tag.text := by
  have comma : lineBreaks "," = 0 := rfl
  have bench : lineBreaks "bench" = 0 := rfl
  have ext : lineBreaks "ext=" = 0 := rfl
  have n : lineBreaks "N=" = 0 := rfl
  have w : lineBreaks "W=" = 0 := rfl
  rw [row_eq]
  simp only [lineBreaks_append, plain.statistic.lineBreaks, plain.value.lineBreaks,
    plain.unit.lineBreaks, (Plain.repr _).lineBreaks, comma, bench, ext, n, w]
  omega

/-! ## Reading a row

A reader that expects eight fields.  It can only be given more than that, and then it
refuses the row.
-/

/-- A row as its reader understands it. -/
structure Reading where
  suite : String
  tag : String
  iterations : Nat
  warmup : Nat
  figure : Figure
  deriving DecidableEq

/-- What stands behind a mark. -/
def behind? (mark text : String) : Option String :=
  (mark.toList.isPrefixOf? text.toList).map String.ofList

/-- A row of eight fields, read. -/
def read? (row : String) : Option Reading :=
  match fields row with
  | ["bench", suite, ext, n, w, statistic, value, unit] => do
    let tag ← behind? "ext=" ext
    let iterations ← (behind? "N=" n).bind String.toNat?
    let warmup ← (behind? "W=" w).bind String.toNat?
    return ⟨suite, tag, iterations, warmup, statistic, value, unit⟩
  | _ => none

/-- Behind a mark at the beginning stands the rest. -/
theorem behind?_append (mark text : String) : behind? mark (mark ++ text) = some text := by
  have found : mark.toList.isPrefixOf? (mark ++ text).toList = some text.toList :=
    List.isPrefixOf?_eq_some_iff_append_eq.mpr (by simp)
  rw [behind?, found, Option.map_some, String.ofList_toList]

/-- A row that has not eight fields is not read. -/
theorem read?_of_length {row : String} (h : (fields row).length ≠ 8) : read? row = none := by
  unfold read?
  split
  · next eight => exact absurd (congrArg List.length eight) h
  · rfl

theorem commas_front (suite text : String) :
    commas ("bench" ++ "," ++ suite ++ "," ++ ("ext=" ++ text))
      = 2 + commas suite + commas text := by
  have comma : commas "," = 1 := rfl
  have bench : commas "bench" = 0 := rfl
  have ext : commas "ext=" = 0 := rfl
  simp only [commas_append, comma, bench, ext]
  omega

/-- **Reading a row back.**  A row is read exactly if the suite and the tag have no
comma in them, and then as what it was written for. -/
theorem read?_row (suite : String) (plan : Plan) (tag : Tag) {figure : Figure}
    (plain : figure.Plain) :
    read? (row suite plan tag figure) =
      if ',' ∈ suite.toList ∨ ',' ∈ tag.text.toList then none
      else some ⟨suite, tag.text, plan.iterations.toNat, plan.warmup.toNat, figure⟩ := by
  have parts := fields_row suite plan tag plain
  split
  next inside =>
    -- a comma in either name makes a field too many, and the count is refused
    have more : 0 < commas suite + commas tag.text := by
      rcases inside with mem | mem
      · exact Nat.add_pos_left (List.count_pos_iff.mpr mem) _
      · exact Nat.add_pos_right _ (List.count_pos_iff.mpr mem)
    apply read?_of_length
    rw [parts, List.length_append, length_fields, commas_front]
    simp only [rear, List.length_cons, List.length_nil]
    omega
  next outside =>
    obtain ⟨noneInSuite, noneInTag⟩ := not_or.mp outside
    have noneInExt : ',' ∉ ("ext=" ++ tag.text).toList := by simpa using noneInTag
    rw [fields_append, fields_append, fields_bench, fields_of_comma noneInSuite,
      fields_of_comma noneInExt] at parts
    unfold read?
    rw [parts]
    simp [rear, behind?_append, Nat.toNat?_repr]

/-- **When two rows are one.**  A row tells the numbers of the plan and its figure, but
not where in it the suite ends and the tag begins. -/
theorem row_eq_row_iff {suite suite' : String} {plan plan' : Plan} {tag tag' : Tag}
    {figure figure' : Figure} (plain : figure.Plain) (plain' : figure'.Plain) :
    row suite plan tag figure = row suite' plan' tag' figure' ↔
      suite ++ ",ext=" ++ tag.text = suite' ++ ",ext=" ++ tag'.text ∧
        plan.iterations = plan'.iterations ∧ plan.warmup = plan'.warmup ∧
        figure = figure' := by
  have join : ∀ suite text : String, "bench" ++ "," ++ suite ++ "," ++ ("ext=" ++ text)
      = "bench," ++ (suite ++ ",ext=" ++ text) := by
    intro suite text
    simp only [String.append_assoc]
    rfl
  constructor
  · intro same
    have parts := congrArg fields same
    rw [fields_row _ _ _ plain, fields_row _ _ _ plain'] at parts
    -- the fields behind the names are as many in both rows
    obtain ⟨front, back⟩ := List.append_inj' parts rfl
    have texts := fields_injective front
    rw [join, join, String.append_right_inj] at texts
    obtain ⟨statistic, value, unit⟩ := figure
    obtain ⟨statistic', value', unit'⟩ := figure'
    simp only [rear, List.cons.injEq, String.append_right_inj, Nat.repr_inj,
      UInt32.toNat_inj, and_true] at back
    obtain ⟨iterations, warmup, rfl, rfl, rfl⟩ := back
    exact ⟨texts, iterations, warmup, rfl⟩
  · rintro ⟨texts, iterations, warmup, rfl⟩
    rw [row_eq, row_eq, join, join, texts, iterations, warmup]

example (plan : Plan) (figure : Figure) :
    row "a,ext=b" plan (.ofExtension "c") figure
      = row "a" plan (.ofExtension "b,ext=c") figure := by
  rfl

/-- **What can be read from the rows of a result**, for a suite of any name.

Each row stands for a figure.  Divided at its commas it is the word `bench`, the suite and
the tag with all commas that they hold, and five more fields; and it has the line breaks of
the suite and the tag.  So it is one line of eight fields exactly if neither of them holds a
comma or a line break, and if they hold no comma the reader gets from it what it was
written for.

Whatever they hold, two rows are equal only if they agree about the numbers of the plan and
the figure.  They need not agree about the suite and the tag, of which a row tells only the
text that they make with the mark between them. -/
theorem rows_read_back (suite : String) (plan : Plan) (result : FileResult) :
    (rows suite plan result).map fields
        = (figures result).map (fun figure =>
            "bench" :: (fields suite ++ fields ("ext=" ++ result.tag.text)
              ++ rear plan figure)) ∧
      (rows suite plan result).map (fun row => ((fields row).length, lineBreaks row))
        = (figures result).map (fun _ => (8 + commas suite + commas result.tag.text,
            lineBreaks suite + lineBreaks result.tag.text)) ∧
      (rows suite plan result).map read?
        = (figures result).map (fun figure =>
            if ',' ∈ suite.toList ∨ ',' ∈ result.tag.text.toList then none
            else some ⟨suite, result.tag.text, plan.iterations.toNat, plan.warmup.toNat,
              figure⟩) ∧
      ∀ suite' plan' result', ∀ figure ∈ figures result, ∀ figure' ∈ figures result',
        (row suite plan result.tag figure = row suite' plan' result'.tag figure' ↔
          suite ++ ",ext=" ++ result.tag.text = suite' ++ ",ext=" ++ result'.tag.text ∧
            plan.iterations = plan'.iterations ∧ plan.warmup = plan'.warmup ∧
            figure = figure') := by
  have plain := figures_plain result
  rw [rows_eq_map, List.map_map, List.map_map, List.map_map]
  refine ⟨?_, ?_, ?_, ?_⟩
  · refine List.map_congr_left fun figure mem => ?_
    rw [Function.comp_apply, fields_row suite plan result.tag (plain figure mem),
      fields_append, fields_append, fields_bench]
    rfl
  · refine List.map_congr_left fun figure mem => ?_
    rw [Function.comp_apply, fields_row suite plan result.tag (plain figure mem),
      lineBreaks_row suite plan result.tag (plain figure mem), List.length_append,
      length_fields, commas_front]
    -- one field for `bench`, two for the names, and five behind them
    refine congrArg (·, _) ?_
    simp only [rear, List.length_cons, List.length_nil]
    omega
  · refine List.map_congr_left fun figure mem => ?_
    rw [Function.comp_apply, read?_row suite plan result.tag (plain figure mem)]
  · intro suite' plan' result' figure mem figure' mem'
    exact row_eq_row_iff (plain figure mem) (figures_plain result' figure' mem')

/-! ## A directory with a comma in its name

Nothing keeps such a directory out of the benchmarks, and its name is a suite as it stands.
-/

/-- **A row need not have eight fields**, because a directory may have a comma in its
name. -/
theorem not_every_row_has_eight_fields :
    ¬ ∀ (directory file : Path) (plan : Plan) (result : FileResult),
      directory.fileName?.isSome = true → Tag.ofPath? file = some result.tag →
        ∀ row ∈ rows directory.label plan result,
          lineBreaks row = 0 ∧ (fields row).length = 8 := by
  intro always
  have suite : (Path.ofText "benchmarks/a,b").label = "a,b" := by cbv
  have eight := always (.ofText "benchmarks/a,b") (.ofText "benchmarks/a,b/x.sh")
    ⟨1, 0, .flag⟩ ⟨"x.sh", .ofExtension "sh", none, some 0⟩ (by cbv) (by cbv)
    "bench,a,b,ext=sh,N=1,W=0,failed,0,runs" (by rw [suite]; exact .head _)
  exact absurd eight.2 (by decide)

end Csv

end CrossBench
