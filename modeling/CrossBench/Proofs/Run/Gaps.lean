import CrossBench.Proofs.Doubles.Statistics
import CrossBench.Proofs.Report.Rows
import CrossBench.Proofs.Run.Formats
import CrossBench.Proofs.Run.Samples

/-!
# Reports as texts with gaps

Two reports that differ in times only are one text with gaps, and what stands in the gaps
are the times, printed.  A time is printed in one way by each format, so what a format
contributes is an order (`Format.times`) and a notation (`Format.timeText`).

* `Template.fill` — a text with gaps, filled.
* `SameBut` — two texts that are the same but for times.  It is put together along the
  texts, part by part; `SameBut.template` gives the text with gaps, and
  `SameBut.lineBreaks` counts lines.
* `Human.sameBut_suiteLines`, `Csv.sameBut_suiteRows`, `Document.twin_ofSuites` — the three
  formats, for reports that differ in times only.
-/

namespace CrossBench

/-! ## Gaps and what fills them

The relation is put together along two texts, and the template is read off it at the end.
-/

/-- A text with gaps: its texts in order, and nothing where there is a gap. -/
abbrev Template := List (Option String)

namespace Template

/-- How many gaps there are. -/
def gaps (t : Template) : Nat := t.countP Option.isNone

/-- The text with words in its gaps, from left to right. -/
def fill : Template → List String → String
  | [], _ => ""
  | some text :: rest, words => text ++ fill rest words
  | none :: rest, words => words.headD "" ++ fill rest words.tail

theorem gaps_append (t t' : Template) : (t ++ t').gaps = t.gaps + t'.gaps :=
  List.countP_append

/-- Two templates in a row are filled one after the other. -/
theorem fill_append (t t' : Template) {words : List String} (count : t.gaps = words.length)
    (words' : List String) :
    (t ++ t').fill (words ++ words') = t.fill words ++ t'.fill words' := by
  induction t generalizing words with
  | nil =>
      obtain rfl := List.eq_nil_of_length_eq_zero count.symm
      exact (String.empty_append).symm
  | cons part rest ih =>
      cases part with
      | some text =>
          have count : gaps rest = words.length := by simpa [gaps] using count
          simp only [List.cons_append, fill, ih count, String.append_assoc]
      | none =>
          -- a gap takes one of the words, and there is one for each
          cases words with
          | nil => simp [gaps] at count
          | cons word words =>
              have count : gaps rest = words.length := by simpa [gaps] using count
              simp only [List.cons_append, fill, List.headD_cons, List.tail_cons, ih count,
                String.append_assoc]

end Template

variable {print : Float → String} {xs xs' ys ys' : List Float} {s s' t t' : String}

/-- Two texts are the same, but where one of them has the times `xs` printed, the other has
the times `ys`. -/
inductive SameBut (print : Float → String) : List Float → List Float → String → String → Prop
  | same (text : String) : SameBut print [] [] text text
  | time (x y : Float) : SameBut print [x] [y] (print x) (print y)
  | append {xs xs' ys ys' : List Float} {s s' t t' : String} :
      SameBut print xs ys s t → SameBut print xs' ys' s' t' →
        SameBut print (xs ++ xs') (ys ++ ys') (s ++ s') (t ++ t')

namespace SameBut

theorem before (text : String) (h : SameBut print xs ys s t) :
    SameBut print xs ys (text ++ s) (text ++ t) :=
  (same text).append h

theorem behind (text : String) (h : SameBut print xs ys s t) :
    SameBut print xs ys (s ++ text) (t ++ text) := by
  simpa only [List.append_nil] using h.append (same text)

/-- **One text with gaps** for two texts that are the same but for times. -/
theorem template (h : SameBut print xs ys s t) :
    ∃ template : Template, template.gaps = xs.length ∧ template.gaps = ys.length ∧
      s = template.fill (xs.map print) ∧ t = template.fill (ys.map print) := by
  induction h with
  | same text => exact ⟨[some text], rfl, rfl, by simp [Template.fill], by simp [Template.fill]⟩
  | time x y => exact ⟨[none], rfl, rfl, by simp [Template.fill], by simp [Template.fill]⟩
  | append _ _ ih ih' =>
      obtain ⟨first, left, right, rfl, rfl⟩ := ih
      obtain ⟨second, left', right', rfl, rfl⟩ := ih'
      refine ⟨first ++ second, ?_, ?_, ?_, ?_⟩
      · rw [Template.gaps_append, left, left', List.length_append]
      · rw [Template.gaps_append, right, right', List.length_append]
      · rw [List.map_append, Template.fill_append _ _ (left.trans (List.length_map _).symm)]
      · rw [List.map_append, Template.fill_append _ _ (right.trans (List.length_map _).symm)]

/-- Times that are printed without a line break leave the lines alone. -/
theorem lineBreaks (oneLine : ∀ x, Csv.lineBreaks (print x) = 0)
    (h : SameBut print xs ys s t) : Csv.lineBreaks s = Csv.lineBreaks t := by
  induction h with
  | same text => rfl
  | time x y => rw [oneLine, oneLine]
  | append _ _ ih ih' => rw [Csv.lineBreaks_append, Csv.lineBreaks_append, ih, ih']

/-- One more line in front of lines. -/
theorem unlines_cons {rest rest' : List String} (h : SameBut print xs ys s t)
    (h' : SameBut print xs' ys' (unlines rest) (unlines rest')) :
    SameBut print (xs ++ xs') (ys ++ ys') (unlines (s :: rest)) (unlines (t :: rest')) :=
  (h.behind "\n").append h'

theorem unlines_append {ls ls' rest rest' : List String}
    (h : SameBut print xs ys (unlines ls) (unlines ls'))
    (h' : SameBut print xs' ys' (unlines rest) (unlines rest')) :
    SameBut print (xs ++ xs') (ys ++ ys') (unlines (ls ++ rest)) (unlines (ls' ++ rest')) := by
  rw [CrossBench.unlines_append, CrossBench.unlines_append]
  exact h.append h'

/-- The lines of things that come in pairs. -/
theorem unlines_flatMap {α : Type} {times : α → List Float} {lines : α → List String}
    {as bs : List α}
    (each : List.Forall₂ (fun a b =>
      SameBut print (times a) (times b) (unlines (lines a)) (unlines (lines b))) as bs) :
    SameBut print (as.flatMap times) (bs.flatMap times) (unlines (as.flatMap lines))
      (unlines (bs.flatMap lines)) := by
  induction each with
  | nil => exact same ""
  | cons here _ ih =>
      simp only [List.flatMap_cons]
      exact here.unlines_append ih

end SameBut

/-! ## Results that differ in times only

What is required of the two sides: the same names and counts, and times that print as
numbers.
-/

/-- Two summaries for one runtime and of as many samples, with times that are finite and have no
sign. -/
structure Summary.Alike (s s' : Summary) : Prop where
  tag : s.tag = s'.tag
  samples : s.samples = s'.samples
  unsigned : ∀ x ∈ s.times, Unsigned x
  unsigned' : ∀ x ∈ s'.times, Unsigned x

/-- Two results for one file that differ in times only. -/
structure FileResult.Alike (result result' : FileResult) : Prop where
  file : result.file = result'.file
  tag : result.tag = result'.tag
  failedRuns : result.failedRuns = result'.failedRuns
  summary : Option.Rel Summary.Alike result.summary result'.summary

/-- Two reports of one suite that differ in times only. -/
structure SuiteReport.Alike (report report' : SuiteReport) : Prop where
  name : report.name = report'.name
  iterations : report.iterations = report'.iterations
  warmup : report.warmup = report'.warmup
  results : List.Forall₂ FileResult.Alike report.results report'.results

/-- The times of a summary in the order in which a format has them. -/
def Format.times : Format → Summary → List Float
  | .json, s => s.times
  | _, s => (Csv.statistics s).map Prod.snd

/-- How a format prints a time. -/
def Format.timeText : Format → Float → String
  | .human, x => Decimal.fixed 2 x
  | .csv, x => Decimal.fixed 6 x
  | .json, x => String.ofList (Json.numeral x)

/-- The times of a result in the order of a format. -/
def FileResult.times (format : Format) (result : FileResult) : List Float :=
  result.summary.toList.flatMap format.times

/-- The times of a report in the order of a format. -/
def SuiteReport.times (format : Format) (report : SuiteReport) : List Float :=
  report.results.flatMap (FileResult.times format)

theorem lineBreaks_timeText (format : Format) (x : Float) :
    Csv.lineBreaks (format.timeText x) = 0 := by
  cases format with
  | human => exact (Csv.Plain.fixed 2 x).lineBreaks
  | csv => exact (Csv.Plain.fixed 6 x).lineBreaks
  | json =>
      refine List.count_eq_zero.mpr fun mem => ?_
      have word := Json.wordChar_numeral x '\n' (by simpa [Format.timeText] using mem)
      cases word

theorem mem_times_of_format {format : Format} {s : Summary} {x : Float}
    (mem : x ∈ format.times s) : x ∈ s.times := by
  cases format <;>
    simp only [Format.times, Csv.statistics, Summary.times, List.map_cons, List.map_nil,
      List.mem_cons, List.not_mem_nil, or_false] at mem ⊢ <;>
    tauto

/-- What holds of the times of both things in every pair holds of the times of all. -/
theorem forall_times_of_pairs {α : Type} {R : α → α → Prop} {P : Float → Prop}
    {times : α → List Float}
    (each : ∀ a b, R a b → (∀ x ∈ times a, P x) ∧ ∀ x ∈ times b, P x) {as bs : List α}
    (pairs : List.Forall₂ R as bs) :
    (∀ x ∈ as.flatMap times, P x) ∧ ∀ x ∈ bs.flatMap times, P x := by
  induction pairs with
  | nil => exact ⟨List.forall_mem_nil P, List.forall_mem_nil P⟩
  | cons pair _ ih =>
      have here := each _ _ pair
      rw [List.flatMap_cons, List.flatMap_cons]
      exact ⟨List.forall_mem_append.mpr ⟨here.1, ih.1⟩,
        List.forall_mem_append.mpr ⟨here.2, ih.2⟩⟩

/-- The durations of results that are alike are finite and have no sign. -/
theorem FileResult.Alike.unsigned (format : Format) (result result' : FileResult)
    (alike : result.Alike result') :
    (∀ x ∈ result.times format, Unsigned x) ∧ ∀ x ∈ result'.times format, Unsigned x := by
  unfold FileResult.times
  refine forall_times_of_pairs (R := Summary.Alike) (fun s s' pair => ?_) ?_
  · exact ⟨fun x mem => pair.unsigned x (mem_times_of_format mem),
      fun x mem => pair.unsigned' x (mem_times_of_format mem)⟩
  · have pair := alike.summary
    generalize result.summary = summary, result'.summary = summary' at pair
    cases pair with
    | none => exact .nil
    | some pair => exact .cons pair .nil

/-- **No time is infinite, none is not a number, and none has a minus sign**, in reports
that differ in times only. -/
theorem unsigned_of_alike (format : Format) {reports reports' : List SuiteReport}
    (alike : List.Forall₂ SuiteReport.Alike reports reports') :
    (∀ x ∈ reports.flatMap (SuiteReport.times format), Unsigned x) ∧
      ∀ x ∈ reports'.flatMap (SuiteReport.times format), Unsigned x :=
  forall_times_of_pairs (fun _ _ pair => forall_times_of_pairs
    (FileResult.Alike.unsigned format) pair.results) alike

/-! ## The report for people

Each line has its times between fixed texts.
-/

namespace Human

/-- Two durations in one style differ in their figures only. -/
theorem sameBut_milliseconds (colored : Bool) (style : Style) (x y : Float) :
    SameBut (Format.timeText .human) [x] [y] (style.paint colored (milliseconds x))
      (style.paint colored (milliseconds y)) := by
  rw [Style.paint_eq, Style.paint_eq]
  exact (((SameBut.time x y).behind "ms").before _).behind _

/-- The line for a file, part by part. -/
theorem sameBut_resultLine (colored : Bool) {result result' : FileResult}
    (alike : result.Alike result') :
    SameBut (Format.timeText .human) (result.times .human) (result'.times .human)
      (resultLine colored result) (resultLine colored result') := by
  obtain ⟨file, tag, summary, failedRuns⟩ := result
  obtain ⟨file', tag', summary', failedRuns'⟩ := result'
  obtain ⟨rfl, rfl, rfl, statistics⟩ := alike
  cases statistics with
  | none => exact .same _
  | @some s s' pair =>
      -- the remark on failed runs has the number of samples in it and no time
      have mark : failedMark colored s' failedRuns = failedMark colored s failedRuns := by
        match failedRuns with
        | none | some 0 => rfl
        | some (failed + 1) => simp only [failedMark, pair.samples]
      have time := sameBut_milliseconds colored
      have least := (time .green s.min s'.min).before "  min="
      have middle := (least.behind "  med=").append (time .cyan s.median s'.median)
      have average := (middle.behind "  avg=").append (time .cyan s.mean s'.mean)
      have greatest := (average.behind "  max=").append (time .yellow s.max s'.max)
      have whole := (greatest.behind "  σ=").append (time .dim s.stdev s'.stdev)
      unfold resultLine
      simp only [mark]
      exact (whole.behind _).before _

/-- **The block of a suite** for two reports that differ in times only. -/
theorem sameBut_suiteLines (colored : Bool) (plan : Plan) {report report' : SuiteReport}
    (alike : report.Alike report') :
    SameBut (Format.timeText .human) (report.times .human) (report'.times .human)
      (unlines (suiteLines colored plan report)) (unlines (suiteLines colored plan report')) := by
  obtain ⟨name, iterations, warmup, results⟩ := report
  obtain ⟨name', iterations', warmup', results'⟩ := report'
  obtain ⟨rfl, rfl, rfl, pairs⟩ := alike
  refine .before _ (.before _ ?_)
  cases pairs with
  | nil => exact .same _
  | cons pair pairs =>
      -- both suites have results, so that neither has the notice, and each result has one line
      have lines : ∀ results, List.map (resultLine colored) results
          = results.flatMap fun result => [resultLine colored result] := fun _ =>
        List.map_eq_flatMap
      rw [if_neg (List.cons_ne_nil _ _), if_neg (List.cons_ne_nil _ _), List.append_nil,
        List.append_nil, lines, lines]
      exact .unlines_flatMap ((List.Forall₂.cons pair pairs).imp fun _ _ pair =>
        ((sameBut_resultLine colored pair).behind "\n").behind "")

end Human

/-! ## Rows

A row has one time, or the count of failed runs.
-/

namespace Csv

/-- The rows of results that are alike differ in their durations only. -/
theorem sameBut_rows (suite : String) (plan : Plan) {result result' : FileResult}
    (alike : result.Alike result') :
    SameBut (Format.timeText .csv) (result.times .csv) (result'.times .csv)
      (unlines (rows suite plan result)) (unlines (rows suite plan result')) := by
  obtain ⟨file, tag, summary, failedRuns⟩ := result
  obtain ⟨file', tag', summary', failedRuns'⟩ := result'
  obtain ⟨rfl, rfl, rfl, statistics⟩ := alike
  cases statistics with
  | none => exact .same _
  | @some s s' pair =>
      have row : ∀ name x y, SameBut (Format.timeText .csv) [x] [y]
          (subject suite plan tag ++ "," ++ name ++ "," ++ Decimal.fixed 6 x ++ ",ms")
          (subject suite plan tag ++ "," ++ name ++ "," ++ Decimal.fixed 6 y ++ ",ms") :=
        fun name x y => ((SameBut.time x y).before _).behind ",ms"
      have times (counted : List String) :=
        SameBut.unlines_cons (row "min" s.min s'.min) <|
          .unlines_cons (row "median" s.median s'.median) <|
          .unlines_cons (row "mean" s.mean s'.mean) <|
          .unlines_cons (row "max" s.max s'.max) <|
          .unlines_cons (row "stdev" s.stdev s'.stdev) (.same (unlines counted))
      exact times _

/-- **The rows of a suite** for two reports that differ in times only. -/
theorem sameBut_suiteRows (plan : Plan) {report report' : SuiteReport}
    (alike : report.Alike report') :
    SameBut (Format.timeText .csv) (report.times .csv) (report'.times .csv)
      (unlines (suiteRows plan report)) (unlines (suiteRows plan report')) := by
  obtain ⟨name, iterations, warmup, results⟩ := report
  obtain ⟨name', iterations', warmup', results'⟩ := report'
  obtain ⟨rfl, rfl, rfl, pairs⟩ := alike
  exact .unlines_flatMap (pairs.imp fun _ _ pair => sameBut_rows name plan pair)

end Csv

/-! ## Documents

A document is compared before it is written, as a tree with numbers in the same places.
-/

namespace Json

mutual

/-- A datum without the values of its numbers: what is left are keys, texts, signs, and
the places where there is nothing. -/
def Datum.shape : Datum → Datum
  | .null => .null
  | .bool b => .bool b
  | .number negative _ => .number negative ⟨0, 0⟩
  | .string s => .string s
  | .array items => .array (shapeItems items)
  | .object fields => .object (shapeFields fields)
termination_by structural datum => datum

/-- The shapes of the items of a list. -/
def Datum.shapeItems : List Datum → List Datum
  | [] => []
  | item :: rest => item.shape :: shapeItems rest
termination_by structural items => items

/-- The shapes of the fields of an object. -/
def Datum.shapeFields : List (String × Datum) → List (String × Datum)
  | [] => []
  | (key, datum) :: rest => (key, datum.shape) :: shapeFields rest
termination_by structural fields => fields

end

namespace Value

mutual

/-- Two documents are the same, but where one of them has the numbers `xs`, the other has
the numbers `ys`, all of them finite and without a sign. -/
inductive Twin : List Float → List Float → Value → Value → Prop
  | same (value : Value) : Twin [] [] value value
  | number {x y : Float} : Unsigned x → Unsigned y → Twin [x] [y] (.number x) (.number y)
  | array {xs ys : List Float} {items items' : List Value} :
      TwinItems xs ys items items' → Twin xs ys (.array items) (.array items')
  | object {xs ys : List Float} {fields fields' : List (String × Value)} :
      TwinFields xs ys fields fields' → Twin xs ys (.object fields) (.object fields')

/-- The items of two lists, pair by pair. -/
inductive TwinItems : List Float → List Float → List Value → List Value → Prop
  | nil : TwinItems [] [] [] []
  | cons {xs xs' ys ys' : List Float} {item item' : Value} {rest rest' : List Value} :
      Twin xs ys item item' → TwinItems xs' ys' rest rest' →
        TwinItems (xs ++ xs') (ys ++ ys') (item :: rest) (item' :: rest')

/-- The fields of two objects, with one key for each pair. -/
inductive TwinFields :
    List Float → List Float → List (String × Value) → List (String × Value) → Prop
  | nil : TwinFields [] [] [] []
  | cons {xs xs' ys ys' : List Float} (key : String) {value value' : Value}
      {rest rest' : List (String × Value)} :
      Twin xs ys value value' → TwinFields xs' ys' rest rest' →
        TwinFields (xs ++ xs') (ys ++ ys') ((key, value) :: rest) ((key, value') :: rest')

end

mutual

/-- **The texts of two such documents** are the same but for the numbers. -/
theorem Twin.sameBut {xs ys : List Float} {value value' : Value} (depth : Nat) :
    Twin xs ys value value' → SameBut (Format.timeText .json) xs ys
      (String.ofList (value.render depth)) (String.ofList (value'.render depth))
  | .same _ => .same _
  | .number _ _ => .time _ _
  | .array items => items.sameBut.2 depth
  | .object fields => fields.sameBut.2 depth

/-- The items, each behind a comma, and the list that they make: there the first one has no
comma in front of it. -/
theorem TwinItems.sameBut {xs ys : List Float} {items items' : List Value} :
    TwinItems xs ys items items' →
      (∀ depth, SameBut (Format.timeText .json) xs ys (String.ofList (renderItems depth items))
        (String.ofList (renderItems depth items'))) ∧
      ∀ depth, SameBut (Format.timeText .json) xs ys
        (String.ofList ((Value.array items).render depth))
        (String.ofList ((Value.array items').render depth))
  | .nil => ⟨fun _ => .same _, fun _ => .same _⟩
  | .cons first rest => by
      refine ⟨fun depth => ?_, fun depth => ?_⟩
      · simp only [renderItems, String.ofList_append]
        exact ((first.sameBut depth).before _).append (rest.sameBut.1 depth)
      · simp only [render, String.ofList_append]
        exact ((((first.sameBut (depth + 1)).before _).append
          (rest.sameBut.1 (depth + 1))).behind _).behind _

@[inherit_doc TwinItems.sameBut]
theorem TwinFields.sameBut {xs ys : List Float} {fields fields' : List (String × Value)} :
    TwinFields xs ys fields fields' →
      (∀ depth, SameBut (Format.timeText .json) xs ys
        (String.ofList (renderFields depth fields))
        (String.ofList (renderFields depth fields'))) ∧
      ∀ depth, SameBut (Format.timeText .json) xs ys
        (String.ofList ((Value.object fields).render depth))
        (String.ofList ((Value.object fields').render depth))
  | .nil => ⟨fun _ => .same _, fun _ => .same _⟩
  | .cons key first rest => by
      -- behind another field, and as the first one in its object
      refine ⟨fun depth => ?_, fun depth => ?_⟩
      · simp only [renderFields, String.ofList_append]
        exact ((first.sameBut depth).before _).append (rest.sameBut.1 depth)
      · simp only [render, String.ofList_append]
        exact ((((first.sameBut (depth + 1)).before _).append
          (rest.sameBut.1 (depth + 1))).behind _).behind _

end

/-- A number that is finite and has no sign is read as such a number. -/
theorem shape_number {x : Float} (unsigned : Unsigned x) :
    (Value.number x).datum.shape = .number false ⟨0, 0⟩ := by
  obtain ⟨m, q, found⟩ := unsigned
  have read := word?_numeral x
  rw [found] at read
  obtain ⟨value, read, -⟩ := read
  rw [datum, read, Option.getD_some, Datum.shape]

mutual

/-- **The structure of two such documents** is one. -/
theorem Twin.shape {xs ys : List Float} {value value' : Value} :
    Twin xs ys value value' → value.datum.shape = value'.datum.shape
  | .same _ => rfl
  | .number hx hy => (shape_number hx).trans (shape_number hy).symm
  | .array items => by rw [datum, datum, Datum.shape, Datum.shape, items.shape]
  | .object fields => by rw [datum, datum, Datum.shape, Datum.shape, fields.shape]

/-- Items with the same places for numbers have the same shape. -/
theorem TwinItems.shape {xs ys : List Float} {items items' : List Value} :
    TwinItems xs ys items items' →
      Datum.shapeItems (itemData items) = Datum.shapeItems (itemData items')
  | .nil => rfl
  | .cons first rest => by
      rw [itemData, itemData, Datum.shapeItems, Datum.shapeItems, first.shape, rest.shape]

theorem TwinFields.shape {xs ys : List Float} {fields fields' : List (String × Value)} :
    TwinFields xs ys fields fields' →
      Datum.shapeFields (fieldData fields) = Datum.shapeFields (fieldData fields')
  | .nil => rfl
  | .cons key first rest => by
      rw [fieldData, fieldData, Datum.shapeFields, Datum.shapeFields, first.shape, rest.shape]

end

theorem TwinFields.same (fields : List (String × Value)) : TwinFields [] [] fields fields := by
  induction fields with
  | nil => exact .nil
  | cons field rest ih => exact .cons field.1 (.same field.2) ih

/-- The items for things that come in pairs. -/
theorem TwinItems.map {α : Type} {times : α → List Float} {item : α → Value} {as bs : List α}
    (each : List.Forall₂ (fun a b => Twin (times a) (times b) (item a) (item b)) as bs) :
    TwinItems (as.flatMap times) (bs.flatMap times) (as.map item) (bs.map item) := by
  induction each with
  | nil => exact .nil
  | cons here _ ih => exact .cons here ih

end Value

end Json

namespace Document

open Json Json.Value

/-- Results that are alike are written with numbers in the same places. -/
theorem twin_ofResult {result result' : FileResult} (alike : result.Alike result') :
    Twin (result.times .json) (result'.times .json) (ofResult result) (ofResult result') := by
  obtain ⟨file, tag, summary, failedRuns⟩ := result
  obtain ⟨file', tag', summary', failedRuns'⟩ := result'
  obtain ⟨rfl, rfl, rfl, statistics⟩ := alike
  cases statistics with
  | none => exact .same _
  | @some s s' pair =>
      have number : ∀ x ∈ s.times, ∀ y ∈ s'.times, Twin [x] [y] (.number x) (.number y) :=
        fun x hx y hy => .number (pair.unsigned x hx) (pair.unsigned' y hy)
      simp only [Summary.times, List.forall_mem_cons] at number
      -- the number of samples is no time, and the same in both
      have samples : Twin [] [] (.nat s.samples) (.nat s'.samples) := pair.samples ▸ .same _
      have fields (counted : List (String × Value)) :=
        TwinFields.cons "file" (.same (.string file)) <|
        TwinFields.cons "tag" (.same (.string tag.text)) <|
        TwinFields.cons "min" number.1.1 <| TwinFields.cons "max" number.2.1.2.1 <|
        TwinFields.cons "mean" number.2.2.1.2.2.1 <|
        TwinFields.cons "median" number.2.2.2.1.2.2.2.1 <|
        TwinFields.cons "stdev" number.2.2.2.2.1.2.2.2.2.1 <|
        TwinFields.cons "samples" samples <| .same counted
      exact .object (fields _)

theorem twin_ofSuite {report report' : SuiteReport} (alike : report.Alike report') :
    Twin (report.times .json) (report'.times .json) (ofSuite report) (ofSuite report') := by
  obtain ⟨name, iterations, warmup, results⟩ := report
  obtain ⟨name', iterations', warmup', results'⟩ := report'
  obtain ⟨rfl, rfl, rfl, pairs⟩ := alike
  have items := TwinItems.map (pairs.imp fun _ _ pair => twin_ofResult pair)
  have fields := TwinFields.cons "name" (.same (.string name)) <|
    TwinFields.cons "iterations" (.same (.nat iterations.toNat)) <|
    TwinFields.cons "warmup" (.same (.nat warmup.toNat)) <|
    TwinFields.cons "results" (.array items) .nil
  simp only [List.nil_append, List.append_nil] at fields
  exact .object fields

/-- **The document of a run** for reports that differ in times only. -/
theorem twin_ofSuites {reports reports' : List SuiteReport}
    (alike : List.Forall₂ SuiteReport.Alike reports reports') :
    Twin (reports.flatMap (SuiteReport.times .json)) (reports'.flatMap (SuiteReport.times .json))
      (ofSuites reports) (ofSuites reports') := by
  have items := TwinItems.map (alike.imp fun _ _ pair => twin_ofSuite pair)
  have fields := TwinFields.cons "suites" (.array items) .nil
  simp only [List.append_nil] at fields
  exact .object fields

end Document

end CrossBench
