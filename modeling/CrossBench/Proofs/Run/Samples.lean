import CrossBench.Proofs.Run.Course
import CrossBench.Proofs.Report.Reading

/-!
# As many samples as iterations

A file that is measured is run as often as the plan says, and every one of these runs gives
a sample, whether it ended well or not.  So nothing that a script does can leave a gap in
the report: as long as the plan has an iteration, every result has its statistics.

* `FileResult.Complete` — a result with all that the plan asks for.
* `Run.complete_of_mem_course` — every result that a run reports is complete.
* `FileResult.Complete.not_noData`, `FileResult.Complete.has_keys` — what this means for
  people and in a document.
-/

namespace CrossBench

/-! ## Samples and their summary

Sampling is a fixed number of runs, whatever comes of them.
-/

namespace Sampling

variable {σ : Type}

/-- **One sample for every measured run**, and no more failures than samples. -/
theorem collect_samples (host : Host σ) (plan : Plan) (command : Command) (file : Path)
    (m : Machine σ) :
    ∃ runs : List (Bool × UInt64), runs.length = plan.iterations.toNat ∧
      (collect host plan command file m).2 = sampleSet plan.failedRuns runs :=
  ⟨_, length_repeated .., rfl⟩

end Sampling

/-- Any samples at all have a summary, which counts them and is for the runtime in question. -/
theorem summarize_of_ne_nil (tag : Tag) {samples : List UInt64} (any : samples ≠ []) :
    ∃ s, summarize tag samples = some s ∧ s.tag = tag ∧ s.samples = samples.length := by
  have length : (Summary.sortedMillis samples).length = samples.length := by
    simp [Summary.sortedMillis]
  unfold summarize
  split
  · next none =>
    rw [none] at length
    exact absurd (List.eq_nil_of_length_eq_zero length.symm) any
  · next first rest some =>
    rw [some] at length
    exact ⟨_, rfl, rfl, length⟩

/-- A result with all that the plan asks for: a summary of as many samples as iterations,
and, if failed runs are flagged, their number, which is at most that. -/
structure FileResult.Complete (plan : Plan) (result : FileResult) : Prop where
  summary : ∃ s, result.summary = some s ∧ s.samples = plan.iterations.toNat
  recorded : plan.failedRuns = .record → result.failedRuns = none
  flagged : plan.failedRuns = .flag →
    ∃ failed, result.failedRuns = some failed ∧ failed ≤ plan.iterations.toNat

/-! ## Results

File by file, and suite by suite.
-/

namespace Run

variable {σ : Type}

/-- The result of a job is complete, if at least one run is asked for. -/
theorem complete_result (host : Host σ) {plan : Plan} (any : 1 ≤ plan.iterations.toNat)
    (job : Job) (m : Machine σ) :
    (job.result (Sampling.collect host plan job.command job.file m).2).Complete plan := by
  obtain ⟨runs, count, samples⟩ :=
    Sampling.collect_samples host plan job.command job.file m
  rw [samples]
  -- as many samples as iterations, and so at least one
  have nonempty : (Sampling.sampleSet plan.failedRuns runs).samples ≠ [] := by
    intro none
    have length := congrArg List.length none
    simp only [Sampling.sampleSet, List.length_map, List.length_nil] at length
    omega
  obtain ⟨s, found, -, counted⟩ := summarize_of_ne_nil job.tag nonempty
  refine ⟨⟨s, found, ?_⟩, fun policy => ?_, fun policy => ?_⟩
  · rw [counted, ← count]
    exact List.length_map _
  · simp only [Job.result, Sampling.sampleSet, policy]
  · simp only [Job.result, Sampling.sampleSet, policy]
    exact ⟨_, rfl, count ▸ List.countP_le_length⟩

theorem complete_measured (host : Host σ) {plan : Plan} (any : 1 ≤ plan.iterations.toNat)
    (js : List Job) (m : Machine σ) :
    ∀ result ∈ (measured host plan js m).2, result.Complete plan := by
  induction js generalizing m with
  | nil => exact fun _ mem => nomatch mem
  | cons job rest ih =>
      exact List.forall_mem_cons.mpr ⟨complete_result host any job m, ih _⟩

theorem complete_passage (host : Host σ) (registry : Registry) {plan : Plan}
    (any : 1 ≤ plan.iterations.toNat) (directories : List Path) (m : Machine σ) :
    ∀ report ∈ (passage host registry plan directories m).reports,
      ∀ result ∈ report.results, result.Complete plan := by
  induction directories generalizing m with
  | nil => exact fun _ mem => nomatch mem
  | cons directory rest ih =>
      unfold passage
      split
      · exact fun _ mem => nomatch mem
      · exact List.forall_mem_cons.mpr ⟨complete_measured host any _ m, ih _⟩

/-! ## What a run tells

An event about a file comes from the way through the suites and from nowhere else.
-/

/-- The events of a run, by where they come from. -/
theorem mem_events_course {host : Host σ} {settings : Settings} {options : RunOptions}
    {m : Machine σ} {event : Event}
    (told : event ∈ (course host settings options m).events) :
    event ∈ (prepared host settings options m).events ∨
      (∃ report ∈ (course host settings options m).reports,
        event ∈ suiteEvents options.plan report) ∨
      (∃ root, event = .noSuites root) ∨
      (∃ name, event = .suiteStarted name options.plan) ∨ event = .runFinished := by
  dsimp only [course] at told ⊢
  refine (List.mem_append.mp told).imp_right fun mem => ?_
  unfold tour at mem ⊢
  split at mem
  · cases mem
  · next root _ => exact .inr (.inl ⟨_, List.mem_singleton.mp mem⟩)
  · next first rest _ =>
    dsimp only at mem ⊢
    generalize passage host (prepared host settings options m).registry options.plan
      (first :: rest) (prepared host settings options m).machine = way at mem ⊢
    -- a passage tells its suites, then perhaps the one it stopped in, and then the closing
    rcases List.mem_append.mp mem with mem | mem
    · rcases List.mem_append.mp mem with mem | mem
      · exact .inl (List.mem_flatMap.mp mem)
      · cases stopped : way.stop with
        | none => simp [stopped] at mem
        | some stop =>
            rw [stopped] at mem
            exact .inr (.inr (.inl ⟨_, List.mem_singleton.mp mem⟩))
    · unfold closing at mem
      split at mem
      · exact .inr (.inr (.inr (List.mem_singleton.mp mem)))
      · cases mem

/-- Whatever a run tells of a file is in the report of a suite that it finished. -/
theorem mem_reports_of_told {host : Host σ} {settings : Settings} {options : RunOptions}
    {m : Machine σ} {suite : String} {plan : Plan} {result : FileResult}
    (told : .fileMeasured suite plan result ∈ (course host settings options m).events) :
    ∃ report ∈ (course host settings options m).reports, result ∈ report.results := by
  rcases mem_events_course told with mem | ⟨report, listed, mem⟩ | ⟨_, other⟩ | ⟨_, other⟩ | other
  · simp [prepared] at mem
  · simp only [suiteEvents, List.mem_cons, List.mem_append, List.mem_map, reduceCtorEq,
      List.not_mem_nil, Event.fileMeasured.injEq, or_false, false_or] at mem
    obtain ⟨_, among, -, -, rfl⟩ := mem
    exact ⟨report, listed, among⟩
  all_goals cases other

/-- What a run tells of a build is what became of it. -/
theorem eq_outcome_of_told {host : Host σ} {settings : Settings} {options : RunOptions}
    {m : Machine σ} {gate : Gate} {outcome : BuildOutcome}
    (told : .buildFinished gate outcome ∈ (course host settings options m).events) :
    gate = .ofSettings settings.native options.root ∧
      outcome = (gate.apply host settings.registry (gate.check (m.tree host))
        options.skipBuild m).2.2 := by
  rcases mem_events_course told with mem | ⟨report, -, mem⟩ | ⟨_, other⟩ | ⟨_, other⟩ | other
  · rcases List.mem_append.mp mem with mem | mem
    · split at mem <;> simp at mem
    · cases List.mem_singleton.mp mem
      exact ⟨rfl, rfl⟩
  · simp [suiteEvents] at mem
  all_goals cases other

/-- **Every result of a run is complete**, if the plan has an iteration. -/
theorem complete_of_mem_course (host : Host σ) (settings : Settings) {options : RunOptions}
    (any : 1 ≤ options.plan.iterations.toNat) (m : Machine σ) :
    ∀ report ∈ (course host settings options m).reports,
      ∀ result ∈ report.results, result.Complete options.plan := by
  dsimp only [course]
  unfold tour
  split
  · exact fun _ mem => nomatch mem
  · exact fun _ mem => nomatch mem
  · exact complete_passage host _ any _ _

end Run

/-! ## Complete results in a report

The line about a file without data ends in `no data`, up to the code behind it.  A complete
result ends in a unit or in a count.
-/

/-- What stands in front of a painted text, and behind it. -/
def Style.opening (style : Style) (colored : Bool) : String :=
  if colored then escapeSequence style.code else ""

@[inherit_doc Style.opening]
def Style.closing (colored : Bool) : String := if colored then escapeSequence "0" else ""

/-- A painted text is the text between two codes, which are empty without colours. -/
theorem Style.paint_eq (style : Style) (colored : Bool) (text : String) :
    style.paint colored text = style.opening colored ++ text ++ Style.closing colored := by
  cases colored <;> simp [paint, opening, closing]

/-- A line that ends in another letter than the one that `no data` ends in, up to the code
that switches a style off. -/
def Human.EndsOtherwise (colored : Bool) (line : String) : Prop :=
  ∃ front last, last ≠ 'a' ∧ line = front ++ String.singleton last ++ Style.closing colored

namespace Human.EndsOtherwise

variable {colored : Bool}

theorem behind {line : String} (h : EndsOtherwise colored line) (before : String) :
    EndsOtherwise colored (before ++ line) := by
  obtain ⟨front, last, other, rfl⟩ := h
  exact ⟨before ++ front, last, other, by simp only [String.append_assoc]⟩

theorem paint (style : Style) {last : Char} (other : last ≠ 'a') (front : String) :
    EndsOtherwise colored (style.paint colored (front ++ String.singleton last)) :=
  ⟨style.opening colored ++ front, last, other, by
    simp only [Style.paint_eq, String.append_assoc]⟩

theorem milliseconds (style : Style) (x : Float) :
    EndsOtherwise colored (style.paint colored (Human.milliseconds x)) := by
  have unit : Human.milliseconds x = Decimal.fixed 2 x ++ "m" ++ String.singleton 's' := by
    rw [Human.milliseconds, String.append_assoc]
    rfl
  exact unit ▸ paint style (by decide) _

theorem count (style : Style) (front : String) (n : Nat) :
    EndsOtherwise colored (style.paint colored (front ++ n.repr)) := by
  obtain ⟨digits, last, split⟩ :=
    (List.eq_nil_or_concat' (Nat.toDigits 10 n)).resolve_left Nat.toDigits_ne_nil
  have digit : last.isDigit = true :=
    Nat.isDigit_of_mem_toDigits (by decide) (by decide) (split ▸ List.mem_concat_self)
  have other : last ≠ 'a' := by
    rintro rfl
    cases digit
  have number : front ++ n.repr = front ++ String.ofList digits ++ String.singleton last := by
    rw [Nat.repr_eq_ofList_toDigits, split, String.ofList_append, String.append_assoc]
    rfl
  exact number ▸ paint style other _

/-- A line that ends otherwise is no line without data. -/
theorem not_noData {line : String} (h : EndsOtherwise colored line) :
    ¬ (Style.dim.paint colored "no data").toList <:+ line.toList := by
  obtain ⟨front, last, other, rfl⟩ := h
  have mark : (Style.dim.paint colored "no data").toList
      = ((Style.dim.opening colored).toList ++ "no dat".toList ++ ['a'])
        ++ (Style.closing colored).toList := by
    simp [Style.paint_eq]
  rw [mark, String.toList_append, String.toList_append, List.suffix_append_self_iff,
    String.toList_singleton]
  intro suffix
  have same := ((List.suffix_append_inj_of_length_eq (by rfl)).mp suffix).2
  exact other (List.cons.inj same).1.symm

end Human.EndsOtherwise

namespace FileResult.Complete

variable {plan : Plan} {result : FileResult}

/-- **No line without data.**  The line of a complete result ends in a time, or in the
number of the samples. -/
theorem endsOtherwise (complete : result.Complete plan) (colored : Bool) :
    Human.EndsOtherwise colored (Human.resultLine colored result) := by
  obtain ⟨file, tag, summary, failedRuns⟩ := result
  obtain ⟨s, rfl, -⟩ := complete.summary
  have time : Human.EndsOtherwise colored (Style.dim.paint colored (Human.milliseconds s.stdev)) :=
    .milliseconds .dim s.stdev
  refine .behind ?_ _
  match failedRuns with
  | none | some 0 =>
      simp only [Human.failedMark, String.append_empty]
      exact time.behind _
  | some (failed + 1) => exact ((Human.EndsOtherwise.count .red _ s.samples).behind _).behind _

/-- **No object without statistics**, and the number of samples in it is that of the
iterations. -/
theorem has_keys (complete : result.Complete plan) :
    (∀ key ∈ Document.summaryKeys,
        ((Document.ofResult result).datum.field? key).isSome = true) ∧
      (Document.ofResult result).datum.field? "samples"
        = some (.nat plan.iterations.toNat) := by
  obtain ⟨s, found, count⟩ := complete.summary
  have object := Document.describesResult result
  refine ⟨fun key mem => ?_, ?_⟩
  · rw [object.summary key mem, found]
    rfl
  · rw [object.samples, found, ← count]
    rfl

end FileResult.Complete

end CrossBench
