import CrossBench.Proofs.Report.Reading
import CrossBench.Proofs.Run.Formats

/-!
# Reading a run back

A run that is reported as a document writes nothing if it ends with an error.  If
it answers, what it has written is one JSON text and a line break, and a reader
finds every suite of the run in it: their names and files are those of the suites
that were visited (`course_outline`), and what stands with them is described by
`Document.Describes`.
-/

namespace CrossBench.Run

variable {σ : Type}

/-- The reports of a run are about the suites that it visits and about the files
that can be measured there, in order. -/
theorem course_outline (host : Host σ) (settings : Settings) (options : RunOptions)
    (m : Machine σ) :
    let start := prepared host settings options m
    let suites := resolved (Suites.resolve (start.machine.tree host)
      (settings.benchmarksRoot options.root) options.suite)
    (course host settings options m).reports.map outline
      = (visits host start.registry options.plan suites start.machine.world).map
          (Visit.outline start.registry) := by
  have invocable := prepared_invocable host settings options m
  dsimp only [course, tour]
  -- how the run got here does not matter any more
  generalize prepared host settings options m = start at invocable ⊢
  cases Suites.resolve (start.machine.tree host)
      (settings.benchmarksRoot options.root) options.suite with
  | error e => rfl
  | ok suites =>
      cases suites with
      | nil => rfl
      | cons first rest =>
          exact passage_outline host invocable options.plan (first :: rest) start.machine

/-- **A run as a document is all or nothing, and reads back.**  If the run ends
with an error, nothing has been written.  Otherwise what has been written is one
JSON text and a line break.  The reader gets one datum from it, with the line
break or without, in which no object has one key twice and which describes the
reports of the run: one for each suite that was resolved, with the numbers of the
plan, and in each of them one result for each file that could be measured. -/
theorem document_runBenchmarks (host : Host σ) (settings : Settings)
    (options : RunOptions) (world : σ) (colored : Bool) :
    let gate := Gate.ofSettings settings.native options.root
    let staleness := gate.check (host.view world)
    let built := host.after (gate.starts staleness options.skipBuild) world
    let registry :=
      (gate.apply host settings.registry staleness options.skipBuild (.boot world)).2.1
    let suites := resolved (Suites.resolve (host.view built)
      (settings.benchmarksRoot options.root) options.suite)
    let seen := visits host registry options.plan suites built
    let reports := (course host settings options (.boot world)).reports
    let written := output host settings options world .json colored
    match (reported host settings options world .json colored).1 with
    | .error _ => written = []
    | .ok summary =>
        ∃ text datum, written = Utf8.encode (text ++ "\n") ∧
          Json.read? text = some datum ∧
          Json.read? (text ++ "\n") = some datum ∧
          datum.Distinct ∧
          Document.Describes datum reports ∧
          reports.map (fun report => (report.name, report.iterations, report.warmup))
            = suites.map (fun directory =>
                (directory.label, options.plan.iterations, options.plan.warmup)) ∧
          reports.map outline = seen.map (Visit.outline registry) ∧
          summary = ⟨reports.length, fileCount reports⟩ := by
  intro gate staleness built registry suites seen reports written
  obtain ⟨same, -, bytes⟩ := reported_eq host settings options world .json colored
  have text := text_json_course host settings options (.boot world) colored
  dsimp only at text
  rw [same]
  -- the document is the text of the last event, which only a run to the end tells
  cases answered : (course host settings options (.boot world)).answer with
  | error e =>
      rw [answered] at text
      exact bytes.trans (congrArg Utf8.encode text)
  | ok summary =>
      rw [answered] at text
      have whole := course_of_ok answered
      have outlines := course_outline host settings options (.boot world)
      dsimp only at whole outlines
      rw [prepared_tree] at whole outlines
      obtain ⟨names, counts, -⟩ := whole
      refine ⟨_, _, bytes.trans (congrArg Utf8.encode text), Json.read?_pretty _,
        Json.read?_pretty_line _, Document.distinct_ofSuites _,
        Document.describes_ofSuites _, names, ?_, counts⟩
      rw [prepared_eq_through, Machine.through_world] at outlines
      exact outlines

end CrossBench.Run
