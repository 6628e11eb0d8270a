import CrossBench.Proofs.Run.Formats

/-!
# Runs that cannot write their report

A sink that is full ends a run, and has no other influence on it.  Whatever the sink,
a run is one list of deeds, starts of processes and events in the order of the run,
and the sink decides how many of them are done: if there is room for everything that
the events write, all of them, and otherwise those in front of the first event that
cannot be written.

* `limited_runBenchmarks` — a run on a sink with a limit, beside the same run without.
* `runBenchmarks_json_of_ok` — in the format `json` only the last event of a run writes, so
  that a run that fails to write has done everything else, and its suites still wait.
-/

namespace CrossBench

namespace Run

open Reporter (ends)

variable {σ : Type}

/-- In the format `json` the event that cannot be written is the last one. -/
theorem last_of_not_fits {colored : Bool} {pending : List SuiteReport}
    {front before rest : List Event} {last event : Event} {sink : Sink}
    (quiet : ∀ event ∈ front, ends event = false)
    (parts : front ++ [last] = before ++ event :: rest)
    (tight : sink.fits (Utf8.encode
      ((⟨.json, colored, pending⟩ : Reporter).text (before ++ [event]))) = false) :
    before = front ∧ event = last := by
  rcases List.eq_nil_or_concat rest with rfl | ⟨rest', other, rfl⟩
  · obtain ⟨same, ending⟩ := List.append_inj' parts rfl
    exact ⟨same.symm, (List.cons.inj ending).1.symm⟩
  · -- otherwise the event is one of `front`, which writes nothing
    rw [List.concat_eq_append, ← List.cons_append, ← List.append_assoc] at parts
    obtain ⟨same, -⟩ := List.append_inj' parts rfl
    have quiet' : ∀ e ∈ before ++ [event], ends e = false := by
      intro e mem
      refine quiet e ?_
      rw [same, List.append_cons]
      exact List.mem_append_left _ mem
    rw [(Reporter.text_json_of_quiet colored pending quiet').1, Utf8.encode_empty,
      Sink.fits_nil] at tight
    cases tight

section Document

variable {host : Host σ} {settings : Settings} {options : RunOptions} {m : Machine σ}

/-- A run in the format `json` that ends too early for a document writes nothing, on any
sink, and the suites that it finished wait. -/
theorem runBenchmarks_json_of_error {e : HarnessError}
    (answered : (course host settings options m).answer = .error e)
    (colored : Bool) (pending : List SuiteReport) (sink : Sink) :
    let run := runBenchmarks host settings options ⟨m, ⟨.json, colored, pending⟩, sink⟩
    run.1 = .error e ∧ run.2.sink = sink ∧
      run.2.reporter
        = ⟨.json, colored, pending ++ (course host settings options m).reports⟩ := by
  intro run
  obtain ⟨deeds, events, -, does⟩ := benchmarks_does host settings options m
  obtain ⟨front, quiet, collected, shape⟩ := course_events host settings options m
  obtain ⟨silent, waiting⟩ := Reporter.text_json_of_quiet colored pending quiet
  rw [collected] at waiting
  rw [answered] at shape
  have text : (⟨.json, colored, pending⟩ : Reporter).text (told deeds) = "" := by
    rw [events, shape, silent]
  -- nothing is written, and there is room for nothing on any sink
  have room : sink.fits (Utf8.encode
      ((⟨.json, colored, pending⟩ : Reporter).text (told deeds))) = true := by
    rw [text, Utf8.encode_empty, Sink.fits_nil]
  have ran : run = _ := (does ⟨.json, colored, pending⟩ sink).trans (run_bind ..)
  rw [doing_of_fits host room, text, Utf8.encode_empty, Sink.fill_nil, events, shape,
    waiting] at ran
  rw [ran]
  exact ⟨answered, rfl, rfl⟩

/-- **A run as a document, on any sink.**  If a run in the format `json` comes to its end,
its last event writes the document of the suites that waited already and those that it
finished.  Unless that document has been written to its end, all of them wait now. -/
theorem runBenchmarks_json_of_ok {summary : RunSummary}
    (answered : (course host settings options m).answer = .ok summary)
    (colored : Bool) (pending : List SuiteReport) (sink : Sink) :
    let suites := pending ++ (course host settings options m).reports
    let document := (Document.ofSuites suites).pretty
    let run := runBenchmarks host settings options ⟨m, ⟨.json, colored, pending⟩, sink⟩
    run.2.sink = sink.fill (Utf8.encode (document ++ "\n")) ∧
      (sink.fits (Utf8.encode (document ++ "\n")) = true →
        run.1 = .ok summary ∧ run.2.reporter = ⟨.json, colored, []⟩) ∧
      (sink.fits (Utf8.encode (document ++ "\n")) = false →
        run.1 = .error (if sink.fits (Utf8.encode document) then .output Sink.full
          else .document Sink.full) ∧
          run.2.reporter = ⟨.json, colored, suites⟩) := by
  intro suites document run
  obtain ⟨deeds, events, -, does⟩ := benchmarks_does host settings options m
  -- all events but the last are quiet in this format, and the last writes the document
  obtain ⟨front, quiet, collected, shape⟩ := course_events host settings options m
  obtain ⟨silent, waiting⟩ := Reporter.text_json_of_quiet colored pending quiet
  rw [collected] at waiting
  rw [answered] at shape
  obtain ⟨last, ending, shape⟩ := shape
  have text : (⟨.json, colored, pending⟩ : Reporter).text (told deeds)
      = document ++ "\n" := by
    rw [events, shape, Reporter.text_append, silent, waiting,
      Reporter.text_json_of_ends colored _ ending, String.empty_append]
  have ran : run = _ := (does ⟨.json, colored, pending⟩ sink).trans (run_bind ..)
  rw [← text]
  cases room : sink.fits (Utf8.encode
      ((⟨.json, colored, pending⟩ : Reporter).text (told deeds))) with
  | true =>
      rw [doing_of_fits host room] at ran
      rw [ran]
      refine ⟨rfl, fun _ => ⟨answered, ?_⟩, Bool.noConfusion⟩
      rw [events, shape, Reporter.after_append, waiting]
      exact Reporter.next_json_of_ends colored _ ending
  | false =>
      obtain ⟨before, event, rest, rfl, -, tight, e, delivered, done⟩ :=
        doing_of_not_fits host room
      rw [done] at ran
      rw [ran]
      have parts : front ++ [last] = told before ++ event :: told rest := by
        rw [← shape, ← events, told_append]
        rfl
      -- quiet events always fit, so it is the last that breaks off
      obtain ⟨same, rfl⟩ := last_of_not_fits quiet parts tight
      rw [same, silent, waiting, Utf8.encode_empty, Sink.fill_nil,
        Reporter.note_json_of_ends colored _ ending,
        Reporter.chunks_json_of_ends colored _ ending, Reporter.deliver_document,
        ← text, room, if_neg Bool.false_ne_true] at delivered
      refine ⟨rfl, Bool.noConfusion,
        fun _ => ⟨congrArg Except.error (Except.error.inj delivered).symm, ?_⟩⟩
      rw [same, waiting]
      exact Reporter.note_json_of_ends colored _ ending

end Document

/-- In the formats that write as they go, a run that cannot write fails in one way. -/
theorem failure_of_not_json {r : Reporter} (h : r.format ≠ .json) {events : List Event}
    {event : Event} {sink : Sink} {e : HarnessError}
    (delivered : (sink.deliver (((r.after events).note event).chunks event)).2 = .error e) :
    e = .output Sink.full := by
  have same : ((r.after events).note event).format ≠ .json := by
    rwa [Reporter.note_format, Reporter.after_format]
  rw [Sink.deliver_of_failure sink (Reporter.failure_of_not_json same event)] at delivered
  split at delivered
  · cases delivered
  · exact (Except.error.inj delivered).symm

/-- In the format `json`, a run that cannot write fails in its document, or in the line
break behind it. -/
theorem error_of_json (host : Host σ) (settings : Settings) (options : RunOptions)
    (world : σ) (colored : Bool) (limit : Nat)
    (tight : limit < (output host settings options world .json colored).length) :
    ∃ document,
      output host settings options world .json colored
        = Utf8.encode (document ++ "\n") ∧
      (runBenchmarks host settings options
          ⟨.boot world, .new .json colored, .limited limit⟩).1
        = .error (if limit < (Utf8.encode document).length then
            .document Sink.full else .output Sink.full) := by
  have bytes := (reported_eq host settings options world .json colored).2.2
  rw [text_json_course] at bytes
  cases answered : (course host settings options (.boot world)).answer with
  | error e =>
      rw [answered] at bytes
      -- a run that answers with an error writes nothing, and nothing always fits
      rw [bytes] at tight
      cases tight
  | ok summary =>
      rw [answered] at bytes
      rw [bytes] at tight
      refine ⟨_, bytes, ?_⟩
      obtain ⟨-, -, stop⟩ := runBenchmarks_json_of_ok answered colored [] (.limited limit)
      rw [List.nil_append, Sink.fits_limited, decide_eq_false_iff_not, Nat.not_le,
        Sink.fits_limited] at stop
      refine (stop tight).1.trans (congrArg Except.error ?_)
      by_cases within : (Utf8.encode (Document.ofSuites
          (course host settings options (.boot world)).reports).pretty).length ≤ limit
      · rw [if_pos (decide_eq_true within), if_neg (Nat.not_lt.mpr within)]
      · rw [if_neg (by simpa using within), if_pos (Nat.lt_of_not_le within)]

/-- **A sink with a limit cuts a run off and does nothing else to it.**  For any
programs, settings, options and world there are deeds that are the run: whatever the
reporter and the sink, it does them in order, up to the first event that cannot be
written, and answers if there is none.  They are the starts of the processes and the
events of the run on a sink that accepts everything, in any format, whose output is
`whole`.

On a sink with a limit the run leaves the first bytes of `whole`.  If that is all of
them, it answers the same and does the same to the machine.  Otherwise it ends with an
error at the event in which the limit falls, and it has started exactly the processes in
front of that event.  The error is about the output, except that in the format `json` it
is about the document unless only the line break behind the document did not fit. -/
theorem limited_runBenchmarks (host : Host σ) (settings : Settings)
    (options : RunOptions) (world : σ) :
    ∃ deeds answer,
      (∀ r sink, runBenchmarks host settings options ⟨.boot world, r, sink⟩
        = (doing host deeds >>= fun _ => answering answer).run ⟨.boot world, r, sink⟩) ∧
      ∀ format colored,
        let free := reported host settings options world format colored
        let whole := output host settings options world format colored
        let text := fun deeds =>
          Utf8.encode ((Reporter.new format colored).text (told deeds))
        free.1 = answer ∧ free.2.machine.starts.toList = started deeds ∧
          whole = text deeds ∧
          ∀ limit,
            let run := runBenchmarks host settings options
              ⟨.boot world, .new format colored, .limited limit⟩
            run.2.sink.written.toList = whole.take limit ∧
              if whole.length ≤ limit then
                run.1 = answer ∧ run.2.machine = free.2.machine
              else
                (∃ before event rest, deeds = before ++ .tell event :: rest ∧
                  (text before).length ≤ limit ∧
                  limit < (text (before ++ [.tell event])).length ∧
                  run.2.machine = (Machine.boot world).through host (started before)) ∧
                run.2.machine.starts.toList <+: free.2.machine.starts.toList ∧
                match format with
                | .json => ∃ document, whole = Utf8.encode (document ++ "\n") ∧
                    run.1 = .error (if limit < (Utf8.encode document).length then
                      .document Sink.full else .output Sink.full)
                | _ => run.1 = .error (.output Sink.full) := by
  obtain ⟨deeds, events, machine, does⟩ :=
    benchmarks_does host settings options (.boot world)
  refine ⟨deeds, _, does, fun format colored => ?_⟩
  obtain ⟨same, last, bytes⟩ := reported_eq host settings options world format colored
  have starts : (reported host settings options world format colored).2.machine.starts.toList
      = started deeds := by
    rw [last, ← machine, Machine.through_boot_starts]
  rw [← events] at bytes
  refine ⟨same, starts, bytes, fun limit => ?_⟩
  dsimp only
  have ran : runBenchmarks host settings options
      ⟨.boot world, .new format colored, .limited limit⟩ = _ :=
    (does (.new format colored) (.limited limit)).trans (run_bind ..)
  cases room : (Sink.limited limit).fits
      (Utf8.encode ((Reporter.new format colored).text (told deeds))) with
  | true =>
      rw [doing_of_fits host room] at ran
      rw [Sink.fits_limited, ← bytes, decide_eq_true_eq] at room
      rw [ran, if_pos room, bytes]
      exact ⟨Sink.written_fill (some limit) _, rfl, machine.trans last.symm⟩
  | false =>
      obtain ⟨before, event, rest, parts, fit, tight, e, delivered, done⟩ :=
        doing_of_not_fits host room
      rw [done] at ran
      -- from here on the limit is compared with lengths
      rw [Sink.fits_limited, decide_eq_true_eq] at fit
      rw [Sink.fits_limited, ← bytes, decide_eq_false_iff_not] at room
      rw [Sink.fits_limited, decide_eq_false_iff_not, Nat.not_le] at tight
      rw [if_neg room, bytes]
      refine ⟨?_, ⟨before, event, rest, parts, fit, ?_, ?_⟩, ?_, ?_⟩
      · rw [ran]
        exact Sink.written_fill (some limit) _
      · rw [told_append]
        exact tight
      · rw [ran]
      · rw [ran, starts, parts, started_append, Machine.through_boot_starts]
        exact List.prefix_append ..
      · cases format with
        | json =>
            rw [← bytes]
            exact error_of_json host settings options world colored limit (Nat.lt_of_not_le room)
        | human =>
            rw [ran, failure_of_not_json Format.noConfusion delivered]
        | csv =>
            rw [ran, failure_of_not_json Format.noConfusion delivered]

end Run

end CrossBench
