import CrossBench.Proofs.Report.Filling
import CrossBench.Report.Reporter

/-!
# A report as the text of its events

A `Reporter` reads events one at a time, and its state decides what each of them
adds to the report.  The text of the events is what the sink is to hold in the
end, and it keeps as much of it as it has room for (`Sink.fill`).

* `Reporter.after` — the reporter that a sequence of events leaves.
* `Reporter.text` — the text that a sequence of events writes.
* `Reporter.handle_of_fits` and `Reporter.handle_of_not_fits` — one event, handled
  on any sink, is these two: it fails exactly if there is no room for its text.

Both `after` and `text` split along an append of events, which is how the report of
a run is put together from the reports of its parts.  The formats differ in their
state only: in the formats `human` and `csv` a reporter never changes
(`next_of_not_json`), so their text is the lines of the events; in the format `json`
a reporter collects the suites that are finished (`text_json_of_quiet`) and writes
nothing before the event that ends the run (`text_json_of_ends`).
-/

namespace CrossBench

/-- Lines, each with its line break. -/
def unlines : List String → String
  | [] => ""
  | line :: rest => line ++ "\n" ++ unlines rest

@[simp] theorem unlines_nil : unlines [] = "" := rfl

theorem unlines_append (first second : List String) :
    unlines (first ++ second) = unlines first ++ unlines second := by
  induction first with
  | nil => simp
  | cons line rest ih => simp [unlines, ih, String.append_assoc]

/-- The texts of chunks that are lines are these lines. -/
theorem Chunk.texts_lines (lines : List String) :
    Chunk.texts (lines.map .line) = unlines lines := by
  induction lines with
  | nil => rfl
  | cons line rest ih => simp [Chunk.texts, Chunk.line, unlines, ih]

namespace Reporter

/-! ## Events as steps of a reporter

The steps are told without a sink: what a reporter wants to write depends on its state and
on the event.  The sink comes in afterwards and decides how much of this is there and
whether the step settles.
-/

/-- The reporter once an event has been reported. -/
def next (r : Reporter) (event : Event) : Reporter := (r.note event).settle event

/-- The reporter once events have been reported. -/
def after (r : Reporter) (events : List Event) : Reporter := events.foldl next r

/-- The text that events add to the report. -/
def text : Reporter → List Event → String
  | _, [] => ""
  | r, event :: rest =>
      Chunk.texts ((r.note event).chunks event) ++ text (r.next event) rest

@[simp] theorem after_nil (r : Reporter) : r.after [] = r := rfl

theorem after_cons (r : Reporter) (event : Event) (rest : List Event) :
    r.after (event :: rest) = (r.next event).after rest := rfl

@[simp] theorem text_nil (r : Reporter) : r.text [] = "" := rfl

/-- The text of events is what each writes when its turn comes. -/
theorem text_cons (r : Reporter) (event : Event) (rest : List Event) :
    r.text (event :: rest)
      = Chunk.texts ((r.note event).chunks event) ++ (r.next event).text rest := rfl

theorem after_append (r : Reporter) (first second : List Event) :
    r.after (first ++ second) = (r.after first).after second :=
  List.foldl_append

theorem note_format (r : Reporter) (event : Event) : (r.note event).format = r.format := by
  cases event <;> simp only [note]
  split <;> rfl

theorem settle_format (r : Reporter) (event : Event) :
    (r.settle event).format = r.format := by
  unfold settle
  split <;> rfl

/-- A reporter keeps its format. -/
theorem after_format (r : Reporter) (events : List Event) :
    (r.after events).format = r.format := by
  induction events generalizing r with
  | nil => rfl
  | cons event rest ih => rw [after_cons, ih, next, settle_format, note_format]

theorem text_append (r : Reporter) (first second : List Event) :
    r.text (first ++ second) = r.text first ++ (r.after first).text second := by
  induction first generalizing r with
  | nil => simp
  | cons event rest ih =>
      rw [List.cons_append, text_cons, text_cons, ih, after_cons, String.append_assoc]

/-- The first event, and what the others add for the reporter that it leaves. -/
theorem text_parted (r : Reporter) (event : Event) (rest : List Event) :
    r.text (event :: rest) = r.text [event] ++ (r.next event).text rest :=
  r.text_append [event] rest

theorem text_singleton (r : Reporter) (event : Event) :
    r.text [event] = Chunk.texts ((r.note event).chunks event) := by
  rw [text_cons, text_nil, String.append_empty]

/-- **One event that there is room for.**  It is written whole and settles. -/
theorem handle_of_fits {r : Reporter} {event : Event} {sink : Sink}
    (room : sink.fits (Utf8.encode (r.text [event])) = true) :
    r.handle event sink
      = (r.next event, sink.fill (Utf8.encode (r.text [event])), .ok ()) := by
  rw [text_singleton] at room ⊢
  have kept := sink.deliver_fst ((r.note event).chunks event)
  have fine := (sink.deliver_snd ((r.note event).chunks event)).trans room
  rw [handle, ← kept]
  cases delivered : sink.deliver ((r.note event).chunks event) with
  | mk left answer =>
      rw [delivered] at fine
      cases answer with
      | ok _ => rfl
      | error e => cases fine

/-- **One event that there is no room for.**  The sink keeps the start of it, and the
reporter what it was told. -/
theorem handle_of_not_fits {r : Reporter} {event : Event} {sink : Sink}
    (tight : sink.fits (Utf8.encode (r.text [event])) = false) :
    ∃ e, (sink.deliver ((r.note event).chunks event)).2 = .error e ∧
      r.handle event sink
        = (r.note event, sink.fill (Utf8.encode (r.text [event])), .error e) := by
  rw [text_singleton] at tight ⊢
  have kept := sink.deliver_fst ((r.note event).chunks event)
  have failed := (sink.deliver_snd ((r.note event).chunks event)).trans tight
  rw [handle, ← kept]
  cases delivered : sink.deliver ((r.note event).chunks event) with
  | mk left answer =>
      rw [delivered] at failed
      cases answer with
      | ok _ => cases failed
      | error e => exact ⟨e, rfl, rfl⟩

/-- The sink that an event leaves, whether it could be written or not. -/
theorem handle_sink (r : Reporter) (event : Event) (sink : Sink) :
    (r.handle event sink).2.1 = sink.fill (Utf8.encode (r.text [event])) := by
  cases room : sink.fits (Utf8.encode (r.text [event])) with
  | true => rw [handle_of_fits room]
  | false =>
      obtain ⟨e, -, handled⟩ := handle_of_not_fits room
      rw [handled]

/-! ## The formats that write as they go

Their reporters have no state, so the text of events is a flat map.
-/

/-- The formats that write as they go note nothing. -/
theorem note_of_not_json {r : Reporter} (h : r.format ≠ .json) (event : Event) :
    r.note event = r := by
  cases event <;> simp [note, h]

theorem next_of_not_json {r : Reporter} (h : r.format ≠ .json) (event : Event) :
    r.next event = r := by
  rw [next, note_of_not_json h, settle, if_neg (fun both => h both.1)]

/-- The formats that write as they go have one way to fail. -/
theorem failure_of_not_json {r : Reporter} (h : r.format ≠ .json) (event : Event) :
    ∀ chunk ∈ r.chunks event, chunk.failure Sink.full = .output Sink.full := by
  intro chunk mem
  unfold chunks at mem
  split at mem
  · obtain ⟨line, -, rfl⟩ := List.mem_map.mp mem
    rfl
  · obtain ⟨line, -, rfl⟩ := List.mem_map.mp mem
    rfl
  · next json => exact absurd json h

/-- The report for people is the lines of the events. -/
theorem text_human (colored : Bool) (pending : List SuiteReport)
    (events : List Event) :
    (⟨.human, colored, pending⟩ : Reporter).text events
      = unlines (events.flatMap (Human.lines colored)) := by
  induction events with
  | nil => rfl
  | cons event rest ih =>
      have human : (⟨.human, colored, pending⟩ : Reporter).format ≠ .json :=
        Format.noConfusion
      rw [text_cons, next_of_not_json human, note_of_not_json human, ih, chunks,
        Chunk.texts_lines, List.flatMap_cons, unlines_append]

/-- The report as rows is the rows of the events. -/
theorem text_csv (colored : Bool) (pending : List SuiteReport)
    (events : List Event) :
    (⟨.csv, colored, pending⟩ : Reporter).text events
      = unlines (events.flatMap Csv.lines) := by
  induction events with
  | nil => rfl
  | cons event rest ih =>
      have csv : (⟨.csv, colored, pending⟩ : Reporter).format ≠ .json :=
        Format.noConfusion
      rw [text_cons, next_of_not_json csv, note_of_not_json csv, ih, chunks,
        Chunk.texts_lines, List.flatMap_cons, unlines_append]

/-! ## The format that writes at the end

Its text is empty up to the last event, and the document of all that waits then.
-/

/-- The suite that an event finishes, if it finishes one. -/
def finished? : Event → Option SuiteReport
  | .suiteFinished suite => some suite
  | _ => none

/-- The format that writes at the end notes the suites that have been finished. -/
theorem note_json (colored : Bool) (pending : List SuiteReport) (event : Event) :
    (⟨.json, colored, pending⟩ : Reporter).note event
      = ⟨.json, colored, pending ++ (finished? event).toList⟩ := by
  cases event <;> simp [note, finished?]

/-- Before the run ends nothing is written and every finished suite waits. -/
theorem text_json_of_quiet (colored : Bool) (pending : List SuiteReport)
    {events : List Event} (quiet : ∀ event ∈ events, ends event = false) :
    (⟨.json, colored, pending⟩ : Reporter).text events = "" ∧
      (⟨.json, colored, pending⟩ : Reporter).after events
        = ⟨.json, colored, pending ++ events.filterMap finished?⟩ := by
  -- the suites that wait are general: each event that finishes one adds to them
  induction events generalizing pending with
  | nil => simp
  | cons event rest ih =>
      have here : ends event = false := quiet event List.mem_cons_self
      have there := ih (pending ++ (finished? event).toList)
        fun e mem => quiet e (List.mem_cons_of_mem _ mem)
      have step : (⟨.json, colored, pending⟩ : Reporter).next event
          = ⟨.json, colored, pending ++ (finished? event).toList⟩ := by
        rw [next, note_json, settle, if_neg (by simp [here])]
      have collected : (finished? event).toList ++ rest.filterMap finished?
          = (event :: rest).filterMap finished? := by
        cases found : finished? event <;> simp [found]
      constructor
      · rw [text_cons, step, there.1, note_json]
        simp [chunks, here, Chunk.texts]
      · rw [after_cons, step, there.2, List.append_assoc, collected]

/-- The event that ends a run writes the document of all finished suites. -/
theorem text_json_of_ends (colored : Bool) (pending : List SuiteReport)
    {event : Event} (last : ends event = true) :
    (⟨.json, colored, pending⟩ : Reporter).text [event]
      = (Document.ofSuites pending).pretty ++ "\n" := by
  cases event <;> simp_all [ends, text, note, chunks, Chunk.texts, Chunk.document, Chunk.line]

/-- An event that ends the run finishes no suite. -/
theorem finished?_of_ends {event : Event} (last : ends event = true) :
    finished? event = none := by
  cases event <;> first | rfl | cases last

theorem note_json_of_ends (colored : Bool) (pending : List SuiteReport) {event : Event}
    (last : ends event = true) :
    (⟨.json, colored, pending⟩ : Reporter).note event = ⟨.json, colored, pending⟩ := by
  rw [note_json, finished?_of_ends last, Option.toList_none, List.append_nil]

/-- The document empties the reporter. -/
theorem next_json_of_ends (colored : Bool) (pending : List SuiteReport) {event : Event}
    (last : ends event = true) :
    (⟨.json, colored, pending⟩ : Reporter).next event = ⟨.json, colored, []⟩ := by
  rw [next, note_json_of_ends colored pending last, settle, if_pos ⟨rfl, last⟩]

/-- At the end the document is written, and a line break behind it. -/
theorem chunks_json_of_ends (colored : Bool) (pending : List SuiteReport) {event : Event}
    (last : ends event = true) :
    (⟨.json, colored, pending⟩ : Reporter).chunks event
      = [.document (Document.ofSuites pending).pretty, .line ""] :=
  if_pos last

/-- A document has two ways to fail: in itself, and in the line break behind it. -/
theorem deliver_document (sink : Sink) (document : String) :
    (sink.deliver [.document document, .line ""]).2 =
      if sink.fits (Utf8.encode (document ++ "\n")) then .ok ()
      else .error (if sink.fits (Utf8.encode document) then .output Sink.full
        else .document Sink.full) := by
  rw [Utf8.encode_append, Sink.fits_append, Sink.deliver_cons]
  cases fit : sink.fits (Utf8.encode document) with
  | false => simp [Chunk.document, fit]
  | true =>
      have behind : Chunk.texts [.line ""] = "\n" := rfl
      have alike : ∀ chunk ∈ [Chunk.line ""], chunk.failure Sink.full = .output Sink.full :=
        List.forall_mem_singleton.mpr rfl
      simp [Chunk.document, fit, Sink.deliver_of_failure _ alike, behind]

/-- **An event that does not end the run** writes nothing and cannot fail. -/
theorem handle_json_of_quiet (colored : Bool) (pending : List SuiteReport) {event : Event}
    (quiet : ends event = false) (sink : Sink) :
    (⟨.json, colored, pending⟩ : Reporter).handle event sink
      = (⟨.json, colored, pending ++ (finished? event).toList⟩, sink, .ok ()) := by
  obtain ⟨silent, waiting⟩ := text_json_of_quiet colored pending
    (List.forall_mem_singleton.mpr quiet)
  have room : sink.fits (Utf8.encode ((⟨.json, colored, pending⟩ : Reporter).text [event]))
      = true := by
    rw [silent, Utf8.encode_empty, Sink.fits_nil]
  rw [handle_of_fits room, silent, Utf8.encode_empty, Sink.fill_nil]
  have one : [event].filterMap finished? = (finished? event).toList := by
    cases found : finished? event <;> simp [found]
  rw [one] at waiting
  exact Prod.ext waiting rfl

/-- **The event that ends the run** writes one document, of the suites that wait.  Once
it is written they are forgotten; if it cannot be written they still wait. -/
theorem handle_json_of_ends (colored : Bool) (pending : List SuiteReport) {event : Event}
    (last : ends event = true) (sink : Sink) :
    let document := (Document.ofSuites pending).pretty
    let left := sink.fill (Utf8.encode (document ++ "\n"))
    (⟨.json, colored, pending⟩ : Reporter).handle event sink =
      if sink.fits (Utf8.encode (document ++ "\n")) then
        (⟨.json, colored, []⟩, left, .ok ())
      else (⟨.json, colored, pending⟩, left,
        .error (if sink.fits (Utf8.encode document) then .output Sink.full
          else .document Sink.full)) := by
  intro document left
  have text := text_json_of_ends colored pending last
  cases room : sink.fits (Utf8.encode (document ++ "\n")) with
  | true =>
      rw [← text] at room
      rw [handle_of_fits room, next_json_of_ends colored pending last, text]
      rfl
  | false =>
      rw [← text] at room
      -- which of the two texts broke off says which error is answered
      obtain ⟨e, delivered, handled⟩ := handle_of_not_fits room
      rw [text] at room
      rw [note_json_of_ends colored pending last, chunks_json_of_ends colored pending last,
        deliver_document, room] at delivered
      rw [handled, note_json_of_ends colored pending last, ← delivered, text]
      rfl

end Reporter

end CrossBench
