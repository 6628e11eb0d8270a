import CrossBench.Proofs.Report.Reading
import CrossBench.Proofs.Report.Telling

/-!
# Suites that wait for their document

A reporter may be told events in any order, and it may be told more of them when the
sink has failed.  In the format `json` this matters, because a suite that is finished
is not written but kept.  A `Session` is a reporter and a sink in use together with a
log of what came of every event, and from the log alone it can be said

* `Session.waiting` — which suites were finished since a document was last completed;
* `Session.completed` — which suites stand in each document that was completed;
* `Session.delivered` — the same for every document whose text reached the sink whole,
  with the line break behind it or without.

`Session.Sound` is the invariant of a session in this format: what the reporter keeps
are the suites that wait, nothing that was finished is in neither of the first two
places, and nothing is delivered twice.  The last part rests on the sink: a document
that was delivered and not completed has filled it, so that no other can follow.

Whatever the format, a limit cuts off the end of the output and does nothing else to
it (`Session.sink_through`).
-/

namespace CrossBench

open Reporter (ends finished? finished?_of_ends)

/-! ## Sessions

The log has an entry for each event, with the bytes that reached the sink.  What was
completed and what was delivered is read off it, and not off the reporter, whose state is
what is to be explained.
-/

/-- What came of an event: the bytes that the sink took, and the answer. -/
structure Entry where
  event : Event
  taken : List UInt8
  answer : Except HarnessError Unit

/-- An event that ended a document, and the document was written to its end. -/
def Entry.completes (entry : Entry) : Bool := ends entry.event && entry.answer.isOk

@[simp] theorem Entry.completes_ok (event : Event) (taken : List UInt8) :
    (⟨event, taken, .ok ()⟩ : Entry).completes = ends event :=
  Bool.and_true _

@[simp] theorem Entry.completes_error (event : Event) (taken : List UInt8)
    (e : HarnessError) : (⟨event, taken, .error e⟩ : Entry).completes = false :=
  Bool.and_false _

/-- A reporter and a sink in use. -/
structure Session where
  reporter : Reporter
  sink : Sink
  /-- What came of every event so far, the last one first. -/
  log : List Entry

namespace Session

/-- A session that begins. -/
def start (r : Reporter) (sink : Sink) : Session := ⟨r, sink, []⟩

/-- The session after one more event. -/
def tell (s : Session) (event : Event) : Session :=
  let (reporter, sink, answer) := s.reporter.handle event s.sink
  ⟨reporter, sink,
    ⟨event, sink.written.toList.drop s.sink.written.size, answer⟩ :: s.log⟩

/-- An event changes a session as the reporter handles it, and what has been written is logged. -/
theorem tell_eq {s : Session} {event : Event} {r : Reporter} {sink : Sink}
    {answer : Except HarnessError Unit}
    (handled : s.reporter.handle event s.sink = (r, sink, answer)) :
    s.tell event = ⟨r, sink,
      ⟨event, sink.written.toList.drop s.sink.written.size, answer⟩ :: s.log⟩ := by
  rw [tell, handled]

/-- The session after events, whatever came of them. -/
def through (s : Session) (events : List Event) : Session := events.foldl tell s

theorem through_append (s : Session) (first second : List Event) :
    s.through (first ++ second) = (s.through first).through second :=
  List.foldl_append

/-- The suites that were finished since a document was last completed, in order. -/
def waiting : List Entry → List SuiteReport
  | [] => []
  | entry :: earlier =>
      if entry.completes then [] else waiting earlier ++ (finished? entry.event).toList

/-- The suites of every document that was completed, in order. -/
def completed : List Entry → List (List SuiteReport)
  | [] => []
  | entry :: earlier =>
      if entry.completes then completed earlier ++ [waiting earlier] else completed earlier

/-- The text of the document of suites. -/
def document (suites : List SuiteReport) : List UInt8 :=
  Utf8.encode (Document.ofSuites suites).pretty

/-- The suites of every document whose text reached the sink whole, in order. -/
def delivered : List Entry → List (List SuiteReport)
  | [] => []
  | entry :: earlier =>
      if ends entry.event ∧ document (waiting earlier) <+: entry.taken then
        delivered earlier ++ [waiting earlier]
      else delivered earlier

/-- A reader finds the suites in their document, with the line break behind it. -/
theorem shows_document (suites : List SuiteReport) :
    Document.Shows (document suites ++ Utf8.encode "\n") suites := by
  rw [document, ← Utf8.encode_append]
  exact Document.shows_ofSuites suites

/-- A document has an opening brace at least. -/
theorem document_ne_nil (suites : List SuiteReport) : document suites ≠ [] := by
  have opened : ∃ rest, (Document.ofSuites suites).pretty.toList = '{' :: rest := by
    rw [Document.ofSuites, Json.Value.pretty, String.toList_ofList, Json.Value.render]
    exact ⟨_, rfl⟩
  obtain ⟨rest, opened⟩ := opened
  rw [document, Utf8.encode, opened]
  exact List.cons_ne_nil _ _

/-! ## The invariant

One case for each thing that an event can do: wait, complete a document, or fail to.  The
last case is the one that needs the sink, because a document that failed may still have been
delivered.
-/

/-- **A sound session** in the format `json`, with the suites that were finished in
it. -/
structure Sound (s : Session) (colored : Bool) (given : List SuiteReport) : Prop where
  reporter : s.reporter = ⟨.json, colored, waiting s.log⟩
  kept : (completed s.log).flatten ++ waiting s.log = given
  delivered : delivered s.log = completed s.log ∨
    (s.sink.room = some 0 ∧ ∃ last, Session.delivered s.log = completed s.log ++ [last] ∧
      (completed s.log).flatten ++ last <+: given)

theorem sound_start (colored : Bool) (sink : Sink) :
    (start (.new .json colored) sink).Sound colored [] :=
  ⟨rfl, rfl, .inl rfl⟩

/-- An event that does not end the run adds to what waits, and to nothing else. -/
theorem Sound.tell_of_quiet {s : Session} {colored : Bool} {given : List SuiteReport}
    (sound : s.Sound colored given) {event : Event} (quiet : ends event = false) :
    (s.tell event).Sound colored (given ++ (finished? event).toList) := by
  have handled := Reporter.handle_json_of_quiet colored (waiting s.log) quiet s.sink
  rw [← sound.reporter] at handled
  rw [tell_eq handled]
  constructor
  · simp [waiting, quiet]
  · simp [waiting, completed, quiet, ← sound.kept]
  · simp only [Session.delivered, completed, Entry.completes_ok, quiet, Bool.false_eq_true,
      if_false, false_and]
    rcases sound.delivered with same | ⟨full, suites, more, once⟩
    · exact .inl same
    · exact .inr ⟨full, suites, more, once.trans (List.prefix_append ..)⟩

/-- A document that is written to its end empties the reporter. -/
theorem Sound.tell_of_fits {s : Session} {colored : Bool} {given : List SuiteReport}
    (sound : s.Sound colored given) {event : Event} (last : ends event = true)
    (room : s.sink.fits (document (waiting s.log) ++ Utf8.encode "\n") = true) :
    (s.tell event).Sound colored given := by
  have handled := Reporter.handle_json_of_ends colored (waiting s.log) last s.sink
  dsimp only at handled
  rw [← sound.reporter, Utf8.encode_append, ← document, if_pos room] at handled
  -- the sink was not full, so no document has been delivered without being completed
  have same : Session.delivered s.log = completed s.log := by
    rcases sound.delivered with same | ⟨full, -, -⟩
    · exact same
    · have some_bytes : document (waiting s.log) ++ Utf8.encode "\n" ≠ [] :=
        List.append_ne_nil_of_left_ne_nil (document_ne_nil _) _
      rw [Sink.fits_of_full full some_bytes] at room
      cases room
  rw [tell_eq handled, Sink.written_of_fits room, List.drop_left' (Array.length_toList ..)]
  constructor
  · simp [waiting, last]
  · simp [waiting, completed, last, ← sound.kept]
  · exact .inl (by simp [Session.delivered, completed, last, same])

/-- A document that cannot be written to its end leaves everything waiting, and the sink
full. -/
theorem Sound.tell_of_not_fits {s : Session} {colored : Bool} {given : List SuiteReport}
    (sound : s.Sound colored given) {event : Event} (last : ends event = true)
    (tight : s.sink.fits (document (waiting s.log) ++ Utf8.encode "\n") = false) :
    (s.tell event).Sound colored given := by
  have handled := Reporter.handle_json_of_ends colored (waiting s.log) last s.sink
  dsimp only at handled
  rw [← sound.reporter, Utf8.encode_append, ← document,
    if_neg (by simp [tight])] at handled
  rw [tell_eq handled]
  constructor
  · simp [waiting, sound.reporter, finished?_of_ends last]
  · simp [waiting, completed, finished?_of_ends last, sound.kept]
  · simp only [Session.delivered, completed, Entry.completes_error, last, true_and,
      Bool.false_eq_true, if_false]
    rcases sound.delivered with same | ⟨full, suites, more, once⟩
    · -- the whole text may have been written, but for the line break behind it
      rw [same]
      split
      · exact .inr ⟨Sink.room_of_not_fits tight, _, rfl, sound.kept ▸ List.prefix_rfl⟩
      · exact .inl rfl
    · -- the sink was full before: nothing of this text has reached it
      have nothing : (s.sink.fill (document (waiting s.log)
          ++ Utf8.encode "\n")).written.toList.drop s.sink.written.size = [] := by
        rw [Sink.fill_of_full full]
        exact List.drop_of_length_le (Nat.le_of_eq (Array.length_toList ..))
      rw [nothing, if_neg fun whole => document_ne_nil _ (List.prefix_nil.mp whole)]
      exact .inr ⟨Sink.room_of_not_fits tight, suites, more, once⟩

/-- One event keeps a session sound. -/
theorem Sound.tell {s : Session} {colored : Bool} {given : List SuiteReport}
    (sound : s.Sound colored given) (event : Event) :
    (s.tell event).Sound colored (given ++ (finished? event).toList) := by
  cases last : ends event with
  | false => exact sound.tell_of_quiet last
  | true =>
      rw [finished?_of_ends last, Option.toList_none, List.append_nil]
      cases room : s.sink.fits (document (waiting s.log) ++ Utf8.encode "\n") with
      | true => exact sound.tell_of_fits last room
      | false => exact sound.tell_of_not_fits last room

/-- Every session in the format `json` is sound. -/
theorem Sound.through {s : Session} {colored : Bool} {given : List SuiteReport}
    (sound : s.Sound colored given) (events : List Event) :
    (s.through events).Sound colored (given ++ events.filterMap finished?) := by
  induction events generalizing s given with
  | nil => simpa [Session.through] using sound
  | cons event rest ih =>
      have collected : given ++ (event :: rest).filterMap finished?
          = given ++ (finished? event).toList ++ rest.filterMap finished? := by
        cases found : finished? event <;> simp [found]
      rw [collected]
      exact ih (sound.tell event)

/-! ## Sessions with and without a limit

Two sessions side by side.  They have the same reporter until the limited sink is full, and
from then on nothing is added to it.
-/

/-- A session is cut out of one on a boundless sink: its own sink `base` has kept what
there was room for of the other's output, and as long as that was all of it the
reporters are the same. -/
structure Cut (base : Sink) (s free : Session) : Prop where
  boundless : free.sink.room = none
  sink : s.sink = base.fill free.sink.written.toList
  reporter : base.fits free.sink.written.toList = true → s.reporter = free.reporter

theorem tell_reporter {s : Session} {event : Event}
    (room : s.sink.fits (Utf8.encode (s.reporter.text [event])) = true) :
    (s.tell event).reporter = s.reporter.next event := by
  rw [tell_eq (Reporter.handle_of_fits room)]

theorem tell_sink (s : Session) (event : Event) :
    (s.tell event).sink = s.sink.fill (Utf8.encode (s.reporter.text [event])) :=
  s.reporter.handle_sink event s.sink

theorem Cut.tell {base : Sink} {s free : Session} (cut : Cut base s free)
    (event : Event) : Cut base (s.tell event) (free.tell event) := by
  have room : free.sink.fits (Utf8.encode (free.reporter.text [event])) = true := by
    rw [Sink.fits, cut.boundless]
    rfl
  have longer : (free.tell event).sink.written.toList
      = free.sink.written.toList ++ Utf8.encode (free.reporter.text [event]) := by
    rw [tell_sink, Sink.written_of_fits room]
  have boundless : (free.tell event).sink.room = none := by
    rw [tell_sink, Sink.room_fill, cut.boundless]
    rfl
  constructor
  · exact boundless
  · rw [longer, Sink.fill_append, ← cut.sink, tell_sink]
    cases fit : base.fits free.sink.written.toList with
    | true => rw [cut.reporter fit]
    | false =>
        -- the sink is full, and it does not matter what the reporters have to say
        rw [cut.sink, Sink.fill_of_not_fits fit, Sink.fill_of_not_fits fit]
  · intro fit
    rw [longer, Sink.fits_append, Bool.and_eq_true, ← cut.sink] at fit
    have same := cut.reporter fit.1
    rw [tell_reporter room, ← same, tell_reporter (by rw [same]; exact fit.2)]

theorem Cut.through {base : Sink} {s free : Session} (cut : Cut base s free)
    (events : List Event) : Cut base (s.through events) (free.through events) := by
  induction events generalizing s free with
  | nil => exact cut
  | cons event rest ih => exact ih (cut.tell event)

/-- **A limit only cuts off.**  Of the output that the same events have on a boundless
sink, a limited one keeps what it has room for. -/
theorem sink_through (r : Reporter) (room : Option Nat) (events : List Event) :
    ((start r ⟨#[], room⟩).through events).sink
      = (⟨#[], room⟩ : Sink).fill
          ((start r .unlimited).through events).sink.written.toList := by
  have begun : Cut ⟨#[], room⟩ (start r ⟨#[], room⟩) (start r .unlimited) :=
    ⟨rfl, (Sink.fill_nil _).symm, fun _ => rfl⟩
  exact (begun.through events).sink

/-! ## Documents

What the invariant says about a session that was begun with a new reporter, and about one
event more.
-/

/-- The documents of a sound session: those that reached the sink whole are those that
were completed and at most one more, and no suite stands in two of them. -/
theorem Sound.documents {s : Session} {colored : Bool} {given : List SuiteReport}
    (sound : s.Sound colored given) :
    completed s.log <+: Session.delivered s.log ∧
      (Session.delivered s.log).length ≤ (completed s.log).length + 1 ∧
      (Session.delivered s.log).flatten <+: given := by
  rcases sound.delivered with same | ⟨-, suites, more, once⟩
  · rw [same]
    exact ⟨List.prefix_rfl, Nat.le_succ _, sound.kept ▸ List.prefix_append ..⟩
  · rw [more]
    refine ⟨List.prefix_append .., by simp, ?_⟩
    rwa [List.flatten_append, List.flatten_singleton]

/-- What becomes of one more event. -/
theorem Sound.call {s : Session} {colored : Bool} {given : List SuiteReport}
    (sound : s.Sound colored given) (event : Event) :
    let (reporter, sink, answer) := s.reporter.handle event s.sink
    let suites := waiting s.log
    let text := document suites ++ Utf8.encode "\n"
    if ends event then
      sink = s.sink.fill text ∧
        if s.sink.fits text then
          answer = .ok () ∧ sink.written.toList = s.sink.written.toList ++ text ∧
            reporter.pending = []
        else (∃ e, answer = .error e) ∧ reporter.pending = suites
    else
      sink = s.sink ∧ answer = .ok () ∧
        reporter.pending = suites ++ (finished? event).toList := by
  cases last : ends event with
  | false =>
      -- no document is due: the event only adds to what waits
      rw [sound.reporter, Reporter.handle_json_of_quiet colored _ last]
      exact ⟨rfl, rfl, rfl⟩
  | true =>
      have handled := Reporter.handle_json_of_ends colored (waiting s.log) last s.sink
      dsimp only at handled
      rw [Utf8.encode_append, ← document] at handled
      rw [sound.reporter, handled]
      -- the text fits and the buffer is cleared, or it does not and the suites are kept
      cases room : s.sink.fits (document (waiting s.log) ++ Utf8.encode "\n") with
      | true =>
          refine ⟨rfl, ?_⟩
          rw [if_pos room]
          exact ⟨rfl, Sink.written_of_fits room, rfl⟩
      | false =>
          refine ⟨rfl, ?_⟩
          rw [if_neg (by simp [room])]
          exact ⟨⟨_, rfl⟩, rfl⟩

/-- **Suites are kept until they are written.**  In the format `json`, on a sink with
any limit or none, let a new reporter have been told any events, and let it now be told
one more.

An event that does not end the run writes nothing and succeeds.  One that does writes one
document with a line break, and what a reader finds in it are the suites that were finished
since a document was last completed, in order.  If there is room for all of it, the event
succeeds and the reporter forgets the suites, and otherwise it fails and the reporter keeps
them.

So of all suites that were finished, in order, the first ones stand in the documents that
were completed, and the reporter still keeps the others.  The documents that reached the
sink whole are these and at most one more, and no suite stands in two of them.  And what
the sink holds is what the same events write without a limit, up to the limit. -/
theorem suites_kept_until_written (colored : Bool) (room : Option Nat)
    (events : List Event) (event : Event) :
    let s := (start (.new .json colored) ⟨#[], room⟩).through events
    let (reporter, sink, answer) := s.reporter.handle event s.sink
    let suites := waiting s.log
    let text := document suites ++ Utf8.encode "\n"
    Document.Shows text suites ∧
      (if ends event then
        sink = s.sink.fill text ∧
          if s.sink.fits text then
            answer = .ok () ∧ sink.written.toList = s.sink.written.toList ++ text ∧
              reporter.pending = []
          else (∃ e, answer = .error e) ∧ reporter.pending = suites
      else
        sink = s.sink ∧ answer = .ok () ∧
          reporter.pending = suites ++ (finished? event).toList) ∧
      (completed s.log).flatten ++ s.reporter.pending = events.filterMap finished? ∧
      completed s.log <+: delivered s.log ∧
      (delivered s.log).length ≤ (completed s.log).length + 1 ∧
      (delivered s.log).flatten <+: events.filterMap finished? ∧
      let free := (start (.new .json colored) .unlimited).through events
      s.sink.written.toList =
        match room with
        | none => free.sink.written.toList
        | some limit => free.sink.written.toList.take limit := by
  have sound := (sound_start colored ⟨#[], room⟩).through events
  -- the session began with nothing finished
  rw [List.nil_append] at sound
  obtain ⟨front, most, once⟩ := sound.documents
  refine ⟨shows_document _, sound.call event, ?_, front, most, once, ?_⟩
  · rw [sound.reporter]
    exact sound.kept
  · rw [sink_through]
    refine (Sink.written_fill room _).trans ?_
    cases room <;> rfl

end Session

end CrossBench
