import CrossBench.Proofs.Report.Session
import CrossBench.Proofs.Report.Unescaped
import CrossBench.Proofs.Text.Utf8

/-!
# Colours are decoration

A coloured report differs from an uncoloured one by the codes that switch styles on and
off.  `Erasure.erase` takes such codes out of bytes, whatever else they are: it removes every
escape character that is followed by a bracket, digits and the letter `m`, together with
these, and keeps every other byte.

Erasing does not respect appending, because a code can stand across the place where two
texts meet.  So what is proved of the parts of a line is `Strips`: the first text, in front
of anything, is erased to the second one and what the rest is erased to.  This respects
appending (`Strips.append`), a text without the escape character has it with itself
(`Strips.of_unescaped`), and so has a text in a style with the same text in none
(`Strips.styled`).

* `Human.strips_lines` — the lines for an event.
* `Reporter.strips_text` — the report of any sequence of events.
* `Session.colours_are_decoration` — the same for the bytes that are written.
-/

namespace CrossBench

/-! ## Erasing codes

The eraser is a function on bytes that knows nothing of reports.  It ends because each code
that it drops has bytes.
-/

namespace Erasure

/-- The escape character. -/
def escape : UInt8 := 0x1b

/-- The byte of a digit. -/
def digit (b : UInt8) : Bool := 0x30 ≤ b && b ≤ 0x39

/-- What is behind digits and the letter `m`. -/
def behindDigits? : List UInt8 → Option (List UInt8)
  | [] => none
  | b :: rest =>
      if digit b then behindDigits? rest else if b = 0x6d then some rest else none

/-- What is behind a code: the escape character, a bracket, at least one digit, and the
letter `m`. -/
def behindCode? : List UInt8 → Option (List UInt8)
  | a :: b :: c :: rest =>
      if a = escape ∧ b = 0x5b ∧ digit c then behindDigits? rest else none
  | _ => none

example : behindCode? [0x1b, 0x5b, 0x33, 0x31, 0x6d, 0x61] = some [0x61] := by decide
example : behindCode? [0x1b, 0x5b, 0x6d] = none ∧ behindCode? [0x1b, 0x5b, 0x33] = none := by decide

/-- What is behind the digits of a code is shorter, so that erasing ends. -/
theorem length_of_behindDigits? {bytes behind : List UInt8}
    (found : behindDigits? bytes = some behind) : behind.length < bytes.length := by
  induction bytes with
  | nil => cases found
  | cons b rest ih =>
      rw [behindDigits?] at found
      rw [List.length_cons]
      split at found
      · exact Nat.lt_succ_of_lt (ih found)
      · split at found
        · cases found
          exact Nat.lt_succ_self _
        · cases found

/-- What is behind a code is shorter. -/
theorem length_of_behindCode? {bytes behind : List UInt8}
    (found : behindCode? bytes = some behind) : behind.length < bytes.length := by
  unfold behindCode? at found
  split at found
  · split at found
    · have shorter := length_of_behindDigits? found
      simp only [List.length_cons]
      omega
    · cases found
  · cases found

/-- The bytes without the codes in them. -/
def erase (bytes : List UInt8) : List UInt8 :=
  match _found : behindCode? bytes with
  | some behind => erase behind
  | none =>
      match bytes with
      | [] => []
      | b :: rest => b :: erase rest
termination_by bytes.length
decreasing_by
  · exact length_of_behindCode? _found
  · simp

@[simp] theorem erase_nil : erase [] = [] := by
  rw [erase]
  rfl

theorem erase_code {bytes behind : List UInt8} (found : behindCode? bytes = some behind) :
    erase bytes = erase behind := by
  rw [erase]
  split
  next other => rw [Option.some.inj (found.symm.trans other)]
  next other => cases found.symm.trans other

/-- A code begins with an escape character. -/
theorem behindCode?_of_ne {b : UInt8} (other : b ≠ escape) (rest : List UInt8) :
    behindCode? (b :: rest) = none := by
  unfold behindCode?
  split
  next parts =>
    cases parts
    exact if_neg fun code => other code.1
  next => rfl

theorem erase_cons_of_ne {b : UInt8} (other : b ≠ escape) (rest : List UInt8) :
    erase (b :: rest) = b :: erase rest := by
  rw [erase]
  split
  next found => cases (behindCode?_of_ne other rest).symm.trans found
  next => rfl

/-- Bytes without the escape character are kept. -/
theorem erase_append {bytes : List UInt8} (without : escape ∉ bytes) (rest : List UInt8) :
    erase (bytes ++ rest) = bytes ++ erase rest := by
  induction bytes with
  | nil => rfl
  | cons b bytes ih =>
      rw [List.mem_cons, not_or] at without
      rw [List.cons_append, erase_cons_of_ne (Ne.symm without.1), ih without.2,
        List.cons_append]

/-- A code is erased, whatever follows it. -/
theorem erase_escapeSequence {code : String}
    (printed : code = "0" ∨ ∃ style : Style, code = style.code) (rest : List UInt8) :
    erase (Utf8.encode (escapeSequence code) ++ rest) = erase rest := by
  apply erase_code
  rcases printed with rfl | ⟨style, rfl⟩
  · rfl
  · cases style <;> rfl

end Erasure

/-! ## Texts with colours and without

One lemma for each part that a line is made of; the line itself is put together by
`Strips.append`.
-/

open Erasure (erase)

/-- The bytes of the first text, in front of any others, are erased to those of the second
one. -/
def Strips (s t : String) : Prop :=
  ∀ rest, erase (Utf8.encode s ++ rest) = Utf8.encode t ++ erase rest

namespace Strips

variable {s s' t t' : String}

/-- What holds of two texts holds of both in a row: no code lies across the place where they meet.
-/
theorem append (hs : Strips s s') (ht : Strips t t') : Strips (s ++ t) (s' ++ t') := by
  intro rest
  rw [Utf8.encode_append, Utf8.encode_append, List.append_assoc, hs, ht, List.append_assoc]

/-- A text without an escape character has nothing that could be erased. -/
theorem of_unescaped (h : Unescaped s) : Strips s s := by
  intro rest
  refine Erasure.erase_append (fun mem => h ?_) rest
  exact (Utf8.mem_encode_iff (d := '\x1b') (by decide)).mp mem

theorem of_chars {chars : List Char} (others : '\x1b' ∉ chars) :
    Strips (String.ofList chars) (String.ofList chars) :=
  of_unescaped (.of_chars others)

/-- A text in a style is erased to the text. -/
theorem styled (style : Style) (h : Unescaped s) :
    Strips (style.paint true s) (style.paint false s) := by
  intro rest
  simp only [Style.paint, if_true, Bool.false_eq_true, if_false, Utf8.encode_append,
    List.append_assoc]
  rw [Erasure.erase_escapeSequence (.inr ⟨style, rfl⟩), of_unescaped h,
    Erasure.erase_escapeSequence (.inl rfl)]

/-- Lines can be stripped one by one. -/
theorem unlines {lines lines' : List String} (each : List.Forall₂ Strips lines lines') :
    Strips (unlines lines) (unlines lines') := by
  induction each with
  | nil => exact of_chars (by decide)
  | cons line _ ih =>
      exact (line.append (of_chars (by decide))).append ih

/-- Bytes of their own are erased to bytes of their own. -/
theorem erase_eq (h : Strips s t) : erase (Utf8.encode s) = Utf8.encode t := by
  simpa using h []

end Strips

namespace Human

open Unescaped (of_chars)

theorem strips_outcomeLines {gate : Gate} {outcome : BuildOutcome}
    (each : ∀ text ∈ gate.texts ++ outcome.texts, Unescaped text) :
    List.Forall₂ Strips (outcomeLines true gate outcome) (outcomeLines false gate outcome) := by
  obtain ⟨native, built⟩ := List.forall_mem_append.mp each
  obtain ⟨tag, words⟩ := List.forall_mem_cons.mp native
  cases outcome with
  | upToDate => exact .nil
  | rebuilt reason => exact .nil
  | skipped reason =>
      -- what a skipped build means is told with the tag or in fixed words
      have consequence : Unescaped (skipConsequence gate reason) := by
        unfold skipConsequence
        split
        · exact ((of_chars (by decide)).append tag).append (of_chars (by decide))
        · exact of_chars (by decide)
      refine .cons (.styled _ ?_) .nil
      exact ((((tag.append (of_chars (by decide))).append (.staleness reason)).append
        (of_chars (by decide))).append consequence).append (of_chars (by decide))
  | failed reason error =>
      refine .cons (.styled _ ?_) (.cons (.styled _ (.detail built)) .nil)
      exact (((Unescaped.commandLine words).append (of_chars (by decide))).append tag).append
        (of_chars (by decide))

theorem strips_suiteHeader {name : String} (named : Unescaped name) (plan : Plan) :
    Strips (suiteHeader true name plan) (suiteHeader false name plan) := by
  have title : Unescaped ("▶ " ++ name) := (of_chars (by decide)).append named
  have counts : Unescaped
      ("(" ++ toString plan.iterations ++ " iters, " ++ toString plan.warmup ++ " warmup)") :=
    ((((of_chars (by decide)).append (.repr _)).append (of_chars (by decide))).append
      (.repr _)).append (of_chars (by decide))
  exact ((Strips.styled _ title).append (.of_chars (by decide))).append
    (.styled _ counts)

theorem strips_milliseconds (style : Style) (x : Float) :
    Strips (style.paint true (milliseconds x)) (style.paint false (milliseconds x)) :=
  .styled _ ((Unescaped.fixed 2 x).append (of_chars (by decide)))

theorem strips_failedMark (s : Summary) (failed : Option Nat) :
    Strips (failedMark true s failed) (failedMark false s failed) := by
  unfold failedMark
  split
  · exact .of_chars (by decide)
  · exact .of_chars (by decide)
  · next failed _ =>
      refine (Strips.of_chars (by decide)).append (.styled _ ?_)
      exact ((Unescaped.append (of_chars (by decide)) (.repr failed)).append
        (of_chars (by decide))).append (.repr _)

theorem strips_resultLine {result : FileResult} (tag : Unescaped result.tag.text) :
    Strips (resultLine true result) (resultLine false result) := by
  have blank : Strips "  " "  " := .of_chars (by decide)
  have label : Strips (tagLabel true result.tag) (tagLabel false result.tag) :=
    .styled _ ((of_chars (by decide)).append (tag.left 5))
  unfold resultLine
  refine (blank.append label).append ?_
  split
  · exact blank.append (.styled _ (of_chars (by decide)))
  · next s _ =>
      refine .append ?_ (strips_failedMark s _)
      refine .append (.append ?_ (.of_chars (by decide))) (strips_milliseconds .dim s.stdev)
      refine .append (.append ?_ (.of_chars (by decide))) (strips_milliseconds .yellow s.max)
      refine .append (.append ?_ (.of_chars (by decide))) (strips_milliseconds .cyan s.mean)
      refine .append (.append ?_ (.of_chars (by decide))) (strips_milliseconds .cyan s.median)
      exact .append (.of_chars (by decide)) (strips_milliseconds .green s.min)

/-- **The lines for an event** with colours are those without colours, once the codes are
erased. -/
theorem strips_lines {event : Event} (clear : event.Unescaped) :
    List.Forall₂ Strips (lines true event) (lines false event) := by
  have lineBreak : Strips "" "" := .of_chars (by decide)
  -- event by event: each line is a text of the format around the given ones
  cases event with
  | buildStarted gate reason =>
      obtain ⟨tag, words⟩ := List.forall_mem_cons.mp clear
      refine .cons (.styled _ ?_) .nil
      exact ((((tag.append (of_chars (by decide))).append (.staleness reason)).append
        (of_chars (by decide))).append (.commandLine words)).append (of_chars (by decide))
  | buildFinished gate outcome => exact strips_outcomeLines clear
  | noSuites root =>
      have path : Unescaped root.toText := clear _ (List.mem_singleton_self _)
      exact .cons (.styled _ ((of_chars (by decide)).append path)) .nil
  | suiteStarted name plan =>
      have named : Unescaped name := clear _ (List.mem_singleton_self _)
      exact .cons lineBreak (.cons (strips_suiteHeader named plan) .nil)
  | fileMeasured suite plan result =>
      have tag : Unescaped result.tag.text := clear _ (by simp [Event.texts, FileResult.texts])
      exact .cons (strips_resultLine tag) .nil
  | suiteFinished report =>
      -- a notice stands only under a suite with nothing in it
      show List.Forall₂ Strips (suiteNotice true report) (suiteNotice false report)
      unfold suiteNotice
      split
      · exact .cons ((Strips.of_chars (by decide)).append
          (.styled _ (of_chars (by decide)))) .nil
      · exact .nil
  | runFinished =>
      exact .cons lineBreak (.cons (.styled _ (of_chars (by decide))) (.cons lineBreak .nil))

end Human

/-! ## Reports

Event by event.  The formats that a program reads have no colours to begin with.
-/

namespace Reporter

/-- What a reporter in the format `json` does with an event does not depend on whether it has
colours. -/
theorem next_json (colored : Bool) (pending : List SuiteReport) (event : Event) :
    (⟨.json, colored, pending⟩ : Reporter).next event
      = ⟨.json, colored,
          if ends event then [] else pending ++ (finished? event).toList⟩ := by
  rw [next, note_json, settle]
  cases ends event <;> rfl

/-- The text of a report does not depend on whether it has colours, unless people are to
read it. -/
theorem text_of_not_human {format : Format} (other : format ≠ .human)
    (pending : List SuiteReport) (events : List Event) :
    (⟨format, true, pending⟩ : Reporter).text events
      = (⟨format, false, pending⟩ : Reporter).text events := by
  cases format with
  | human => exact absurd rfl other
  | csv => rw [text_csv, text_csv]
  | json =>
      induction events generalizing pending with
      | nil => rfl
      | cons event rest ih =>
          rw [text_cons, text_cons, next_json, next_json, ih, note_json, note_json]
          rfl

/-- A document and the line breaks between documents have no escape character. -/
theorem unescaped_text_json (colored : Bool) (pending : List SuiteReport)
    (events : List Event) :
    Unescaped ((⟨.json, colored, pending⟩ : Reporter).text events) := by
  induction events generalizing pending with
  | nil => exact .of_chars (by decide)
  | cons event rest ih =>
      rw [text_cons, next_json, note_json]
      -- only the last event of a run writes, and what it writes is a document and a line break
      refine .append ?_ (ih _)
      unfold chunks
      dsimp only
      split
      · have lineBreak : Chunk.texts [Chunk.line ""] = "\n" := by decide
        refine (Json.Value.unescaped_pretty _).append ?_
        rw [lineBreak]
        exact .of_chars (by decide)
      · exact .of_chars (by decide)

/-- **A report with colours** is erased to the report without colours. -/
theorem strips_text (format : Format) (pending : List SuiteReport) {events : List Event}
    (clear : ∀ event ∈ events, event.Unescaped) :
    Strips ((⟨format, true, pending⟩ : Reporter).text events)
      ((⟨format, false, pending⟩ : Reporter).text events) := by
  cases format with
  | human =>
      rw [text_human, text_human]
      induction events with
      | nil => exact .of_chars (by decide)
      | cons event rest ih =>
          obtain ⟨first, others⟩ := List.forall_mem_cons.mp clear
          rw [List.flatMap_cons, List.flatMap_cons, unlines_append, unlines_append]
          exact (Strips.unlines (Human.strips_lines first)).append (ih others)
  | csv =>
      rw [text_csv, text_csv]
      refine .unlines (List.forall₂_same.mpr fun line mem => ?_)
      obtain ⟨event, told, mem⟩ := List.mem_flatMap.mp mem
      exact .of_unescaped (Csv.unescaped_lines (clear event told) line mem)
  | json =>
      -- the two texts are the same one, and there is nothing to erase in it
      rw [text_of_not_human Format.noConfusion]
      exact .of_unescaped (unescaped_text_json false pending events)

end Reporter

namespace Session

/-- On a boundless sink a session adds the text of its events. -/
theorem written_through {s : Session} (boundless : s.sink.room = none) (events : List Event) :
    (s.through events).sink.written.toList
      = s.sink.written.toList ++ Utf8.encode (s.reporter.text events) := by
  induction events generalizing s with
  | nil => simp [through, Utf8.encode]
  | cons event rest ih =>
      have room : s.sink.fits (Utf8.encode (s.reporter.text [event])) = true := by
        rw [Sink.fits, boundless]
        rfl
      have still : (s.tell event).sink.room = none := by
        rw [tell_sink, Sink.room_fill, boundless]
        rfl
      rw [Reporter.text_parted, Utf8.encode_append, ← List.append_assoc,
        ← Sink.written_of_fits room, ← tell_sink, ← tell_reporter room]
      exact ih still

/-- **Colours are decoration.**  Whatever events a reporter is told, in whatever format:

* Only the report for people has colours: in the other formats the output is the same with
  them and without.
* If there is no escape character in the texts that are told, then the output with colours
  is the output without them once the codes are erased. -/
theorem colours_are_decoration (format : Format) (pending : List SuiteReport)
    (events : List Event) :
    let output (colored : Bool) :=
      ((start ⟨format, colored, pending⟩ .unlimited).through events).sink.written.toList
    (format ≠ .human → output true = output false) ∧
    ((∀ event ∈ events, event.Unescaped) → erase (output true) = output false) := by
  intro output
  have written (colored : Bool) : output colored
      = Utf8.encode ((⟨format, colored, pending⟩ : Reporter).text events) :=
    written_through rfl events
  rw [written, written]
  exact ⟨fun other => by rw [Reporter.text_of_not_human other],
    fun clear => (Reporter.strips_text format pending clear).erase_eq⟩

end Session

end CrossBench
