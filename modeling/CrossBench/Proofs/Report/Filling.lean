import CrossBench.Report.Sink

/-!
# Filling a sink

A sink keeps of what is written to it as much as it has room for.

* `Sink.fits` and `Sink.fill` — whether there is room for bytes, and the sink that they
  leave.
* `Sink.fill_append` and `Sink.fits_append` — it is irrelevant how the bytes were parted
  into writes, failed ones included.
* `Sink.deliver_fst` and `Sink.deliver_snd` — chunks are delivered as their text is
  written.
-/

namespace CrossBench

/-- The text of chunks, one behind the other. -/
def Chunk.texts : List Chunk → String
  | [] => ""
  | chunk :: rest => chunk.text ++ texts rest

namespace Sink

/-- A sink that accepts everything, with something written to it already. -/
def boundless (written : Array UInt8) : Sink := ⟨written, none⟩

/-- The sink that bytes leave: of the bytes it keeps those that it has room for. -/
def fill (sink : Sink) (bytes : List UInt8) : Sink := (sink.write bytes).1

/-- Whether a sink has room for all of the bytes. -/
def fits (sink : Sink) (bytes : List UInt8) : Bool := sink.room.all (bytes.length ≤ ·)

/-- Writing fills the room that there is, and says whether this was enough. -/
theorem write_eq (sink : Sink) (bytes : List UInt8) :
    sink.write bytes = (sink.fill bytes, sink.fits bytes) := by
  obtain ⟨written, room⟩ := sink
  cases room <;> rfl

@[simp] theorem fill_nil (sink : Sink) : sink.fill [] = sink := by
  obtain ⟨written, room⟩ := sink
  cases room <;> simp [fill, write]

@[simp] theorem fits_nil (sink : Sink) : sink.fits [] = true := by
  obtain ⟨written, room⟩ := sink
  cases room <;> simp [fits]

theorem fits_limited (limit : Nat) (bytes : List UInt8) :
    (limited limit).fits bytes = decide (bytes.length ≤ limit) := rfl

/-- What does not fit is lost byte by byte, so it does not matter where the writes are
parted. -/
theorem fill_append (sink : Sink) (first second : List UInt8) :
    sink.fill (first ++ second) = (sink.fill first).fill second := by
  obtain ⟨written, room⟩ := sink
  cases room with
  | none => simp [fill, write]
  | some room => simp [fill, write, List.take_append, Nat.sub_sub]

theorem fits_append (sink : Sink) (first second : List UInt8) :
    sink.fits (first ++ second) = (sink.fits first && (sink.fill first).fits second) := by
  obtain ⟨written, room⟩ := sink
  cases room with
  | none => rfl
  | some room =>
      simp only [fits, fill, write, Option.all_some, List.length_append]
      rw [← Bool.decide_and]
      exact decide_eq_decide.mpr (by omega)

/-! ## Room

What can be said of a sink without knowing what is written to it.
-/

theorem written_of_fits {sink : Sink} {bytes : List UInt8} (room : sink.fits bytes = true) :
    (sink.fill bytes).written.toList = sink.written.toList ++ bytes := by
  obtain ⟨written, limit⟩ := sink
  cases limit with
  | none => simp [fill, write]
  | some limit =>
      have enough : bytes.length ≤ limit := by simpa [fits] using room
      simp [fill, write, List.take_of_length_le enough]

/-- A sink without a limit stays one. -/
theorem room_fill (sink : Sink) (bytes : List UInt8) :
    (sink.fill bytes).room = sink.room.map (· - bytes.length) := by
  obtain ⟨written, limit⟩ := sink
  cases limit <;> rfl

/-- What an empty sink keeps of bytes. -/
theorem written_fill (room : Option Nat) (bytes : List UInt8) :
    ((⟨#[], room⟩ : Sink).fill bytes).written.toList
      = match room with
        | none => bytes
        | some limit => bytes.take limit := by
  cases room <;> simp [fill, write]

/-- A sink that something did not fit in is full. -/
theorem room_of_not_fits {sink : Sink} {bytes : List UInt8} (tight : sink.fits bytes = false) :
    (sink.fill bytes).room = some 0 := by
  obtain ⟨written, limit⟩ := sink
  cases limit with
  | none => cases tight
  | some limit =>
      have short : limit < bytes.length := by simpa [fits] using tight
      exact congrArg some (Nat.sub_eq_zero_of_le (Nat.le_of_lt short))

/-- A full sink keeps nothing more. -/
theorem fill_of_full {sink : Sink} (full : sink.room = some 0) (bytes : List UInt8) :
    sink.fill bytes = sink := by
  obtain ⟨written, limit⟩ := sink
  cases full
  simp [fill, write]

theorem fits_of_full {sink : Sink} (full : sink.room = some 0) {bytes : List UInt8}
    (some_bytes : bytes ≠ []) : sink.fits bytes = false := by
  obtain ⟨written, limit⟩ := sink
  cases full
  simpa [fits] using some_bytes

theorem fill_of_not_fits {sink : Sink} {bytes : List UInt8} (tight : sink.fits bytes = false)
    (more : List UInt8) : (sink.fill bytes).fill more = sink.fill bytes :=
  fill_of_full (room_of_not_fits tight) more

/-! ## Chunks

A reporter writes in chunks and stops at the first that fails.  As each error leaves the
sink full, stopping makes no difference to what is in it.
-/

/-- A chunk is delivered if it fits; if not, what fits of it is there and an error is answered. -/
theorem deliver_cons (sink : Sink) (chunk : Chunk) (rest : List Chunk) :
    sink.deliver (chunk :: rest) =
      if sink.fits (Utf8.encode chunk.text) then
        (sink.fill (Utf8.encode chunk.text)).deliver rest
      else (sink.fill (Utf8.encode chunk.text), .error (chunk.failure full)) := by
  rw [deliver, write_eq]
  cases sink.fits (Utf8.encode chunk.text) <;> rfl

/-- Whether it fails or not, a delivery leaves in the sink what there is room for. -/
theorem deliver_fst (sink : Sink) (chunks : List Chunk) :
    (sink.deliver chunks).1 = sink.fill (Utf8.encode (Chunk.texts chunks)) := by
  induction chunks generalizing sink with
  | nil => simp [deliver, Chunk.texts]
  | cons chunk rest ih =>
      rw [deliver_cons, Chunk.texts, Utf8.encode_append, fill_append]
      split
      · exact ih _
      · next tight => exact (fill_of_not_fits (by simpa using tight) _).symm

/-- A delivery succeeds exactly if there is room for all of it. -/
theorem deliver_snd (sink : Sink) (chunks : List Chunk) :
    (sink.deliver chunks).2.isOk = sink.fits (Utf8.encode (Chunk.texts chunks)) := by
  induction chunks generalizing sink with
  | nil => simp [deliver, Chunk.texts, Except.isOk, Except.toBool]
  | cons chunk rest ih =>
      rw [deliver_cons, Chunk.texts, Utf8.encode_append, fits_append]
      cases fit : sink.fits (Utf8.encode chunk.text) with
      | true => simpa using ih _
      | false => rfl

/-- Chunks that fail alike. -/
theorem deliver_of_failure (sink : Sink) {chunks : List Chunk} {e : HarnessError}
    (alike : ∀ chunk ∈ chunks, chunk.failure full = e) :
    (sink.deliver chunks).2
      = if sink.fits (Utf8.encode (Chunk.texts chunks)) then .ok () else .error e := by
  induction chunks generalizing sink with
  | nil => simp [deliver, Chunk.texts]
  | cons chunk rest ih =>
      have there := ih (sink.fill (Utf8.encode chunk.text))
        fun c mem => alike c (List.mem_cons_of_mem _ mem)
      rw [deliver_cons, Chunk.texts, Utf8.encode_append, fits_append]
      cases fit : sink.fits (Utf8.encode chunk.text) with
      | true => simpa using there
      | false => simp [alike chunk List.mem_cons_self]

end Sink

end CrossBench
