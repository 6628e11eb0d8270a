import CrossBench.Error
import CrossBench.Text.Utf8

/-!
# Where a report goes

A `Sink` keeps what is written to it. It may have room for a limited number of bytes only; a write
that does not fit keeps the bytes that do and fails, and after that there is no room left. Flushing
a sink always succeeds, so there is nothing to model of it.

A report is delivered in `Chunk`s, in order and up to the first failure. Each chunk says which error
its failure is.
-/

namespace CrossBench

/-- What has been written, and how many more bytes will be accepted if there is a limit. -/
structure Sink where
  written : Array UInt8
  room : Option Nat

namespace Sink

/-- A sink that accepts everything. -/
def unlimited : Sink := ⟨#[], none⟩

/-- A sink that accepts this many bytes. -/
def limited (room : Nat) : Sink := ⟨#[], some room⟩

/-- How a write fails that does not fit. -/
def full : IoError := .custom "writer full"

/-- Writes bytes; whether all of them were accepted. -/
def write (sink : Sink) (bytes : List UInt8) : Sink × Bool :=
  match sink.room with
  | none => (⟨sink.written ++ bytes.toArray, none⟩, true)
  | some room =>
    (⟨sink.written ++ (bytes.take room).toArray, some (room - bytes.length)⟩,
      bytes.length ≤ room)

end Sink

/-- A part of a report that is written at once. -/
structure Chunk where
  text : String
  /-- The error that a failure to write this part is. -/
  failure : IoError → HarnessError

/-- A line of a report. -/
def Chunk.line (text : String) : Chunk := ⟨text ++ "\n", .output⟩

/-- A document of a report; the line break behind it is a chunk of its own. -/
def Chunk.document (text : String) : Chunk := ⟨text, .document⟩

/-- Writes chunks up to the first that fails. -/
def Sink.deliver (sink : Sink) : List Chunk → Sink × Except HarnessError Unit
  | [] => (sink, .ok ())
  | chunk :: rest =>
    match sink.write (Utf8.encode chunk.text) with
    | (sink, true) => sink.deliver rest
    | (sink, false) => (sink, .error (chunk.failure Sink.full))

end CrossBench
