import EventPackets.Bytes
import EventPackets.Stream.Source

/-!
# Sinks

A sink takes bytes, up to a limit if it has one.  Writing goes through a buffer: bytes are held
back until the buffer is full or is flushed, and what a sink has not taken stays in the buffer.

## Main definitions

* `Sink` : a sink with the bytes it has received.
* `Sink.deliver` : hands bytes to a sink.
* `BufferedSink` : a sink behind a buffer.
* `BufferedSink.write`, `BufferedSink.flush` : buffered writing.
* `BufferedSink.close` : the sink at the end of writing.
-/

namespace EventPackets

/-- A sink of bytes. -/
structure Sink where
  received : Bytes
  /-- the most that the sink takes in total -/
  limit : Option Nat

/-- How many of `n` bytes the sink takes. -/
def Sink.accepts (s : Sink) (n : Nat) : Nat :=
  match s.limit with
  | some l => min n (l - s.received.size)
  | none => n

/-- Hands bytes to the sink: the bytes that it does not take, and the sink afterwards. -/
def Sink.deliver (s : Sink) (b : Bytes) : Bytes × Sink :=
  let n := s.accepts b.size
  (b.extract n b.size, { s with received := s.received ++ b.extract 0 n })

/-- A sink behind a buffer. -/
structure BufferedSink where
  sink : Sink
  /-- the bytes held back, oldest first -/
  pending : Bytes

namespace BufferedSink

/-- How many bytes the buffer holds. -/
def capacity : Nat := 8192

/-- An empty buffer before a sink that has received nothing. -/
def empty (limit : Option Nat) : BufferedSink :=
  ⟨⟨#[], limit⟩, #[]⟩

/-- Hands all bytes held back to the sink. -/
def flush (w : BufferedSink) : Except IoError Unit × BufferedSink :=
  let (rest, sink) := w.sink.deliver w.pending
  (if rest.size = 0 then .ok () else .error .sinkFull, ⟨sink, rest⟩)

/-- Hands bytes to the sink past an empty buffer. -/
def writeThrough (w : BufferedSink) (b : Bytes) : Except IoError Unit × BufferedSink :=
  let (rest, sink) := w.sink.deliver b
  (if rest.size = 0 then .ok () else .error .sinkFull, { w with sink := sink })

/-- Writes bytes when the buffer has room for them or is empty. -/
def writeFitting (w : BufferedSink) (b : Bytes) : Except IoError Unit × BufferedSink :=
  if b.size < capacity then (.ok (), { w with pending := w.pending ++ b })
  else w.writeThrough b

/-- Writes bytes.  They are held back while there is room for them, and more than a whole buffer
goes to the sink at once. -/
def write (w : BufferedSink) (b : Bytes) : Except IoError Unit × BufferedSink :=
  if w.pending.size + b.size ≤ capacity then w.writeFitting b
  else
    match w.flush with
    | (.error e, w) => (.error e, w)
    | (.ok (), w) => w.writeFitting b

/-- The sink at the end of writing.  It is handed what is still held back; what it does not take
is lost, and nobody is told. -/
def close (w : BufferedSink) : Sink := w.flush.2.sink

end BufferedSink

end EventPackets
