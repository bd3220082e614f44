import EventPackets.Packet.Any
import EventPackets.Stream.Sink

/-!
# Writing packets to a stream

## Main definitions

* `PacketWriter` : a buffered sink with a count of the bytes written to it.
* `PacketWriter.writeBytes`, `PacketWriter.writePacket`, `PacketWriter.flush`.
* `PacketWriter.Step`, `PacketWriter.step`, `PacketWriter.after` : what a writer can be asked to do,
  one step of it, and the writer after a sequence of steps.
* `PacketWriter.close` : what the sink has received in the end.
-/

namespace EventPackets

/-- A sink for packets. -/
structure PacketWriter where
  target : BufferedSink
  /-- how many bytes have been written, held back or not -/
  bytesWritten : Nat

namespace PacketWriter

/-- A writer before a sink that has received nothing. -/
def empty (limit : Option Nat) : PacketWriter :=
  ⟨.empty limit, 0⟩

/-- Writes bytes as they are. -/
def writeBytes (w : PacketWriter) (b : Bytes) : Except IoError Unit × PacketWriter :=
  match w.target.write b with
  | (.ok (), t) => (.ok (), ⟨t, w.bytesWritten + b.size⟩)
  | (.error e, t) => (.error e, { w with target := t })

/-- Writes the bytes of a packet. -/
def writePacket (w : PacketWriter) (p : AnyPacket) : Except IoError Unit × PacketWriter :=
  w.writeBytes p.bytes

/-- Hands all bytes held back to the sink. -/
def flush (w : PacketWriter) : Except IoError Unit × PacketWriter :=
  let (result, t) := w.target.flush
  (result, { w with target := t })

/-- What a writer can be asked to do. -/
inductive Step
  | packet (p : AnyPacket)
  | bytes (b : Bytes)
  | flush

/-- Carries out one step. -/
def step (w : PacketWriter) : Step → Except IoError Unit × PacketWriter
  | .packet p => w.writePacket p
  | .bytes b => w.writeBytes b
  | .flush => w.flush

/-- The writer after a sequence of steps, which goes on if one of them fails. -/
def after (w : PacketWriter) (steps : List Step) : PacketWriter :=
  steps.foldl (fun w x => (w.step x).2) w

/-- What the sink has received in the end. -/
def close (w : PacketWriter) : Bytes := w.target.close.received

end PacketWriter

end EventPackets
