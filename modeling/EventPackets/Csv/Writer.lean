import EventPackets.Csv.Table
import EventPackets.Stream.Sink

/-!
# Writing tables

## Main definitions

* `TableWriter` : a buffered sink for a table of events.
* `TableWriter.writeHead`, `TableWriter.writePacket`, `TableWriter.flush` : its parts.
* `TableWriter.writeTable` : a whole table.
* `TableWriter.close` : what the sink has received in the end.
-/

namespace EventPackets

/-- A sink for a table of events. -/
structure TableWriter (k : Kind) where
  format : TableFormat k
  selection : Selection
  target : BufferedSink

/-- The bytes of a text. -/
def textBytes (s : String) : Bytes :=
  s.toUTF8.data

namespace TableWriter

variable {k : Kind}

/-- A writer before a sink that has received nothing. -/
def empty (f : TableFormat k) (s : Selection) (limit : Option Nat) : TableWriter k :=
  ⟨f, s, .empty limit⟩

/-- Writes a line. -/
def writeLine (w : TableWriter k) (line : String) : Except IoError Unit × TableWriter k :=
  let (result, t) := w.target.write (textBytes line)
  (result, { w with target := t })

/-- Writes lines one after another, counting from `n`, until one fails. -/
def writeLines (w : TableWriter k) (n : Nat) : List String → Except IoError Nat × TableWriter k
  | [] => (.ok n, w)
  | line :: lines =>
    match w.writeLine line with
    | (.ok (), w) => w.writeLines (n + 1) lines
    | (.error e, w) => (.error e, w)

/-- Writes the head of the table. -/
def writeHead (w : TableWriter k) : Except IoError Unit × TableWriter k :=
  w.writeLine (w.format.headLine w.selection)

/-- Writes the exported events of a packet; the result is their number. -/
def writePacket (w : TableWriter k) (p : Packet k) : Except IoError Nat × TableWriter k :=
  w.writeLines 0 (w.format.packetLines w.selection p)

/-- Writes the exported events of all packets of kind `k`, counting from `n`, until one fails. -/
def writePackets (w : TableWriter k) (n : Nat) :
    List AnyPacket → Except IoError Nat × TableWriter k
  | [] => (.ok n, w)
  | p :: ps =>
    match p.ofKind? k with
    | none => w.writePackets n ps
    | some q =>
      match w.writePacket q with
      | (.ok rows, w) => w.writePackets (n + rows) ps
      | (.error e, w) => (.error e, w)

/-- Hands everything held back to the sink. -/
def flush (w : TableWriter k) : Except IoError Unit × TableWriter k :=
  let (result, t) := w.target.flush
  (result, { w with target := t })

/-- Writes a whole table and flushes it; the result is the number of its rows. -/
def writeTable (w : TableWriter k) (ps : List AnyPacket) : Except IoError Nat × TableWriter k :=
  match w.writeHead with
  | (.error e, w) => (.error e, w)
  | (.ok (), w) =>
    match w.writePackets 0 ps with
    | (.error e, w) => (.error e, w)
    | (.ok rows, w) =>
      match w.flush with
      | (.error e, w) => (.error e, w)
      | (.ok (), w) => (.ok rows, w)

/-- What the sink has received in the end. -/
def close (w : TableWriter k) : Bytes := w.target.close.received

end TableWriter

end EventPackets
