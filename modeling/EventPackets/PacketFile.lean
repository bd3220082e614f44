import EventPackets.Csv.Writer
import EventPackets.Storage
import EventPackets.Stream.Reader
import EventPackets.Stream.Writer

/-!
# Packet files

Packets in a file, and tables of their events in other files.

## Main definitions

* `Storage.readPackets` : the packets in a file.
* `Storage.writePackets` : the storage with packets in a file.
* `Storage.exportTable` : the storage with a table of events in a file.
-/

namespace EventPackets.Storage

/-- A reader at the start of the file that a path leads to. -/
def openPackets (s : Storage) (path : String) : Except ReadError Reader :=
  match s.openFile path with
  | .ok source => .ok (.ofSource source)
  | .error e => .error (.io e)

/-- The packets in the file that a path leads to. -/
def readPackets (s : Storage) (path : String) : Except ReadError (List AnyPacket) :=
  match s.openPackets path with
  | .ok r => r.collect.1
  | .error e => .error e

/-- Writes packets one after another until one fails. -/
def writeAll (w : PacketWriter) : List AnyPacket → Except IoError Unit × PacketWriter
  | [] => w.flush
  | p :: ps =>
    match w.writePacket p with
    | (.ok (), w) => writeAll w ps
    | (.error e, w) => (.error e, w)

/-- Writes packets into the file that a path leads to, in place of what was there. -/
def writePackets (s : Storage) (path : String) (ps : List AnyPacket) :
    Except OutputError Unit × Storage :=
  match s.create path with
  | .error e => (.error (.io e), s)
  | .ok (place, s) =>
    let (result, w) := writeAll (.empty none) ps
    (result.mapError .io, s.put place w.close)

/-- Writes a table of the events of packets into the file that a path leads to, in place of what
was there; the result is the number of its rows. -/
def exportTable {k : Kind} (s : Storage) (path : String) (f : TableFormat k)
    (selection : Selection) (ps : List AnyPacket) : Except OutputError Nat × Storage :=
  match s.create path with
  | .error e => (.error (.io e), s)
  | .ok (place, s) =>
    let (result, w) := (TableWriter.empty f selection none).writeTable ps
    (result.mapError .io, s.put place w.close)

end EventPackets.Storage
