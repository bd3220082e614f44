import EventPackets.Csv.FieldOrder
import EventPackets.Number.Binary32
import EventPackets.Packet.Any

/-!
# Tables of events

Events are exported as lines of cells between commas: a head with the names of the columns, then
a line for each event.  Either only valid events are exported, or all events that a consumer
visits, with a last column that tells which of them are valid.

## Main definitions

* `Selection` : which events are exported.
* `TableFormat` : the columns of a table of events of a kind.
* `TableFormat.polarity`, `TableFormat.imu9` : the formats of the two kinds.
* `TableFormat.packetLines` : the lines for the events of a packet.
-/

namespace EventPackets

/-- Which of the events that a consumer visits are exported. -/
inductive Selection
  | valid
  | all
  deriving DecidableEq

/-- The events of a packet that are exported. -/
def Selection.events {k : Kind} (s : Selection) (p : Packet k) : List (Event k) :=
  match s with
  | valid => p.validEvents
  | all => p.events

/-- The columns of a table of events of a kind. -/
structure TableFormat (k : Kind) where
  names : List String
  /-- the cells of an event, one for each column -/
  cells : Event k → List String

/-- A bit as a cell. -/
def bitCell (b : Bool) : String :=
  if b then "1" else "0"

/-- A line of cells. -/
def cellLine (cells : List String) : String :=
  ",".intercalate cells ++ "\n"

/-- The cell of a polarity event in a column. -/
def Column.cell (c : Column) (e : Event .polarity) : String :=
  match c with
  | x => toString e.data.x.toNat
  | y => toString e.data.y.toNat
  | polarity => bitCell e.data.on
  | timestamp => toString e.timestamp64.toInt

namespace TableFormat

/-- Tables of polarity events, with the columns in the given order. -/
def polarity (o : FieldOrder) : TableFormat .polarity where
  names := o.names
  cells e := o.columns.map fun c => c.cell e

/-- Tables of IMU9 events: the timestamp and the ten measurements. -/
def imu9 : TableFormat .imu9 where
  names := "timestamp" :: Measurement.all.map Measurement.name
  cells e := toString e.timestamp64.toInt :: e.data.values.map Binary32.text

variable {k : Kind} (f : TableFormat k)

/-- The head of a table. -/
def headLine (s : Selection) : String :=
  match s with
  | .valid => cellLine f.names
  | .all => cellLine (f.names ++ ["valid"])

/-- The line of an event. -/
def eventLine (s : Selection) (e : Event k) : String :=
  match s with
  | .valid => cellLine (f.cells e)
  | .all => cellLine (f.cells e ++ [bitCell e.valid])

/-- The lines for the exported events of a packet. -/
def packetLines (s : Selection) (p : Packet k) : List String :=
  (s.events p).map (f.eventLine s)

end TableFormat

end EventPackets
