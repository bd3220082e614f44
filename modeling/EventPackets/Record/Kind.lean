import EventPackets.EventType
import EventPackets.Record.Imu9
import EventPackets.Record.Polarity

/-!
# Kinds of records

The event types whose records this library can read and write.

## Main definitions

* `Kind` : polarity or IMU9.
* `Kind.recordSize`, `Kind.timestampOffset` : the layout of a record.
* `Kind.Data` : what a record holds besides validity mark and timestamp.
* `Kind.Write` : a change of that data.
-/

namespace EventPackets

/-- An event type with a record layout. -/
inductive Kind
  | polarity
  | imu9
  deriving DecidableEq

namespace Kind

/-- The event type of a kind. -/
def eventType : Kind → EventType
  | polarity => .polarity
  | imu9 => .imu9

/-- The kind of an event type, if it has a record layout. -/
def ofEventType? : EventType → Option Kind
  | .polarity => some polarity
  | .imu9 => some imu9
  | _ => none

/-- The bytes in a record. -/
def recordSize : Kind → Nat
  | polarity => 8
  | imu9 => 48

/-- Where the timestamp stands in a record. -/
def timestampOffset : Kind → Nat
  | polarity => 4
  | imu9 => 4

/-- The name under which events of a kind are reported and described. -/
def label : Kind → String
  | polarity => "Polarity Event"
  | imu9 => "IMU9 Event"

/-- What a record holds besides validity mark and timestamp. -/
abbrev Data : Kind → Type
  | polarity => PolarityData
  | imu9 => Imu9Sample

instance : (k : Kind) → DecidableEq k.Data
  | polarity => inferInstanceAs (DecidableEq PolarityData)
  | imu9 => inferInstanceAs (DecidableEq Imu9Sample)

/-- A change of that data. -/
abbrev Write : Kind → Type
  | polarity => PolarityWrite
  | imu9 => Imu9Write

/-- The data of the record that starts at byte `start`. -/
def readData (k : Kind) (b : Bytes) (start : Nat) : k.Data :=
  match k with
  | polarity => PolarityData.read b start
  | imu9 => Imu9Sample.read b start

/-- Makes a change in the record that starts at byte `start`. -/
def write (k : Kind) (w : k.Write) (start : Nat) (b : Bytes) : Bytes :=
  match k, w with
  | polarity, w => PolarityWrite.apply w start b
  | imu9, w => Imu9Write.apply w start b

theorem ofEventType?_eventType (k : Kind) : ofEventType? k.eventType = some k := by
  cases k <;> rfl

theorem timestampOffset_add_le (k : Kind) : k.timestampOffset + 4 ≤ k.recordSize := by
  cases k <;> decide

end Kind

end EventPackets
