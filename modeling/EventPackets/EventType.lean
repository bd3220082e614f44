/-!
# Event types

The kinds of events that the packet format knows about.  Only two of them, polarity and IMU9
events, have a record layout in this library; see `EventPackets.Record.Kind`.

## Main definitions

* `EventType` : the event types.
* `EventType.id`, `EventType.ofId?` : the number of an event type in a packet header.
-/

namespace EventPackets

/-- The event types of the packet format. -/
inductive EventType
  | special
  | polarity
  | frame
  | imu6
  | imu9
  | sample
  | ear
  deriving DecidableEq

namespace EventType

/-- The number of an event type in a packet header. -/
def id : EventType → Int16
  | special => 0
  | polarity => 1
  | frame => 2
  | imu6 => 3
  | imu9 => 4
  | sample => 5
  | ear => 6

/-- The event type with a given number. -/
def ofId? (n : Int16) : Option EventType :=
  match n.toInt with
  | 0 => some special
  | 1 => some polarity
  | 2 => some frame
  | 3 => some imu6
  | 4 => some imu9
  | 5 => some sample
  | 6 => some ear
  | _ => none

/-- The name of an event type. -/
def name : EventType → String
  | special => "special"
  | polarity => "polarity"
  | frame => "frame"
  | imu6 => "imu6"
  | imu9 => "imu9"
  | sample => "sample"
  | ear => "ear"

theorem ofId?_id (t : EventType) : ofId? t.id = some t := by
  cases t <;> rfl

end EventType

end EventPackets
