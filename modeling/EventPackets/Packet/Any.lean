import EventPackets.Packet.Decode

/-!
# Packets of any kind

## Main definitions

* `AnyPacket` : a packet together with its kind.
* `AnyPacket.ofBytes` : the packet that a buffer is, of the kind that its header names.
-/

namespace EventPackets

/-- A packet together with its kind. -/
structure AnyPacket where
  kind : Kind
  packet : Packet kind
  deriving DecidableEq

namespace AnyPacket

/-- The bytes of the packet. -/
def bytes (p : AnyPacket) : Bytes := p.packet.bytes

/-- The kind that the header of a buffer names. -/
def kind? (b : Bytes) : Option Kind :=
  (EventType.ofId? (Header.eventType b)).bind Kind.ofEventType?

/-- The packet that a buffer is, of the kind that its header names. -/
def ofBytes (b : Bytes) : Except PacketError AnyPacket :=
  if b.size < Header.size then .error (.truncated b.size)
  else
    match kind? b with
    | some k => (Packet.ofBytes k b).map fun p => ⟨k, p⟩
    | none => .error (.unsupportedType (Header.eventType b))

/-- The packet if it is of kind `k`. -/
def ofKind? (k : Kind) (p : AnyPacket) : Option (Packet k) :=
  if h : p.kind = k then some (h ▸ p.packet) else none

/-- The name that describes a packet of a kind. -/
def caseName : Kind → String
  | .polarity => "Polarity"
  | .imu9 => "Imu9"

/-- A line about the packet. -/
def describe (p : AnyPacket) : String :=
  s!"{caseName p.kind}({p.packet.describe})"

end AnyPacket

end EventPackets
