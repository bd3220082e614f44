import EventPackets.Packet.Any
import EventPackets.Packet.Producer
import EventPackets.Scripting.Value

/-!
# Packet objects

A packet as an object of a scripting language, with methods and attributes.

## Main definitions

* `describeObject` : the text that represents a packet object.
* `newObject`, `objectOfBytes` : packet objects.
* `callMethod` : a method call, and the packet afterwards.
* `getAttribute`, `setAttribute` : access to attributes.
-/

namespace EventPackets.Scripting

/-- The class of packet objects of a kind. -/
def className : Kind → String
  | .polarity => "PolarityPacket"
  | .imu9 => "Imu9Packet"

/-- The text that represents a packet object. -/
def describeObject (p : AnyPacket) : String :=
  s!"{className p.kind}(capacity={p.packet.capacity}, number={p.packet.number}, valid={p.packet.validCount}, source={p.packet.source})"

/-- What a call returns. -/
inductive Answer
  | done
  | int (n : Int)
  | text (s : String)
  | bytes (b : Bytes)
  /-- a polarity event -/
  | event (e : Event .polarity)
  /-- packets that were read -/
  | packets (ps : List AnyPacket)
  | failed (cause : CallError)

/-- The value of a call, or the packet error as a call error. -/
def ofPacketError {α : Type} : Except PacketError α → Except CallError α
  | .ok a => .ok a
  | .error e => .error (.packet e)

/-- A packet object with empty slots. -/
def newObject (k : Kind) (args : Arguments) : Except CallError AnyPacket := do
  args.check ["capacity"] ["source", "ts_overflow"]
  let capacity ← args.get "capacity" Value.toInt32
  let source ← args.getD "source" Value.toInt16 0
  let overflow ← args.getD "ts_overflow" Value.toInt32 0
  let p ← ofPacketError (Packet.allocate k capacity source overflow).value
  .ok ⟨k, p⟩

/-- A packet object that holds given bytes. -/
def objectOfBytes (k : Kind) (b : Bytes) : Except CallError AnyPacket := do
  let p ← ofPacketError (Packet.ofBytes k b)
  .ok ⟨k, p⟩

/-- What an edit of a packet answers, and the packet afterwards. -/
def editObject {k : Kind} (p : Packet k) (e : Edit Unit) : Answer × AnyPacket :=
  let (result, b) := (e.on p.bytes).value
  (match result with
    | .ok () => .done
    | .error e => .failed (.packet e), ⟨k, ⟨b⟩⟩)

/-- Carries out an edit on the slot with an index. -/
def editSlot {k : Kind} (p : Packet k) (index : Int32) (e : Nat → Edit Unit) :
    Answer × AnyPacket :=
  match (p.open? index).value with
  | some i => editObject p (e i)
  | none => (.failed (.noSlot index p.capacity), ⟨k, p⟩)

/-- A call of a method once its arguments are converted. -/
inductive MethodCall (k : Kind)
  | setEvent (index : Int32) (writes : List k.Write) (timestamp : Int32)
  | getEvent (index : Int32)
  | validate (index : Int32)
  | invalidate (index : Int32)
  | toBytes

/-- The changes that set the fields of an event, from the arguments of a call. -/
def eventArguments (k : Kind) (args : Arguments) :
    Except CallError (Int32 × List k.Write × Int32) :=
  match k with
  | .polarity => do
    args.check ["index", "x", "y", "polarity", "timestamp"] []
    let index ← args.get "index" Value.toInt32
    let x ← args.get "x" Value.toUInt16
    let y ← args.get "y" Value.toUInt16
    let on ← args.get "polarity" Value.toBool
    let timestamp ← args.get "timestamp" Value.toInt32
    .ok (index, [PolarityWrite.x x, PolarityWrite.y y, PolarityWrite.polarity on], timestamp)
  | .imu9 => do
    args.check ["index", "timestamp", "accel", "gyro", "temp", "comp"] []
    let index ← args.get "index" Value.toInt32
    let timestamp ← args.get "timestamp" Value.toInt32
    let (ax, ay, az) ← args.get "accel" Value.toTriple
    let (gx, gy, gz) ← args.get "gyro" Value.toTriple
    let temp ← args.get "temp" Value.toBinary32
    let (cx, cy, cz) ← args.get "comp" Value.toTriple
    .ok (index, [Imu9Write.sample ⟨ax, ay, az, gx, gy, gz, temp, cx, cy, cz⟩], timestamp)

/-- The method call with a name and arguments. -/
def MethodCall.ofArguments (k : Kind) (method : String) (args : Arguments) :
    Except CallError (MethodCall k) :=
  match method with
  | "set_event" => do
    let (index, writes, timestamp) ← eventArguments k args
    .ok (.setEvent index writes timestamp)
  | "get_event" =>
    match k with
    | .polarity => do
      args.check ["index"] []
      let index ← args.get "index" Value.toInt32
      .ok (.getEvent index)
    | .imu9 => .error .noAttribute
  | "validate" => do
    args.check ["index"] []
    let index ← args.get "index" Value.toInt32
    .ok (.validate index)
  | "invalidate" => do
    args.check ["index"] []
    let index ← args.get "index" Value.toInt32
    .ok (.invalidate index)
  | "to_bytes" => do
    args.check [] []
    .ok .toBytes
  | _ => .error .noAttribute

/-- Puts fields and a timestamp into slot `i`. -/
def fillSlot {k : Kind} (writes : List k.Write) (timestamp : Int32) (i : Nat) : Edit Unit := do
  writes.forM fun w => modify (k.write w (Slot.start k i))
  Slot.setTimestamp k i timestamp

/-- The event in the slot with an index of a packet of polarity events. -/
def polarityEvent {k : Kind} (p : Packet k) (index : Int32) : Answer :=
  match k, p with
  | .polarity, p =>
    match (p.event? index).value with
    | some e => .event e
    | none => .failed (.noSlot index p.capacity)
  | .imu9, _ => .failed .noAttribute

/-- What a method call answers, and the packet afterwards. -/
def MethodCall.perform {k : Kind} (c : MethodCall k) (p : Packet k) : Answer × AnyPacket :=
  match c with
  | setEvent index writes timestamp => editSlot p index (fillSlot writes timestamp)
  | getEvent index => (polarityEvent p index, ⟨k, p⟩)
  | validate index => editSlot p index (Slot.validate k)
  | invalidate index => editSlot p index (Slot.invalidate k)
  | toBytes => (.bytes p.bytes, ⟨k, p⟩)

/-- What a call of the method with a name answers, and the packet afterwards. -/
def callMethod (p : AnyPacket) (method : String) (args : Arguments) : Answer × AnyPacket :=
  match MethodCall.ofArguments p.kind method args with
  | .ok c => c.perform p.packet
  | .error e => (.failed e, p)

/-- The value of the attribute with a name. -/
def getAttribute (p : AnyPacket) (name : String) : Answer :=
  match name with
  | "capacity" => .int p.packet.capacity.toInt
  | "event_number" => .int p.packet.number.toInt
  | "event_valid" => .int p.packet.validCount.toInt
  | "source" => .int p.packet.source.toInt
  | "ts_overflow" => .int p.packet.overflow.toInt
  | _ => .failed .noAttribute

/-- What setting the attribute with a name answers, and the packet afterwards.  Only the overflow
counter can be set. -/
def setAttribute (p : AnyPacket) (name : String) (v : Value) : Answer × AnyPacket :=
  if name = "ts_overflow" then
    match v.toInt32 with
    | .ok n => editObject p.packet (Header.set .overflow n)
    | .error e => (.failed e, p)
  else (.failed .noAttribute, p)

/-- The length of a packet object, its event number. -/
def length (p : AnyPacket) : Nat :=
  p.packet.number.toNatClampNeg

end EventPackets.Scripting
