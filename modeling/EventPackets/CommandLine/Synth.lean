import EventPackets.CommandLine.Outcome
import EventPackets.Packet.Recipe
import EventPackets.PacketFile
import EventPackets.Text.Quoted

/-!
# Synthesizing a packet file

A file of made-up packets with a pattern that depends on nothing but the number of a slot.  All
events are valid, and every packet starts a new epoch of the overflow counter.

## Main definitions

* `syntheticPixel`, `syntheticSample` : the data of an event.
* `syntheticEvents` : the events of a packet.
* `syntheticPacket` : a packet.
* `synth` : the command.
-/

namespace EventPackets.CommandLine

/-- A product, or the limit of the width that it is beyond. -/
def mulSaturating (a b : Int32) : Int32 :=
  Int32.ofInt (max Int32.minValue.toInt (min (a.toInt * b.toInt) Int32.maxValue.toInt))

/-- The remainder of a division, which is never negative. -/
def remEuclid (a b : Int32) : Int32 :=
  Int32.ofInt (a.toInt % b.toInt)

/-- The pixel of the `i`-th polarity event on a sensor of 640 by 480 pixels. -/
def syntheticPixel (i : Int32) : UInt16 × UInt16 :=
  let x := remEuclid i 640 * 7 % 640
  let y := remEuclid i 480 * 3 % 480
  (x.toUInt32.toUInt16, y.toUInt32.toUInt16)

/-- The bit pattern of a number. -/
def patternOf (x : Float32) : Binary32 := ⟨x.toBits⟩

/-- The measurements of the `i`-th IMU9 event, on a circle that turns by a hundredth from event
to event. -/
def syntheticSample (i : Nat) : Imu9Sample :=
  let phase : Float32 := Float32.ofNat i * 0.01
  let sine := phase.sin
  let cosine := phase.cos
  { accelX := patternOf sine
    accelY := patternOf cosine
    accelZ := patternOf (-1.0)
    gyroX := patternOf (0.5 * cosine)
    gyroY := patternOf 0.0
    gyroZ := patternOf (-0.5 * sine)
    temp := patternOf (25.0 + 0.1 * sine)
    compX := patternOf 0.2
    compY := patternOf 0.0
    compZ := patternOf 0.4 }

/-- The data of the `i`-th event of a kind. -/
def syntheticWrites (k : Kind) (i : Nat) : List k.Write :=
  match k with
  | .polarity =>
    let pixel := syntheticPixel (Int32.ofNat i)
    [PolarityWrite.x pixel.1, PolarityWrite.y pixel.2,
      PolarityWrite.polarity (Int32.ofNat i % 2 == 0)]
  | .imu9 => [Imu9Write.sample (syntheticSample i)]

/-- The time between events of a kind. -/
def syntheticInterval : Kind → Int32
  | .polarity => 10
  | .imu9 => 1000

/-- The `i`-th event of a kind. -/
def syntheticEvent (k : Kind) (i : Nat) : EventRecipe k where
  writes := syntheticWrites k i
  timestamp := mulSaturating (Int32.ofNat i) (syntheticInterval k)
  valid := true

/-- The events of a packet. -/
def syntheticEvents (k : Kind) (capacity : Int32) : List (EventRecipe k) :=
  (List.range capacity.toNatClampNeg).map (syntheticEvent k)

/-- How a failure names packets of a kind. -/
def packetName : Kind → String
  | .polarity => "polarity"
  | .imu9 => "IMU9"

/-- A packet whose slots all hold valid events. -/
def syntheticPacket (k : Kind) (capacity : Int32) (source : Int16) (overflow : Int32) :
    Reported (Except Failure (Packet k)) := do
  match ← Packet.allocate k capacity source overflow with
  | .error e => pure (.error ⟨s!"Failed to allocate {packetName k} packet", [e.message]⟩)
  | .ok p =>
    let (result, b) ← (EventRecipe.fillAll 0 (syntheticEvents k capacity)).on p.bytes
    match result with
    | .error e => pure (.error ⟨e.message, []⟩)
    | .ok () => pure (.ok ⟨b⟩)

/-- The `i`-th packet.  Its number has to fit the overflow counter. -/
def syntheticPacketAt (k : Kind) (capacity : Int32) (source : Int16) (i : Nat) :
    Reported (Except Failure (Packet k)) :=
  if i < 0x80000000 then syntheticPacket k capacity source (Int32.ofNat i)
  else pure (.error ⟨"Too many packets", ["out of range integral type conversion attempted"]⟩)

/-- Writes `n` packets from the `i`-th on, until one fails. -/
def writeSynthetic (k : Kind) (capacity : Int32) (source : Int16) (i : Nat) (w : PacketWriter) :
    Nat → Reported (Except Failure Unit × PacketWriter)
  | 0 => pure (.ok (), w)
  | n + 1 => do
    match ← syntheticPacketAt k capacity source i with
    | .error f => pure (.error f, w)
    | .ok p =>
      match w.writePacket ⟨k, p⟩ with
      | (.error e, w) =>
        pure (.error ⟨"Failed to write packet", outputCauses (.io e)⟩, w)
      | (.ok (), w) => writeSynthetic k capacity source (i + 1) w n

/-- Flushes after the last packet, if none has failed. -/
def finishSynthetic (result : Except Failure Unit) (w : PacketWriter) :
    Except Failure Unit × PacketWriter :=
  match result with
  | .error f => (.error f, w)
  | .ok () =>
    match w.flush with
    | (.error e, w) => (.error ⟨"Failed to write packet", outputCauses (.io e)⟩, w)
    | (.ok (), w) => (.ok (), w)

/-- Writes a file of made-up packets. -/
def synth (output : String) (k : Kind) (packets : Nat) (capacity : Int32) (source : Int16)
    (threshold : Severity) (s : Storage) : Outcome :=
  match s.create output with
  | .error e => .failed "" "" ⟨"Failed to create " ++ Text.quoted output, [e.message]⟩ s
  | .ok (place, s) =>
    let run := writeSynthetic k capacity source 0 (.empty none) packets
    let (result, w) := finishSynthetic run.value.1 run.value.2
    let s := s.put place w.close
    let stderr := reportLines (Report.emitted threshold run.reports)
    match result with
    | .ok () => ⟨0, "", stderr, s⟩
    | .error f => .failed "" stderr f s

end EventPackets.CommandLine
