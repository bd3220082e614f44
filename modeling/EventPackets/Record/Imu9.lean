import EventPackets.Bytes

/-!
# IMU9 records

An IMU9 event holds acceleration, angular rate, temperature and magnetic field, sampled
together.  The record has 48 bytes: an info word whose bit 0 is the validity mark, the
timestamp, and ten binary32 numbers.  The numbers travel as bit patterns, so that every value,
with any NaN payload, comes out as it went in.

## Main definitions

* `Binary32` : a binary32 number as its bit pattern.
* `Measurement` : the ten measurements, in the order of the record.
* `Imu9Sample` : a value for each measurement.
* `Imu9Sample.read` : the sample of a record.
* `Imu9Write` : a change of one measurement, or of all at once.
-/

namespace EventPackets

/-- A binary32 number, given by its bit pattern. -/
structure Binary32 where
  bits : UInt32
  deriving DecidableEq

/-- One of the ten measurements of an IMU9 event: acceleration, angular rate, temperature and
magnetic field. -/
inductive Measurement
  | accelX
  | accelY
  | accelZ
  | gyroX
  | gyroY
  | gyroZ
  | temp
  | compX
  | compY
  | compZ
  deriving DecidableEq

namespace Measurement

/-- The measurements in the order of the record. -/
def all : List Measurement :=
  [accelX, accelY, accelZ, gyroX, gyroY, gyroZ, temp, compX, compY, compZ]

/-- The place of a measurement in that order. -/
def rank : Measurement → Nat
  | accelX => 0
  | accelY => 1
  | accelZ => 2
  | gyroX => 3
  | gyroY => 4
  | gyroZ => 5
  | temp => 6
  | compX => 7
  | compY => 8
  | compZ => 9

/-- The name of a measurement. -/
def name : Measurement → String
  | accelX => "accel_x"
  | accelY => "accel_y"
  | accelZ => "accel_z"
  | gyroX => "gyro_x"
  | gyroY => "gyro_y"
  | gyroZ => "gyro_z"
  | temp => "temp"
  | compX => "comp_x"
  | compY => "comp_y"
  | compZ => "comp_z"

/-- The measurement with a given name. -/
def ofName? (s : String) : Option Measurement :=
  all.find? fun m => m.name == s

/-- Where a measurement stands in a record. -/
def offset (m : Measurement) : Nat :=
  8 + 4 * m.rank

theorem mem_all (m : Measurement) : m ∈ all := by
  cases m <;> decide

theorem rank_lt (m : Measurement) : m.rank < 10 := by
  cases m <;> decide

theorem rank_injective {m n : Measurement} (h : m.rank = n.rank) : m = n := by
  cases m <;> cases n <;> simp_all [rank]

end Measurement

/-- A value for each of the ten measurements. -/
structure Imu9Sample where
  accelX : Binary32
  accelY : Binary32
  accelZ : Binary32
  gyroX : Binary32
  gyroY : Binary32
  gyroZ : Binary32
  temp : Binary32
  compX : Binary32
  compY : Binary32
  compZ : Binary32
  deriving DecidableEq

namespace Imu9Sample

/-- The sample with a value given for each measurement. -/
def of (f : Measurement → Binary32) : Imu9Sample where
  accelX := f .accelX
  accelY := f .accelY
  accelZ := f .accelZ
  gyroX := f .gyroX
  gyroY := f .gyroY
  gyroZ := f .gyroZ
  temp := f .temp
  compX := f .compX
  compY := f .compY
  compZ := f .compZ

/-- The value of a measurement in a sample. -/
def get (s : Imu9Sample) : Measurement → Binary32
  | .accelX => s.accelX
  | .accelY => s.accelY
  | .accelZ => s.accelZ
  | .gyroX => s.gyroX
  | .gyroY => s.gyroY
  | .gyroZ => s.gyroZ
  | .temp => s.temp
  | .compX => s.compX
  | .compY => s.compY
  | .compZ => s.compZ

/-- The values of a sample in the order of the record. -/
def values (s : Imu9Sample) : List Binary32 :=
  Measurement.all.map s.get

/-- The sample of the record that starts at byte `start`. -/
def read (b : Bytes) (start : Nat) : Imu9Sample :=
  .of fun m => ⟨b.word (start + m.offset)⟩

@[simp]
theorem get_of (f : Measurement → Binary32) (m : Measurement) : (of f).get m = f m := by
  cases m <;> rfl

theorem of_get (s : Imu9Sample) : of s.get = s := rfl

end Imu9Sample

/-- A change of one measurement of an IMU9 record, or of all of them. -/
inductive Imu9Write
  | measurement (m : Measurement) (v : Binary32)
  | sample (s : Imu9Sample)
  deriving DecidableEq

/-- The measurements that a change concerns, with their new values, in the order of writing. -/
def Imu9Write.entries : Imu9Write → List (Measurement × Binary32)
  | measurement m v => [(m, v)]
  | sample s => Measurement.all.map fun m => (m, s.get m)

/-- Makes the change in the record that starts at byte `start`. -/
def Imu9Write.apply (w : Imu9Write) (start : Nat) (b : Bytes) : Bytes :=
  w.entries.foldl (fun b e => b.setWord (start + e.1.offset) e.2.bits) b

end EventPackets
