import Mathlib.Data.List.Forall2
import EventPackets.Proofs.Csv.Recovery
import EventPackets.Proofs.Number.DecimalText

/-!
# Recovering measurements from a table

An IMU9 event is read back from its row of a table, each of its ten measurements bit by bit, unless
it is a NaN, of which a table does not keep the payload.

## Main definitions

* `Imu9Row.Tells` : what a row has to tell about an event.

## Main results

* `Imu9Row.ofCells?_rowCells` : an IMU9 event is read back from its row.
* `TableFormat.imu9_recovers` : IMU9 events are recovered from their table.
-/

namespace EventPackets

namespace Measurement

theorem ofName?_name (m : Measurement) : ofName? m.name = some m := by
  cases m <;> decide

theorem name_injective : Function.Injective name := by
  intro m n h
  have hname := congrArg ofName? h
  rwa [ofName?_name, ofName?_name, Option.some_inj] at hname

theorem name_ne_timestamp (m : Measurement) : m.name ≠ "timestamp" := by
  cases m <;> decide

end Measurement

theorem Table.binary32?_eq_of_cell? {head row : List String} {n : String} {x : Binary32}
    (h : cell? head row n = some x.text) :
    binary32? head row n = some (if x.isNaN then Binary32.nan else x) := by
  rw [binary32?, h, Option.bind_some, Binary32.text, String.toList_ofList, Binary32.ofChars?_chars]

namespace TableFormat

variable (s : Selection) (e : Event .imu9)

theorem cell?_timestamp :
    Table.cell? (imu9.headCells s) (imu9.rowCells s e) "timestamp" =
      some (toString e.timestamp64.toInt) :=
  regular_imu9.cell?_rowCells (Table.cell?_cons_self _) s

theorem cell?_measurementName (m : Measurement) :
    Table.cell? (imu9.headCells s) (imu9.rowCells s e) m.name = some (e.data.get m).text := by
  refine regular_imu9.cell?_rowCells ?_ s
  rw [imu9]
  dsimp only
  rw [Table.cell?_cons_of_ne m.name_ne_timestamp, Imu9Sample.values, List.map_map]
  exact Table.cell?_map Measurement.name_injective m.mem_all

end TableFormat

namespace Imu9Row

variable (s : Selection) (e : Event .imu9)

/-- An IMU9 event is read back from its row. -/
theorem ofCells?_rowCells :
    ofCells? (TableFormat.imu9.headCells s) (TableFormat.imu9.rowCells s e) =
      some (ofEvent s e) := by
  have htimestamp := Table.integer?_eq_of_cell? (TableFormat.cell?_timestamp s e)
  have hvalues : (fun m : Measurement => Table.binary32? (TableFormat.imu9.headCells s)
      (TableFormat.imu9.rowCells s e) m.name) = fun m =>
        some (if (e.data.get m).isNaN then Binary32.nan else e.data.get m) :=
    funext fun m => Table.binary32?_eq_of_cell? (TableFormat.cell?_measurementName s e m)
  have hvalid := TableFormat.regular_imu9.bit?_valid (by decide) s e
  rw [ofCells?, htimestamp, hvalues, hvalid]
  rfl

/-- What a row has to tell about an event: the timestamp, the validity in a table of all events,
and each measurement up to the payload of a NaN. -/
structure Tells (r : Imu9Row) (s : Selection) (e : Event .imu9) : Prop where
  timestamp64_eq : r.timestamp64 = e.timestamp64.toInt
  valid_eq : r.valid = if s = .all then some e.valid else none
  get_eq : ∀ m, (e.data.get m).isNaN = false → r.data.get m = e.data.get m
  isNaN_get : ∀ m, (e.data.get m).isNaN = true → (r.data.get m).isNaN = true

theorem tells_ofEvent : (ofEvent s e).Tells s e where
  timestamp64_eq := rfl
  valid_eq := rfl
  get_eq m h := by rw [ofEvent, Imu9Sample.get_of, h]; rfl
  isNaN_get m h := by rw [ofEvent, Imu9Sample.get_of, if_pos h]; decide

end Imu9Row

/-- IMU9 events are recovered from their table, each from the row at its place. -/
theorem TableFormat.imu9_recovers (s : Selection) (ps : List AnyPacket) :
    ∃ counts text table, imu9.Exports s ps counts text table ∧
      List.Forall₂ (fun row e => ∃ r, Imu9Row.ofCells? table.head row = some r ∧ r.Tells s e)
        table.rows (exportedEvents .imu9 s ps) := by
  refine ⟨_, _, _, regular_imu9.exports s ps, ?_⟩
  rw [List.forall₂_map_left_iff, List.forall₂_same]
  exact fun e _ => ⟨_, Imu9Row.ofCells?_rowCells s e, Imu9Row.tells_ofEvent s e⟩

end EventPackets
