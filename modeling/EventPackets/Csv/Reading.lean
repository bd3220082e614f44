import EventPackets.Csv.Table
import EventPackets.Number.DecimalText

/-!
# Reading tables

A table is read by the names in its head: the cell of a row in a column is the one that stands
where the name of the column stands.  So the order of the columns has no meaning to a reader.

## Main definitions

* `Table.ofText?` : the head and the rows of a text.
* `Table.cell?` : the cell of a row in a column.
* `PolarityRow`, `Imu9Row` : what a table says about an event.
* `PolarityRow.ofCells?`, `Imu9Row.ofCells?` : the same, read from the cells of a row.
-/

namespace EventPackets

/-- A table: the names of its columns, and the cells of its rows. -/
structure Table where
  head : List String
  rows : List (List String)
  deriving DecidableEq

namespace Table

/-- The lines of a text, each of which is ended by a line break. -/
def lines? (cs : List Char) : Option (List (List Char)) :=
  let parts := Text.splitAt '\n' cs
  if parts.getLast? = some [] then some parts.dropLast else none

/-- The cells of a line. -/
def cells (line : List Char) : List String :=
  (Text.splitAt ',' line).map String.ofList

/-- The table that a text holds: one line for the head and one for each row. -/
def ofText? (s : String) : Option Table :=
  match lines? s.toList with
  | some (head :: rows) => some ⟨cells head, rows.map cells⟩
  | _ => none

/-- The cell of a row in the column with a name. -/
def cell? (head row : List String) (name : String) : Option String :=
  (head.zip row).lookup name

/-- The natural number in a column. -/
def natural? (head row : List String) (name : String) : Option Nat :=
  (cell? head row name).bind fun s => Digits.toNat? s.toList

/-- The integer in a column. -/
def integer? (head row : List String) (name : String) : Option Int :=
  (cell? head row name).bind fun s => Digits.integer? s.toList

/-- The bit in a column. -/
def bit? (head row : List String) (name : String) : Option Bool :=
  match cell? head row name with
  | some "0" => some false
  | some "1" => some true
  | _ => none

/-- The binary32 number in a column. -/
def binary32? (head row : List String) (name : String) : Option Binary32 :=
  (cell? head row name).bind fun s => Binary32.ofChars? s.toList

end Table

/-- What a table says about a polarity event. -/
structure PolarityRow where
  x : Nat
  y : Nat
  on : Bool
  timestamp64 : Int
  /-- whether the event is valid, if the table tells -/
  valid : Option Bool
  deriving DecidableEq

namespace PolarityRow

/-- What a table with the given selection says about an event. -/
def ofEvent (s : Selection) (e : Event .polarity) : PolarityRow where
  x := e.data.x.toNat
  y := e.data.y.toNat
  on := e.data.on
  timestamp64 := e.timestamp64.toInt
  valid := if s = .all then some e.valid else none

/-- The same, read from the cells of a row. -/
def ofCells? (head row : List String) : Option PolarityRow := do
  let x ← Table.natural? head row "x"
  let y ← Table.natural? head row "y"
  let on ← Table.bit? head row "polarity"
  let timestamp64 ← Table.integer? head row "timestamp"
  return ⟨x, y, on, timestamp64, Table.bit? head row "valid"⟩

end PolarityRow

/-- What a table says about an IMU9 event. -/
structure Imu9Row where
  timestamp64 : Int
  data : Imu9Sample
  /-- whether the event is valid, if the table tells -/
  valid : Option Bool
  deriving DecidableEq

namespace Imu9Row

/-- What a table with the given selection says about an event.  All NaNs are alike in a table. -/
def ofEvent (s : Selection) (e : Event .imu9) : Imu9Row where
  timestamp64 := e.timestamp64.toInt
  data := .of fun m => if (e.data.get m).isNaN then Binary32.nan else e.data.get m
  valid := if s = .all then some e.valid else none

/-- The same, read from the cells of a row. -/
def ofCells? (head row : List String) : Option Imu9Row := do
  let timestamp64 ← Table.integer? head row "timestamp"
  let values ← Measurement.all.mapM fun m => Table.binary32? head row m.name
  return ⟨timestamp64, .of fun m => values.getD m.rank Binary32.nan, Table.bit? head row "valid"⟩

end Imu9Row

end EventPackets
