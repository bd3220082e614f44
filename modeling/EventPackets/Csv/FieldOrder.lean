import EventPackets.Stream.Source
import EventPackets.Text.Lowercase
import EventPackets.Text.Basic

/-!
# Column orders

The columns of a table of polarity events stand in an order of the user's choice, written as a
list of the four column names between commas.

## Main definitions

* `Column` : the columns.
* `FieldOrder` : an order of the four columns.
* `FieldOrder.parse` : the order that a text describes.
* `FormatFault`, `OutputError` : why there is none, and why output fails in general.
-/

namespace EventPackets

/-- A column of a table of polarity events. -/
inductive Column
  | x
  | y
  | polarity
  | timestamp
  deriving DecidableEq

namespace Column

/-- The name of a column in the head of a table. -/
def name : Column → String
  | x => "x"
  | y => "y"
  | polarity => "polarity"
  | timestamp => "timestamp"

/-- The column that a lower-case name or abbreviation stands for. -/
def ofAlias? (s : String) : Option Column :=
  match s with
  | "x" => some x
  | "y" => some y
  | "p" => some polarity
  | "pol" => some polarity
  | "polarity" => some polarity
  | "t" => some timestamp
  | "ts" => some timestamp
  | "timestamp" => some timestamp
  | _ => none

theorem ofAlias?_name (c : Column) : ofAlias? c.name = some c := by
  cases c <;> rfl

end Column

/-- Why a text describes no order of columns. -/
inductive FormatFault
  /-- a part names no column -/
  | unknownField (part : String)
  /-- a part names a column again -/
  | duplicateField (part : String)
  /-- columns are missing -/
  | fieldCount
  deriving DecidableEq

/-- The wording of a format fault. -/
def FormatFault.message : FormatFault → String
  | unknownField part => s!"Unknown field: {part}. Use x, y, p, t"
  | duplicateField part => s!"Duplicate field: {part}"
  | fieldCount => "Format must have exactly 4 fields: x, y, p, t"

/-- Why output fails. -/
inductive OutputError
  | io (cause : IoError)
  | invalidFormat (fault : FormatFault)
  deriving DecidableEq

/-- The wording of an output error. -/
def OutputError.message : OutputError → String
  | io cause => "IO error: " ++ cause.message
  | invalidFormat fault => "Invalid format: " ++ fault.message

/-- An order of the four columns. -/
structure FieldOrder where
  columns : List Column
  nodup : columns.Nodup
  length_eq : columns.length = 4

namespace FieldOrder

/-- Address, polarity, timestamp. -/
def xypt : FieldOrder := ⟨[.x, .y, .polarity, .timestamp], by decide, by decide⟩

/-- Timestamp, address, polarity. -/
def txyp : FieldOrder := ⟨[.timestamp, .x, .y, .polarity], by decide, by decide⟩

/-- The names of the columns, in order. -/
def names (o : FieldOrder) : List String :=
  o.columns.map Column.name

/-- The order as it stands in the head of a table. -/
def header (o : FieldOrder) : String :=
  ",".intercalate o.names

/-- A part of a description in the form in which names are compared. -/
def normalize (part : List Char) : String :=
  String.ofList (Text.lowercase (Text.trim part))

/-- The columns that the parts name, after the columns `seen`, or the first part at fault. -/
def columnsOf (seen : List Column) : List (List Char) → Except FormatFault (List Column)
  | [] => .ok seen
  | part :: parts =>
    match Column.ofAlias? (normalize part) with
    | none => .error (.unknownField (normalize part))
    | some c =>
      if c ∈ seen then .error (.duplicateField (normalize part))
      else columnsOf (seen ++ [c]) parts

/-- The order that a text describes: its parts between commas, without blanks around them and in
lower case, name every column once. -/
def parse (s : String) : Except FormatFault FieldOrder :=
  match columnsOf [] (Text.splitAt ',' s.toList) with
  | .error fault => .error fault
  | .ok cs =>
    if h : cs.Nodup ∧ cs.length = 4 then .ok ⟨cs, h.1, h.2⟩ else .error .fieldCount

end FieldOrder

end EventPackets
