import EventPackets.CommandLine.Outcome
import EventPackets.PacketFile
import EventPackets.Text.Quoted

/-!
# Dumping a packet file

The events in a packet file as tables: polarity events go to the output path, IMU9 events to a
path of their own.  Without such a path they go to the output path, if there are no polarity
events to write there.

## Main definitions

* `DumpPlan` : which tables are written where.
* `dump` : the command.
-/

namespace EventPackets.CommandLine

/-- Which tables a dump writes, and where. -/
structure DumpPlan where
  polarity : Option String
  imu9 : Option String

/-- Whether some packet is of kind `k`. -/
def hasKind (k : Kind) (ps : List AnyPacket) : Bool :=
  ps.any fun p => p.kind == k

/-- The tables for packets, given the output path and the path for IMU9 events. -/
def DumpPlan.ofPackets (output : String) (imu9 : Option String) (ps : List AnyPacket) :
    DumpPlan where
  polarity := if hasKind .polarity ps || !hasKind .imu9 ps then some output else none
  imu9 :=
    match imu9 with
    | some path => some path
    | none => if !hasKind .polarity ps && hasKind .imu9 ps then some output else none

/-- Writes a table if there is a path for it; the result is the number of its rows. -/
def exportTo {k : Kind} (path : Option String) (f : TableFormat k) (sel : Selection)
    (ps : List AnyPacket) (s : Storage) : Except OutputError Nat × Storage :=
  match path with
  | none => (.ok 0, s)
  | some path => s.exportTable path f sel ps

/-- The lines of the summary of a dump.  The last one, with the time that the dump has taken, is
left out: it is not the same from run to run. -/
def summaryLines (input output : String) (imu9 : Option String)
    (packets polarityRows imu9Rows : Nat) : List String :=
  ["", "Summary:", "  Input:        " ++ Text.quoted input,
      "  Output:       " ++ Text.quoted output] ++
    (imu9.map fun path => "  IMU9 output:  " ++ Text.quoted path).toList ++
    [s!"  Packets:      {packets}", s!"  Polarity:     {polarityRows}",
      s!"  IMU9:         {imu9Rows}"]

/-- The summary of a dump. -/
def dumpSummary (input output : String) (imu9 : Option String)
    (packets polarityRows imu9Rows : Nat) : String :=
  String.join ((summaryLines input output imu9 packets polarityRows imu9Rows).map (· ++ "\n"))

/-- Writes the tables of a plan; the results are the numbers of their rows. -/
def writeTables (plan : DumpPlan) (order : FieldOrder) (sel : Selection) (ps : List AnyPacket)
    (s : Storage) : Except Failure (Nat × Nat) × Storage :=
  match exportTo plan.polarity (.polarity order) sel ps s with
  | (.error e, s) => (.error ⟨"Failed to write polarity CSV", outputCauses e⟩, s)
  | (.ok polarityRows, s) =>
    match exportTo plan.imu9 .imu9 sel ps s with
    | (.error e, s) => (.error ⟨"Failed to write IMU9 CSV", outputCauses e⟩, s)
    | (.ok imu9Rows, s) => (.ok (polarityRows, imu9Rows), s)

/-- Exports the events in a file as tables. -/
def dump (input output format : String) (imu9 : Option String) (all quiet : Bool)
    (s : Storage) : Outcome :=
  match FieldOrder.parse format with
  | .error fault =>
    .failed "" ""
      ⟨"Invalid field format. Use comma-separated: x,y,p,t",
        outputCauses (.invalidFormat fault)⟩ s
  | .ok order =>
    match s.readPackets input with
    | .error e => .failed "" "" ⟨"Failed to read packet file", readCauses e⟩ s
    | .ok ps =>
      let sel := if all then Selection.all else Selection.valid
      match writeTables (.ofPackets output imu9 ps) order sel ps s with
      | (.error f, s) => .failed "" "" f s
      | (.ok (polarityRows, imu9Rows), s) =>
        let summary :=
          if quiet then "" else dumpSummary input output imu9 ps.length polarityRows imu9Rows
        ⟨0, "", summary, s⟩

end EventPackets.CommandLine
