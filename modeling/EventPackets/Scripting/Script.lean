import EventPackets.PacketFile
import EventPackets.Scripting.Object

/-!
# Scripts

A script makes packet objects, gives them names, and uses them.

## Main definitions

* `Step` : a step of a script.
* `Names` : the packets that have names.
* `Step.perform` : what a step answers, and the names afterwards.
* `runScript` : the answers of a script.
-/

namespace EventPackets.Scripting

/-- A step of a script. -/
inductive Step
  | new (name : String) (k : Kind) (args : Arguments)
  | ofBytes (name : String) (k : Kind) (b : Bytes)
  /-- reads the file at a path and names its packets after a stem, with their numbers -/
  | readPackets (stem : String) (s : Storage) (path : String)
  | setLogLevel (v : Value)
  | call (name method : String) (args : Arguments)
  | getAttribute (name field : String)
  | setAttribute (name field : String) (v : Value)
  | length (name : String)
  | describe (name : String)

/-- The packets that have names, the latest first. -/
abbrev Names := List (String × AnyPacket)

/-- Gives a name to a packet object and answers with the text that represents it. -/
def bind (names : Names) (name : String) : Except CallError AnyPacket → Answer × Names
  | .ok p => (.text (describeObject p), (name, p) :: names)
  | .error e => (.failed e, names)

/-- Names packets after a stem, with their numbers from `i` on. -/
def bindAll (names : Names) (stem : String) (i : Nat) : List AnyPacket → Names
  | [] => names
  | p :: ps => bindAll ((stem ++ toString i, p) :: names) stem (i + 1) ps

/-- A read error as a call error. -/
def CallError.ofRead : ReadError → CallError
  | .io cause => .unreadable cause
  | e => .read e

/-- Uses the packet with a name, which may be changed by that. -/
def update (names : Names) (name : String) (use : AnyPacket → Answer × AnyPacket) :
    Answer × Names :=
  match names.lookup name with
  | some p =>
    let (answer, p) := use p
    (answer, (name, p) :: names)
  | none => (.failed .unbound, names)

/-- Looks at the packet with a name. -/
def inspect (names : Names) (name : String) (use : AnyPacket → Answer) : Answer × Names :=
  update names name fun p => (use p, p)

/-- What a step answers, and the names afterwards. -/
def Step.perform (names : Names) : Step → Answer × Names
  | new name k args => bind names name (newObject k args)
  | ofBytes name k b => bind names name (objectOfBytes k b)
  | readPackets stem s path =>
    match s.readPackets path with
    | .ok ps => (.packets ps, bindAll names stem 0 ps)
    | .error e => (.failed (.ofRead e), names)
  | setLogLevel v =>
    match v.toText with
    | .error e => (.failed e, names)
    | .ok s =>
      match Severity.parse s with
      | .ok _ => (.done, names)
      | .error e => (.failed (.severity e), names)
  | call name method args => update names name fun p => callMethod p method args
  | getAttribute name field =>
    inspect names name fun p => Scripting.getAttribute p field
  | setAttribute name field v =>
    update names name fun p => Scripting.setAttribute p field v
  | length name => inspect names name fun p => .int (Scripting.length p)
  | describe name => inspect names name fun p => .text (describeObject p)

/-- The answers of a script. -/
def runScript (names : Names) : List Step → List Answer
  | [] => []
  | s :: ss =>
    let (answer, names) := s.perform names
    answer :: runScript names ss

end EventPackets.Scripting
