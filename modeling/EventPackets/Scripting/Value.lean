import EventPackets.Diagnostics.Severity
import EventPackets.Number.Binary32
import EventPackets.Stream.Reader

/-!
# Values of a scripting language

Packets can be used from a scripting language, whose values carry their types with them.  A call
passes its arguments by name, and each of them is converted to the type that its parameter needs.

## Main definitions

* `Value` : the values that can be passed.
* `CallError` : why a call fails.
* `Value.toInt32`, `Value.toBinary32`, and so on : conversions.
* `Arguments.check` : whether arguments fit the names of the parameters.
-/

namespace EventPackets.Scripting

/-- A value that can be passed to a call. -/
inductive Value
  | null
  | bool (b : Bool)
  | int (n : Int)
  /-- a binary64 number, by its bits -/
  | float (bits : UInt64)
  | text (s : String)
  | list (vs : List Value)

/-- Why a call fails. -/
inductive CallError
  /-- an argument has the wrong type, is missing, or is not expected -/
  | argumentType
  /-- a number is outside the range of its parameter -/
  | argumentRange
  /-- a sequence has the wrong length -/
  | argumentLength (expected got : Nat)
  /-- there is no such attribute, or it cannot be set -/
  | noAttribute
  /-- no packet has the name -/
  | unbound
  /-- the packet has no slot with the index -/
  | noSlot (index capacity : Int32)
  /-- the packet refuses -/
  | packet (cause : PacketError)
  /-- what was read is no sequence of packets -/
  | read (cause : ReadError)
  /-- a file cannot be read -/
  | unreadable (cause : IoError)
  /-- a text names no severity -/
  | severity (cause : Severity.ParseError)

/-- The wording of a call error.  Errors of arguments have none of their own. -/
def CallError.message? : CallError → Option String
  | argumentType => none
  | argumentRange => none
  | argumentLength expected got =>
    some s!"expected a sequence of length {expected} (got {got})"
  | noAttribute => none
  | unbound => none
  | noSlot index capacity => some s!"event index {index} out of range for capacity {capacity}"
  | packet cause => some cause.message
  | read cause => some cause.message
  | unreadable cause => some ("Failed to read file: " ++ cause.message)
  | severity cause => some cause.message

namespace Value

/-- A whole number within bounds.  A truth value counts as a number. -/
def toInt (low high : Int) : Value → Except CallError Int
  | int n => if low ≤ n ∧ n ≤ high then .ok n else .error .argumentRange
  | bool b => .ok (if b then 1 else 0)
  | _ => .error .argumentType

/-- A signed number of 32 bits. -/
def toInt32 (v : Value) : Except CallError Int32 :=
  (v.toInt Int32.minValue.toInt Int32.maxValue.toInt).map Int32.ofInt

/-- A signed number of 16 bits. -/
def toInt16 (v : Value) : Except CallError Int16 :=
  (v.toInt Int16.minValue.toInt Int16.maxValue.toInt).map Int16.ofInt

/-- An unsigned number of 16 bits. -/
def toUInt16 (v : Value) : Except CallError UInt16 :=
  (v.toInt 0 0xFFFF).map fun n => UInt16.ofNat n.toNat

/-- A truth value, for which a number does not count. -/
def toBool : Value → Except CallError Bool
  | bool b => .ok b
  | _ => .error .argumentType

/-- A text. -/
def toText : Value → Except CallError String
  | text s => .ok s
  | _ => .error .argumentType

/-- The binary32 number nearest to a number; whole numbers become binary64 numbers first. -/
def toBinary32 : Value → Except CallError Binary32
  | float bits => .ok (.ofBinary64 bits)
  | int n =>
    match binary64OfInt? n with
    | some bits => .ok (.ofBinary64 bits)
    | none => .error .argumentRange
  | bool b => .ok (.ofBinary64 (if b then 0x3FF0000000000000 else 0))
  | _ => .error .argumentType

/-- The elements of a sequence; those of a text are its characters. -/
def elements : Value → Except CallError (List Value)
  | list vs => .ok vs
  | text s => .ok (s.toList.map fun c => text (String.singleton c))
  | _ => .error .argumentType

/-- Three binary32 numbers. -/
def toTriple (v : Value) : Except CallError (Binary32 × Binary32 × Binary32) := do
  match ← v.elements with
  | [x, y, z] => do
    let x ← x.toBinary32
    let y ← y.toBinary32
    let z ← z.toBinary32
    .ok (x, y, z)
  | vs => .error (.argumentLength 3 vs.length)

end Value

/-- Arguments by name. -/
abbrev Arguments := List (String × Value)

namespace Arguments

/-- Whether arguments fit the names of the parameters: none is unknown and no required one is
missing. -/
def check (args : Arguments) (required optional : List String) : Except CallError Unit :=
  if args.all (fun a => (required ++ optional).contains a.1) &&
      required.all (fun p => (args.lookup p).isSome) then .ok ()
  else .error .argumentType

/-- The argument for a parameter, converted. -/
def get {α : Type} (args : Arguments) (name : String) (convert : Value → Except CallError α) :
    Except CallError α :=
  match args.lookup name with
  | some v => convert v
  | none => .error .argumentType

/-- The argument for a parameter, converted, or the default of the parameter. -/
def getD {α : Type} (args : Arguments) (name : String) (convert : Value → Except CallError α)
    (default : α) : Except CallError α :=
  match args.lookup name with
  | some v => convert v
  | none => .ok default

end Arguments

end EventPackets.Scripting
