import EventPackets.Header.Field
import EventPackets.Packet.Edit

/-!
# Changing a header

A header field takes no negative value; an attempt is reported and refused.

Any buffer that starts with a whole header can be read and written field by field, whatever else
it holds.

## Main definitions

* `Header.set` : puts a value into a field, unless it is negative.
* `Header.View` : a buffer that starts with a whole header.
* `Header.View.ofBytes?` : the view of a buffer, if there is one.
* `Header.Assignment` : a field and a value for it.
* `Header.View.set`, `Header.View.setAll` : one assignment, and one after another.

## Main results

* `Header.on_set_of_neg`, `Header.on_set_of_nonneg` : what a setter does in either case.
* `Header.size_on_set` : a setter keeps the size of the buffer.
-/

namespace EventPackets.Header

/-- The part of the codec that reports misuse of a header. -/
def subsystem : String := "EventPacket Header"

/-- Puts a value into a field, unless it is negative. -/
def set (f : Field) (v : f.Value) : Edit Unit :=
  if f.width.toInt v < 0 then
    Edit.refuse subsystem s!"Called {f.setter}() with negative value!"
      (.negativeValue f.setter (f.width.toInt v))
  else modify (put f v)

theorem on_set_of_neg {f : Field} {v : f.Value} (h : f.width.toInt v < 0) (b : Bytes) :
    (set f v).on b =
      ⟨(.error (.negativeValue f.setter (f.width.toInt v)), b),
        [⟨.critical, subsystem, s!"Called {f.setter}() with negative value!"⟩]⟩ := by
  rw [set, if_pos h, Edit.on_refuse]

theorem on_set_of_nonneg {f : Field} {v : f.Value} (h : 0 ≤ f.width.toInt v) (b : Bytes) :
    (set f v).on b = ⟨(.ok (), put f v b), []⟩ := by
  rw [set, if_neg (by omega), Edit.on_modify]

/-- A field and a value for it. -/
structure Assignment where
  field : Field
  value : field.Value

/-- A setter keeps the size of the buffer, whether it takes its value or refuses it. -/
theorem size_on_set (f : Field) (v : f.Value) (b : Bytes) :
    ((set f v).on b).value.2.size = b.size := by
  by_cases h : 0 ≤ f.width.toInt v
  · rw [on_set_of_nonneg h]
    exact size_put f v b
  · rw [on_set_of_neg (Int.not_le.mp h)]

/-- A buffer that starts with a whole header. -/
structure View where
  bytes : Bytes
  size_le : size ≤ bytes.size

namespace View

/-- The view of a buffer, if it is long enough for a header. -/
def ofBytes? (b : Bytes) : Option View :=
  if h : size ≤ b.size then some ⟨b, h⟩ else none

/-- The value of a field. -/
def get (w : View) (f : Field) : f.Value :=
  Header.get f w.bytes

/-- The bytes of the packet that the header describes, if it describes one. -/
def packetSize? (w : View) : Option Nat :=
  Header.packetSize? w.bytes

/-- The answer to an assignment and the view afterwards. -/
def set (w : View) (a : Assignment) : Reported (Except PacketError Unit × View) :=
  let r := (Header.set a.field a.value).on w.bytes
  ⟨(r.value.1, ⟨r.value.2, (size_on_set a.field a.value w.bytes).symm ▸ w.size_le⟩), r.reports⟩

/-- The answers to a sequence of assignments and the view afterwards. -/
def setAll (w : View) : List Assignment → Reported (List (Except PacketError Unit) × View)
  | [] => pure ([], w)
  | a :: as => do
    let (answer, w) ← w.set a
    let (answers, w) ← w.setAll as
    pure (answer :: answers, w)

end View

end EventPackets.Header
