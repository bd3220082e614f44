import EventPackets.Diagnostics.Report
import EventPackets.Packet.Error

/-!
# Edits

An edit works on the bytes of a buffer, may be refused, and raises reports.  A refused edit does
not take back what it has already written or reported; that the edits of this library have
written nothing by then is a fact about each of them.

## Main definitions

* `Edit` : the monad of edits.
* `Edit.on` : an edit carried out on a buffer.
* `Edit.refuse` : a refusal with the critical report that belongs to it.
-/

namespace EventPackets

/-- A computation on the bytes of a buffer that may be refused and raises reports. -/
abbrev Edit := ExceptT PacketError (StateT Bytes Reported)

namespace Edit

/-- Carries out an edit on a buffer: its result and the bytes afterwards, with the reports. -/
def on {α : Type} (e : Edit α) (b : Bytes) : Reported (Except PacketError α × Bytes) :=
  (ExceptT.run e).run b

/-- Refuses for the given cause, after a critical report from a subsystem. -/
def refuse {α : Type} (subsystem message : String) (cause : PacketError) : Edit α := do
  liftM (Reported.raise ⟨.critical, subsystem, message⟩)
  throw cause

@[simp]
theorem on_refuse {α : Type} (subsystem message : String) (cause : PacketError) (b : Bytes) :
    (refuse (α := α) subsystem message cause).on b
      = ⟨(.error cause, b), [⟨.critical, subsystem, message⟩]⟩ := rfl

@[simp]
theorem on_modify (f : Bytes → Bytes) (b : Bytes) :
    (modify f : Edit Unit).on b = ⟨(.ok (), f b), []⟩ := rfl

@[simp]
theorem on_get (b : Bytes) : (get : Edit Bytes).on b = ⟨(.ok b, b), []⟩ := rfl

/-- An edit after one that is carried out. -/
theorem on_bind_of_ok {α β : Type} {e : Edit α} {f : α → Edit β} {b b' : Bytes} {a : α}
    {rs : List Report} (h : e.on b = ⟨(.ok a, b'), rs⟩) :
    (e >>= f).on b = ⟨((f a).on b').value, rs ++ ((f a).on b').reports⟩ := by
  simp only [on] at h ⊢
  simp only [ExceptT.run_bind, StateT.run_bind, h]
  rfl

theorem value_on_bind_of_ok {α β : Type} {e : Edit α} {f : α → Edit β} {b b' : Bytes} {a : α}
    (h : (e.on b).value = (.ok a, b')) : ((e >>= f).on b).value = ((f a).on b').value := by
  rw [on_bind_of_ok (Reported.ext h rfl)]

end Edit

end EventPackets
