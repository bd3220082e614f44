import EventPackets.Diagnostics.Severity

/-!
# Reports

Operations of the codec report their misuse.  A report is raised whatever the threshold is; the
threshold decides afterwards which reports leave the program, so that it cannot influence what
an operation does.

## Main definitions

* `Report` : one diagnostic.
* `Reported` : a value together with the reports raised while it was computed.
* `Report.emitted` : the reports that a threshold lets through.
-/

namespace EventPackets

/-- A diagnostic: how severe it is, which part of the codec raises it, and what it says. -/
structure Report where
  severity : Severity
  subsystem : String
  message : String
  deriving DecidableEq

/-- The reports among `rs` that the threshold lets through, in order. -/
def Report.emitted (threshold : Severity) (rs : List Report) : List Report :=
  rs.filter fun r => r.severity.passes threshold

/-- The line in which a report leaves the program. -/
def Report.line (r : Report) : String :=
  s!"{r.severity.channel.name} {r.message} subsystem=\"{r.subsystem}\" severity=\"{r.severity.name}\""

/-- A value together with the reports raised while it was computed, oldest first. -/
structure Reported (α : Type) where
  value : α
  reports : List Report

namespace Reported

/-- A value computed without a report. -/
protected def pure {α : Type} (a : α) : Reported α :=
  ⟨a, []⟩

/-- One computation after another; the reports of both, in order. -/
protected def bind {α β : Type} (x : Reported α) (f : α → Reported β) : Reported β :=
  let y := f x.value
  ⟨y.value, x.reports ++ y.reports⟩

instance : Monad Reported where
  pure := Reported.pure
  bind := Reported.bind

/-- Raises one report. -/
def raise (r : Report) : Reported Unit :=
  ⟨(), [r]⟩

@[ext]
theorem ext {α : Type} {x y : Reported α} (hv : x.value = y.value)
    (hr : x.reports = y.reports) : x = y := by
  cases x
  cases y
  simp_all

@[simp]
theorem value_pure {α : Type} (a : α) : (pure a : Reported α).value = a := rfl

@[simp]
theorem value_bind {α β : Type} (x : Reported α) (f : α → Reported β) :
    (x >>= f).value = (f x.value).value := rfl

@[simp]
theorem reports_bind {α β : Type} (x : Reported α) (f : α → Reported β) :
    (x >>= f).reports = x.reports ++ (f x.value).reports := rfl

theorem reports_bind_pure {α β : Type} (x : Reported α) (f : α → β) :
    (x >>= fun a => pure (f a)).reports = x.reports :=
  List.append_nil _

end Reported

end EventPackets
