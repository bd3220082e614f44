import EventPackets.Packet.Generic
import EventPackets.Packet.Producer

/-!
# Sessions

A session is a packet in use: calls that change it, look-ups of its events, and changes of the
threshold that decides which reports are emitted.

## Main definitions

* `Session` : a packet and the threshold in force.
* `Session.Step` : what can happen in a session.
* `Session.Answer` : what a step answers.
* `Session.step`, `Session.run` : the course of a session, with the reports emitted at each step.
-/

namespace EventPackets

/-- A packet in use and the threshold in force. -/
structure Session (k : Kind) where
  threshold : Severity
  packet : Packet k

namespace Session

variable {k : Kind}

/-- What can happen in a session. -/
inductive Step (k : Kind)
  | call (c : Call k)
  | event (index : Int32)
  | genericEvent (index : Int32)
  | setThreshold (s : Severity)

/-- What a step answers. -/
inductive Answer (k : Kind)
  | reply (r : Reply)
  | event (e : Option (Event k))
  | genericEvent (e : Option GenericEvent)
  | done

/-- What a step answers and the packet afterwards, with all reports that it raises. -/
def Step.perform (s : Step k) (p : Packet k) : Reported (Answer k × Packet k) :=
  match s with
  | call c => do
    let (reply, p) ← c.perform p
    pure (.reply reply, p)
  | event index => do
    let e ← p.event? index
    pure (.event e, p)
  | genericEvent index => do
    let e ← GenericEvent.get? p.bytes index
    pure (.genericEvent e, p)
  | setThreshold _ => pure (.done, p)

/-- The threshold in force after a step. -/
def Step.threshold (s : Step k) (t : Severity) : Severity :=
  match s with
  | setThreshold t' => t'
  | _ => t

/-- One step of a session: its answer, the reports emitted, and the session afterwards. -/
def step (s : Session k) (x : Step k) : Answer k × List Report × Session k :=
  let r := x.perform s.packet
  (r.value.1, Report.emitted s.threshold r.reports, ⟨x.threshold s.threshold, r.value.2⟩)

/-- A session from its first step to its last: the answers, with the reports emitted at each
step, and the session afterwards. -/
def run (s : Session k) : List (Step k) → List (Answer k × List Report) × Session k
  | [] => ([], s)
  | x :: xs =>
    let (answer, emitted, s) := s.step x
    let (rest, s) := s.run xs
    ((answer, emitted) :: rest, s)

end Session

end EventPackets
