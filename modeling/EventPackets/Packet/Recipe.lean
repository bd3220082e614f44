import EventPackets.Packet.Any
import EventPackets.Packet.Producer

/-!
# Recipes

A packet described by the events it shall hold, slot by slot from the first.

## Main definitions

* `Recipe` : the description.
* `Recipe.build` : the packet, or the first refusal on the way to it.
-/

namespace EventPackets

/-- An event to be put into a slot. -/
structure EventRecipe (k : Kind) where
  /-- the changes to its data -/
  writes : List k.Write
  timestamp : Int32
  /-- whether it stays valid -/
  valid : Bool

/-- A packet described by its header and its events. -/
structure Recipe (k : Kind) where
  capacity : Int32
  source : Int16
  overflow : Int32
  events : List (EventRecipe k)

/-- Puts an event into slot `i`. -/
def EventRecipe.fill {k : Kind} (e : EventRecipe k) (i : Nat) : Edit Unit := do
  e.writes.forM fun w => modify (k.write w (Slot.start k i))
  Slot.setTimestamp k i e.timestamp
  Slot.validate k i
  unless e.valid do
    Slot.invalidate k i

/-- Puts events into the slots from `i` on. -/
def EventRecipe.fillAll {k : Kind} (i : Nat) : List (EventRecipe k) → Edit Unit
  | [] => pure ()
  | e :: es => do
    e.fill i
    fillAll (i + 1) es

/-- The packet that a recipe describes, or the first refusal on the way to it. -/
def Recipe.build {k : Kind} (r : Recipe k) : Reported (Except PacketError (Packet k)) := do
  match ← Packet.allocate k r.capacity r.source r.overflow with
  | .error e => pure (.error e)
  | .ok p =>
    let (result, b) ← (EventRecipe.fillAll 0 r.events).on p.bytes
    pure (result.map fun _ => ⟨b⟩)

end EventPackets
