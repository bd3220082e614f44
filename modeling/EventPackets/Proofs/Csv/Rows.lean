import EventPackets.Csv.Writer
import EventPackets.Proofs.Stream.Delivery

/-!
# Rows of a table

A table writer in front of a sink without a limit writes every line it is given, and counts a row
for each.

## Main results

* `TableWriter.writeLines_eq_ok` : all lines are written and counted.
* `TableWriter.writePacket_eq_ok` : a packet gets a row for every exported event.
-/

namespace EventPackets.TableWriter

variable {k : Kind} {w : TableWriter k}

/-- Two writers of one table, the second with more bytes behind it. -/
structure Extends (w w' : TableWriter k) (b : Bytes) : Prop where
  unlimited : w'.target.Unlimited
  format_eq : w'.format = w.format
  selection_eq : w'.selection = w.selection
  accepted_eq : w'.target.accepted = w.target.accepted ++ b

theorem writeLine_eq_ok (h : w.target.Unlimited) (line : String) :
    ∃ w', w.writeLine line = (.ok (), w') ∧ w.Extends w' (textBytes line) := by
  obtain ⟨t, ht, hu, haccepted⟩ := h.write_eq_ok (textBytes line)
  refine ⟨{ w with target := t }, ?_, ⟨hu, rfl, rfl, haccepted⟩⟩
  rw [writeLine, ht]

/-- All lines are written and counted. -/
theorem writeLines_eq_ok (h : w.target.Unlimited) (n : Nat) (lines : List String) :
    ∃ w', w.writeLines n lines = (.ok (n + lines.length), w') ∧
      w.Extends w' (Bytes.concat (lines.map textBytes)) := by
  induction lines generalizing w n with
  | nil => exact ⟨w, rfl, ⟨h, rfl, rfl, by simp⟩⟩
  | cons line lines ih =>
    obtain ⟨w₁, hline, h₁⟩ := writeLine_eq_ok h line
    obtain ⟨w', hlines, h'⟩ := ih h₁.unlimited (n + 1)
    refine ⟨w', ?_, ⟨h'.unlimited, h'.format_eq.trans h₁.format_eq,
      h'.selection_eq.trans h₁.selection_eq, ?_⟩⟩
    · rw [writeLines, hline]
      dsimp only
      rw [hlines, List.length_cons, Nat.add_assoc, Nat.add_comm 1]
    · rw [h'.accepted_eq, h₁.accepted_eq, List.map_cons, Bytes.concat_cons, Array.append_assoc]

/-- A packet gets a row for every exported event. -/
theorem writePacket_eq_ok (h : w.target.Unlimited) (p : Packet k) :
    ∃ w', w.writePacket p = (.ok (w.selection.events p).length, w') ∧
      w.Extends w'
        (Bytes.concat ((w.selection.events p).map fun e =>
          textBytes (w.format.eventLine w.selection e))) := by
  obtain ⟨w', hlines, h'⟩ := writeLines_eq_ok h 0 (w.format.packetLines w.selection p)
  rw [TableFormat.packetLines, List.map_map] at h'
  refine ⟨w', ?_, h'⟩
  rw [writePacket, hlines, TableFormat.packetLines, List.length_map, Nat.zero_add]

end EventPackets.TableWriter
