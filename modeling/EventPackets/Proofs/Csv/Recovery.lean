import Mathlib.Algebra.GroupWithZero.Nat
import Mathlib.Data.List.GetD
import EventPackets.Proofs.Csv.Cells
import EventPackets.Proofs.Csv.Export

/-!
# Recovering events from a table

What a writer makes of a list of packets is a table with a row for each exported event, in the
order of the packets and of the slots, and the numbers it returns are the numbers of these rows.  A
polarity event is read back from its row, in whatever order the columns stand; two orders make a
difference to the order of the cells only.

## Main definitions

* `TableWriter.output` : what the calls on a fresh writer return, and what its sink receives.
* `TableFormat.Exports` : the rows and the text that a writer makes of a list of packets.
* `Table.arrange` : a table with its columns in another order.
* `FieldOrder.places` : where the columns of one order stand in another.

## Main results

* `TableFormat.Regular.exports` : what is written for a list of packets.
* `TableFormat.polarity_recovers` : polarity events are recovered from their table.
-/

namespace EventPackets

/-! ### Calls on a writer -/

/-- What the calls on a writer return, and what its sink has received. -/
structure TableOutput where
  head : Except IoError Unit
  /-- one answer for each packet -/
  packets : List (Except IoError Nat)
  flush : Except IoError Unit
  received : Bytes

/-- All calls are carried out, with the given numbers of rows, and a text is received. -/
def TableOutput.success (counts : List Nat) (text : String) : TableOutput :=
  ⟨.ok (), counts.map .ok, .ok (), text.toUTF8.data⟩

namespace TableWriter

variable {k : Kind} {w : TableWriter k}

/-- Writes packets by one call each. -/
def writeEach (w : TableWriter k) : List (Packet k) → List (Except IoError Nat) × TableWriter k
  | [] => ([], w)
  | p :: ps =>
    let (answer, w) := w.writePacket p
    let (answers, w) := w.writeEach ps
    (answer :: answers, w)

/-- A fresh writer before a sink without a limit writes the head and packets, and is flushed. -/
def output (f : TableFormat k) (s : Selection) (ps : List (Packet k)) : TableOutput :=
  let (head, w) := (empty f s none).writeHead
  let (answers, w) := w.writeEach ps
  let (flushed, w) := w.flush
  ⟨head, answers, flushed, w.target.sink.received⟩

/-- Every exported event gets a row, and each call counts its own. -/
theorem writeEach_eq_ok (h : w.target.Unlimited) (ps : List (Packet k)) :
    ∃ w', w.writeEach ps = (ps.map fun p => .ok (w.selection.events p).length, w') ∧
      w.Extends w' (textBytes (String.join
        ((ps.flatMap w.selection.events).map (w.format.eventLine w.selection)))) := by
  induction ps generalizing w with
  | nil => exact ⟨w, rfl, ⟨h, rfl, rfl, Array.append_empty.symm⟩⟩
  | cons p ps ih =>
    obtain ⟨w₁, hwrite, h₁⟩ := writePacket_eq_ok h p
    obtain ⟨w', hrest, h'⟩ := ih h₁.unlimited
    rw [h₁.selection_eq, h₁.format_eq] at h'
    rw [h₁.selection_eq] at hrest
    refine ⟨w', ?_, ?_⟩
    · rw [writeEach, hwrite]
      dsimp only
      rw [hrest, List.map_cons]
    · have htext := h₁.trans h'
      rwa [concat_textBytes, ← textBytes_append, ← String.join_append, ← List.map_append,
        ← List.flatMap_cons] at htext

/-- All calls are carried out, and the sink receives the text of the table. -/
theorem output_eq (f : TableFormat k) (s : Selection) (ps : List (Packet k)) :
    output f s ps =
      .success (ps.map fun p => (s.events p).length) (f.text s (ps.flatMap s.events)) := by
  obtain ⟨w₁, hhead, h₁⟩ := writeLine_eq_ok (w := empty f s none) .empty (f.headLine s)
  obtain ⟨w₂, hrows, h₂⟩ := writeEach_eq_ok h₁.unlimited ps
  obtain ⟨t, hflush, -, hreceived⟩ := h₂.unlimited.flush_eq_ok
  have hformat : w₁.format = f := h₁.format_eq
  have hselection : w₁.selection = s := h₁.selection_eq
  have hempty : (empty f s none).target.accepted = #[] := rfl
  rw [hselection] at hrows
  have htext := (h₁.trans h₂).accepted_eq
  rw [hselection, hformat, hempty, Array.empty_append, ← textBytes_append, ← String.join_cons]
    at htext
  have hwrite : (empty f s none).writeHead = (.ok (), w₁) := hhead
  have hflushed : w₂.flush = (.ok (), { w₂ with target := t }) := by rw [flush, hflush]
  rw [output, hwrite]
  dsimp only
  rw [hrows]
  dsimp only
  rw [hflushed, TableOutput.success, List.map_map]
  dsimp only
  rw [hreceived, htext]
  rfl

end TableWriter

/-! ### Tables of packets -/

namespace TableFormat

variable {k : Kind} {f : TableFormat k}

/-- What a writer makes of the packets of kind `k` in a list, by one call each or all at once: a
text with a table that has a row for each exported event, each with as many cells as the head. -/
structure Exports (f : TableFormat k) (s : Selection) (ps : List AnyPacket) (counts : List Nat)
    (text : String) (t : Table) : Prop where
  output_eq : TableWriter.output f s (ps.filterMap (AnyPacket.ofKind? k)) = .success counts text
  writeTable_eq : ∃ w, (TableWriter.empty f s none).writeTable ps = (.ok counts.sum, w) ∧
    w.close = text.toUTF8.data
  ofText?_eq : Table.ofText? text = some t
  length_rows : t.rows.length = (exportedEvents k s ps).length
  sum_counts : counts.sum = t.rows.length
  length_row : ∀ row ∈ t.rows, row.length = t.head.length

/-- What is written for a list of packets. -/
theorem Regular.exports (hf : f.Regular) (s : Selection) (ps : List AnyPacket) :
    f.Exports s ps ((ps.filterMap (AnyPacket.ofKind? k)).map fun p => (s.events p).length)
      (f.text s (exportedEvents k s ps))
      ⟨f.headCells s, (exportedEvents k s ps).map (f.rowCells s)⟩ := by
  have hsum : ((ps.filterMap (AnyPacket.ofKind? k)).map fun p => (s.events p).length).sum =
      (exportedEvents k s ps).length := by
    rw [exportedEvents_eq_flatMap, List.length_flatMap]
  have houtput := TableWriter.output_eq f s (ps.filterMap (AnyPacket.ofKind? k))
  rw [← exportedEvents_eq_flatMap] at houtput
  refine ⟨houtput, ?_, hf.ofText?_text s _, List.length_map _, ?_, ?_⟩
  · obtain ⟨w, hwrite, hclose⟩ :=
      TableWriter.writeTable_eq_ok (w := .empty f s none) .empty ps
    have hempty : (TableWriter.empty f s none).target.accepted = #[] := rfl
    rw [hempty, Array.empty_append] at hclose
    exact ⟨w, by rw [hsum]; exact hwrite, hclose⟩
  · rw [hsum, List.length_map]
  · exact List.forall_mem_map.mpr fun e _ => hf.length_rowCells s e

end TableFormat

/-! ### Orders of the columns -/

/-- A table whose columns are those at the given places. -/
def Table.arrange (places : List Nat) (t : Table) : Table where
  head := places.map fun i => t.head.getD i ""
  rows := t.rows.map fun row => places.map fun i => row.getD i ""

namespace FieldOrder

variable (o o' : FieldOrder)

/-- Where the columns of a table in the order `o'` stand in one in the order `o`.  A column for the
validity is the last one in both. -/
def places (s : Selection) : List Nat :=
  (o'.columns.map fun c => o.columns.idxOf c) ++ if s = .all then [4] else []

theorem map_idxOf_columns : (o.columns.map fun c => o.columns.idxOf c) = List.range 4 := by
  refine List.ext_getElem (by rw [List.length_map, o.length_eq, List.length_range]) ?_
  intro i hi _
  rw [List.getElem_map, List.getElem_range, o.nodup.idxOf_getElem]

/-- Every column of one table is a column of the other, at one place. -/
theorem places_perm (s : Selection) :
    (o.places o' s).Perm (List.range ((TableFormat.polarity o).headCells s).length) := by
  have hcolumns := (o'.columns_perm.trans o.columns_perm.symm).map fun c => o.columns.idxOf c
  rw [map_idxOf_columns] at hcolumns
  have hnames : (TableFormat.polarity o).names.length = 4 :=
    (List.length_map _).trans o.length_eq
  rw [places, TableFormat.headCells_eq, List.length_append, hnames]
  cases s with
  | valid => exact hcolumns.append_right []
  | all => exact hcolumns.append_right [4]

/-- The cells of one order at the places of another, with or without a last cell. -/
theorem map_places (value : Column → String) (s : Selection) (last : String) :
    ((o.places o' s).map fun i =>
      (o.columns.map value ++ if s = .all then [last] else []).getD i "") =
      o'.columns.map value ++ if s = .all then [last] else [] := by
  have hlength : (o.columns.map value).length = 4 := (List.length_map _).trans o.length_eq
  rw [places, List.map_append, List.map_map]
  refine congr (congrArg _ (List.map_congr_left fun c _ => ?_)) ?_
  · have hlt : o.columns.idxOf c < o.columns.length := List.idxOf_lt_length_of_mem (o.mem_columns c)
    rw [Function.comp_apply, List.getD_append _ _ _ _ (by rwa [List.length_map]),
      List.getD_eq_getElem _ _ (by rwa [List.length_map]), List.getElem_map, List.getElem_idxOf]
  · cases s with
    | valid => rfl
    | all =>
      rw [if_pos rfl, if_pos rfl, List.map_singleton, List.getD_append_right _ _ _ _ (by omega),
        hlength]
      rfl

/-- Tables in two orders have the same cells at corresponding places. -/
theorem arrange_places (s : Selection) (es : List (Event .polarity)) :
    Table.arrange (o.places o' s) ⟨(TableFormat.polarity o).headCells s,
        es.map ((TableFormat.polarity o).rowCells s)⟩ =
      ⟨(TableFormat.polarity o').headCells s, es.map ((TableFormat.polarity o').rowCells s)⟩ := by
  rw [Table.arrange, List.map_map]
  simp only [TableFormat.headCells_eq]
  refine congr (congrArg _ (o.map_places o' Column.name s "valid"))
    (List.map_congr_left fun e _ => ?_)
  rw [Function.comp_apply, TableFormat.rowCells_eq, TableFormat.rowCells_eq]
  exact o.map_places o' (fun c => c.cell e) s (bitCell e.valid)

end FieldOrder

/-- Polarity events are recovered from their table, whatever the order of its columns; the tables
for two orders differ by the order of the columns only. -/
theorem TableFormat.polarity_recovers (o : FieldOrder) (s : Selection) (ps : List AnyPacket) :
    ∃ counts text table, (polarity o).Exports s ps counts text table ∧
      table.rows.map (PolarityRow.ofCells? table.head) =
        (exportedEvents .polarity s ps).map (fun e => some (PolarityRow.ofEvent s e)) ∧
      ∀ o' : FieldOrder, (o.places o' s).Perm (List.range table.head.length) ∧
        ∃ text', (polarity o').Exports s ps counts text' (table.arrange (o.places o' s)) := by
  refine ⟨_, _, _, (regular_polarity o).exports s ps, ?_, fun o' => ⟨o.places_perm o' s, ?_⟩⟩
  · rw [List.map_map]
    exact List.map_congr_left fun e _ => PolarityRow.ofCells?_rowCells o s e
  · rw [o.arrange_places o' s]
    exact ⟨_, (regular_polarity o').exports s ps⟩

end EventPackets
