import EventPackets.PacketFile
import EventPackets.Proofs.Csv.Rows
import EventPackets.Proofs.Csv.Text
import EventPackets.Proofs.Storage

/-!
# Tables in files

Wherever a file can be created, a table of the exported events of all packets of a kind is written
into it, in the order of the packets, and the number of rows that is reported is the number of rows
that are there.

## Main definitions

* `Packet.exportedSlots` : the slots of a packet whose events are in a table.
* `exportedEvents` : the events of packets that are in a table.
* `Storage.HoldsTable` : a path leads to a file with a table.
* `Storage.withTable` : the storage with a table in a file.

## Main results

* `Selection.events_eq`, `exportedEvents_eq_flatMap` : the events that a writer selects.
* `TableWriter.writeTable_eq_ok` : the text of a table is written, and its rows are counted.
* `Storage.CreatesAt.exportTable_eq` : the file that a table is written into.
* `Storage.CreatesAt.holdsTable`, `Storage.HoldsTable.withTable_of_ne` : the table is there, and
  stays when another one is written into another file.
-/

namespace EventPackets

/-! ### Texts as bytes -/

theorem textBytes_append (s t : String) : textBytes (s ++ t) = textBytes s ++ textBytes t := by
  exact (congrArg ByteArray.data String.toByteArray_append).trans ByteArray.data_append

theorem textBytes_inj {s t : String} : textBytes s = textBytes t ↔ s = t :=
  ⟨fun h => String.toByteArray_inj.mp (ByteArray.ext h), congrArg textBytes⟩

/-- Texts back to back. -/
theorem concat_textBytes {α : Type} (line : α → String) (as : List α) :
    Bytes.concat (as.map fun a => textBytes (line a)) = textBytes (String.join (as.map line)) := by
  induction as with
  | nil => rfl
  | cons a as ih =>
    rw [List.map_cons, Bytes.concat_cons, ih, List.map_cons, String.join_cons, textBytes_append]

/-! ### Exported events -/

/-- The slots of a packet whose events are in a table: those below the event number and the
capacity, and only the marked ones of them unless the table is one of all events. -/
def Packet.exportedSlots {k : Kind} (sel : Selection) (p : Packet k) : List Nat :=
  (List.range (min p.number.toNatClampNeg p.capacity.toNatClampNeg)).filter fun i =>
    sel = .all || Slot.marked k p.bytes i

/-- The events of a packet that are in a table for events of kind `k`: none if it is of another
kind. -/
def AnyPacket.exported (k : Kind) (sel : Selection) (p : AnyPacket) : List (Event k) :=
  if h : p.kind = k then (p.packet.exportedSlots sel).map fun i => h ▸ p.packet.event i else []

/-- The events of packets that are in a table for events of kind `k`, in the order of the packets
and of the slots. -/
def exportedEvents (k : Kind) (sel : Selection) (ps : List AnyPacket) : List (Event k) :=
  ps.flatMap (AnyPacket.exported k sel)

variable {k : Kind} {sel : Selection} {p : AnyPacket} {ps : List AnyPacket}

/-- A writer selects the events of these slots. -/
theorem Selection.events_eq (sel : Selection) (p : Packet k) :
    sel.events p = (p.exportedSlots sel).map p.event := by
  rw [Packet.exportedSlots]
  cases sel with
  | valid =>
    rw [events, Packet.validEvents, Packet.events, List.filter_map]
    rfl
  | all => exact congrArg (List.map p.event) (List.filter_eq_self.mpr fun _ _ => rfl).symm

theorem exportedEvents_cons_of_ne {l : Kind} (h : l ≠ k) (q : Packet l) :
    exportedEvents k sel (⟨l, q⟩ :: ps) = exportedEvents k sel ps := by
  rw [exportedEvents, List.flatMap_cons, AnyPacket.exported, dif_neg h, List.nil_append,
    exportedEvents]

theorem exportedEvents_cons_self (q : Packet k) :
    exportedEvents k sel (⟨k, q⟩ :: ps) = sel.events q ++ exportedEvents k sel ps := by
  rw [exportedEvents, List.flatMap_cons, AnyPacket.exported, dif_pos rfl, Selection.events_eq,
    exportedEvents]

theorem exportedEvents_cons_none (h : p.ofKind? k = none) :
    exportedEvents k sel (p :: ps) = exportedEvents k sel ps := by
  obtain ⟨l, q⟩ := p
  by_cases hl : l = k
  · rw [AnyPacket.ofKind?, dif_pos hl] at h
    cases h
  · exact exportedEvents_cons_of_ne hl q

theorem exportedEvents_cons_some {q : Packet k} (h : p.ofKind? k = some q) :
    exportedEvents k sel (p :: ps) = sel.events q ++ exportedEvents k sel ps := by
  obtain ⟨l, p⟩ := p
  by_cases hl : l = k
  · subst hl
    rw [AnyPacket.ofKind?, dif_pos rfl] at h
    obtain rfl := Option.some.inj h
    exact exportedEvents_cons_self p
  · rw [AnyPacket.ofKind?, dif_neg hl] at h
    cases h

/-- A writer selects the packets of the kind of the table first. -/
theorem exportedEvents_eq_flatMap (k : Kind) (sel : Selection) (ps : List AnyPacket) :
    exportedEvents k sel ps = (ps.filterMap (AnyPacket.ofKind? k)).flatMap sel.events := by
  induction ps with
  | nil => rfl
  | cons p ps ih =>
    cases h : p.ofKind? k with
    | none => rw [exportedEvents_cons_none h, List.filterMap_cons_none h, ih]
    | some q =>
      rw [exportedEvents_cons_some h, List.filterMap_cons_some h, List.flatMap_cons, ih]

/-- The events of packets of one kind. -/
theorem exportedEvents_map (qs : List (Packet k)) :
    exportedEvents k sel (qs.map (AnyPacket.mk k)) = qs.flatMap sel.events := by
  induction qs with
  | nil => rfl
  | cons q qs ih => rw [List.map_cons, exportedEvents_cons_self, ih, List.flatMap_cons]

/-! ### Writing a table -/

namespace TableWriter

variable {w w' w₁ : TableWriter k} {b c : Bytes}

theorem Extends.trans (h₁ : w.Extends w₁ b) (h' : w₁.Extends w' c) : w.Extends w' (b ++ c) where
  unlimited := h'.unlimited
  format_eq := h'.format_eq.trans h₁.format_eq
  selection_eq := h'.selection_eq.trans h₁.selection_eq
  accepted_eq := by rw [h'.accepted_eq, h₁.accepted_eq, Array.append_assoc]

/-- Every exported event of a packet of the kind of the table gets a row. -/
theorem writePackets_eq_ok (h : w.target.Unlimited) (n : Nat) (ps : List AnyPacket) :
    ∃ w', w.writePackets n ps = (.ok (n + (exportedEvents k w.selection ps).length), w') ∧
      w.Extends w' (textBytes (String.join
        ((exportedEvents k w.selection ps).map (w.format.eventLine w.selection)))) := by
  induction ps generalizing w n with
  | nil => exact ⟨w, rfl, ⟨h, rfl, rfl, Array.append_empty.symm⟩⟩
  | cons p ps ih =>
    cases hp : p.ofKind? k with
    | none =>
      obtain ⟨w', hrest, h'⟩ := ih h n
      rw [exportedEvents_cons_none hp]
      refine ⟨w', ?_, h'⟩
      rw [writePackets, hp]
      exact hrest
    | some q =>
      obtain ⟨w₁, hwrite, h₁⟩ := writePacket_eq_ok h q
      obtain ⟨w', hrest, h'⟩ := ih h₁.unlimited (n + (w.selection.events q).length)
      rw [h₁.selection_eq, h₁.format_eq] at h'
      rw [h₁.selection_eq] at hrest
      rw [exportedEvents_cons_some hp]
      refine ⟨w', ?_, ?_⟩
      · rw [writePackets, hp]
        dsimp only
        rw [hwrite]
        dsimp only
        rw [hrest, List.length_append, Nat.add_assoc]
      · have htext := h₁.trans h'
        rwa [concat_textBytes, ← textBytes_append, ← String.join_append, ← List.map_append] at htext

/-- The text of a table is written, and its rows are counted. -/
theorem writeTable_eq_ok (h : w.target.Unlimited) (ps : List AnyPacket) :
    ∃ w', w.writeTable ps = (.ok (exportedEvents k w.selection ps).length, w') ∧
      w'.close = w.target.accepted ++
        textBytes (w.format.text w.selection (exportedEvents k w.selection ps)) := by
  obtain ⟨w₁, hhead, h₁⟩ := writeLine_eq_ok h (w.format.headLine w.selection)
  obtain ⟨w₂, hrows, h₂⟩ := writePackets_eq_ok h₁.unlimited 0 ps
  obtain ⟨t, hflush, hu, -⟩ := h₂.unlimited.flush_eq_ok
  have htext := h₁.trans h₂
  rw [h₁.selection_eq, h₁.format_eq, ← textBytes_append, ← String.join_cons] at htext
  have haccepted : t.accepted = w₂.target.accepted := by
    rw [← w₂.target.accepted_flush, hflush]
  refine ⟨{ w₂ with target := t }, ?_, ?_⟩
  · rw [writeTable, writeHead, hhead]
    dsimp only
    rw [hrows]
    dsimp only
    rw [flush, hflush, Nat.zero_add, h₁.selection_eq]
  · rw [close, hu.received_close, haccepted, htext.accepted_eq, TableFormat.text]

end TableWriter

/-! ### Files with tables -/

namespace Storage

variable {s : Storage} {path : String} {p q : Place} {f : TableFormat k} {es : List (Event k)}

/-- A path leads to a file with a table of given events: its head, and a row for each of them. -/
def HoldsTable (s : Storage) (path : String) (f : TableFormat k) (sel : Selection)
    (es : List (Event k)) : Prop :=
  ∃ text, s.openFile path = .ok (.ofBytes text.toUTF8.data) ∧
    Table.ofText? text = some ⟨f.headCells sel, es.map (f.rowCells sel)⟩

/-- Another path to the same file leads to the same table. -/
theorem HoldsTable.congr {path' : String} (h : s.HoldsTable path f sel es)
    (hp : s.CreatesAt path p) (hp' : s.CreatesAt path' p) : s.HoldsTable path' f sel es := by
  obtain ⟨text, hopen, htext⟩ := h
  exact ⟨text, (hp'.openFile_congr hp).trans hopen, htext⟩

/-- A file holds one table at most. -/
theorem HoldsTable.headCells_eq {l : Kind} {g : TableFormat l} {sel' : Selection}
    {ds : List (Event l)} (h : s.HoldsTable path f sel es) (h' : s.HoldsTable path g sel' ds) :
    f.headCells sel = g.headCells sel' := by
  obtain ⟨text, hopen, htext⟩ := h
  obtain ⟨text', hopen', htext'⟩ := h'
  have hbytes : textBytes text = textBytes text' :=
    congrArg Source.content (Except.ok.inj (hopen.symm.trans hopen'))
  rw [textBytes_inj.mp hbytes] at htext
  exact congrArg Table.head (Option.some.inj (htext.symm.trans htext'))

/-- What is put at another place leaves a table as it is. -/
theorem HoldsTable.put_of_ne (h : s.HoldsTable path f sel es) (hq : s.resolve path = .ok q)
    (hne : q ≠ p) (b : Bytes) : (s.put p b).HoldsTable path f sel es := by
  obtain ⟨text, hopen, htext⟩ := h
  exact ⟨text, (openFile_put_of_ne hq hne b).trans hopen, htext⟩

/-- The storage with a table in a file: the file is emptied first. -/
def withTable (s : Storage) (p : Place) (f : TableFormat k) (sel : Selection)
    (es : List (Event k)) : Storage :=
  (s.put p #[]).put p (textBytes (f.text sel es))

theorem resolve_withTable_eq_ok_iff {path' : String} :
    (s.withTable p f sel es).resolve path' = .ok q ↔ s.resolve path' = .ok q :=
  resolve_put_eq_ok_iff.trans resolve_put_eq_ok_iff

theorem createsAt_withTable_iff {path' : String} :
    (s.withTable p f sel es).CreatesAt path' q ↔ s.CreatesAt path' q :=
  createsAt_put_iff.trans createsAt_put_iff

/-- A table that is written where a file can be created is there. -/
theorem CreatesAt.holdsTable (h : s.CreatesAt path p) (hf : f.Regular) (sel : Selection)
    (es : List (Event k)) : (s.withTable p f sel es).HoldsTable path f sel es :=
  ⟨_, (createsAt_withTable_iff.mpr h).openFile_eq (file?_put_self ..), hf.ofText?_text sel es⟩

/-- A table in another file leaves a table as it is. -/
theorem HoldsTable.withTable_of_ne {l : Kind} (h : s.HoldsTable path f sel es)
    (hq : s.resolve path = .ok q) (hne : q ≠ p) (g : TableFormat l) (sel' : Selection)
    (ds : List (Event l)) : (s.withTable p g sel' ds).HoldsTable path f sel es :=
  (h.put_of_ne hq hne _).put_of_ne (resolve_put_eq_ok_iff.mpr hq) hne _

/-- Wherever a file can be created, a table is written into it, and its rows are counted. -/
theorem CreatesAt.exportTable_eq (h : s.CreatesAt path p) (f : TableFormat k) (sel : Selection)
    (ps : List AnyPacket) :
    s.exportTable path f sel ps =
      (.ok (exportedEvents k sel ps).length, s.withTable p f sel (exportedEvents k sel ps)) := by
  obtain ⟨w, hwrite, hclose⟩ := TableWriter.writeTable_eq_ok (w := .empty f sel none) .empty ps
  have hempty : (TableWriter.empty f sel none).target.accepted = #[] := rfl
  rw [hempty, Array.empty_append] at hclose
  rw [exportTable, create_eq_ok_iff.mpr ⟨h, rfl⟩]
  dsimp only
  rw [hwrite]
  dsimp only
  rw [hclose]
  rfl

end Storage

end EventPackets
