import EventPackets.CommandLine.Dump
import EventPackets.CommandLine.Inspect
import EventPackets.Proofs.Csv.Cells

/-!
# Reading what is printed

The lines of a listing and of a summary are made for the eye: their numbers stand at the right end
of columns, or behind a label.  To read them it suffices to take the words of each line, and to go
by the names of the columns and by the labels.

## Main definitions

* `Table.ofColumns?` : the table that a text in columns holds.
* `ListedPacket` : what a listing says about a packet.
* `count?` : the number behind a label.
* `SummaryShows` : the counts that a summary shows.
* `unreadHead` : the first lines of what is printed if a file cannot be read.

## Main results

* `ofColumns?_listing` : the table that is read from a listing.
* `ListedPacket.ofCells?_cells` : a packet is read back from its line.
* `summaryShows_dumpSummary` : the counts are read back from a summary.
* `text_invalidPacket`, `text_unexpectedEnd` : what is printed if a file cannot be read.
-/

namespace EventPackets

/-! ### Texts in columns -/

namespace Table

/-- The cells of a line in columns. -/
def columns (line : List Char) : List String :=
  (Text.words line).map String.ofList

/-- The table that a text in columns holds: one line for the head and one for each row. -/
def ofColumns? (s : String) : Option Table :=
  match lines? s.toList with
  | some (head :: rows) => some ⟨columns head, rows.map columns⟩
  | _ => none

end Table

/-- Characters that can stand in a column: a word without a line break. -/
structure IsEntry (cs : List Char) : Prop where
  isWord : Text.IsWord cs
  lineBreak_not_mem : '\n' ∉ cs

instance (cs : List Char) : Decidable (IsEntry cs) :=
  decidable_of_iff ((cs ≠ [] ∧ ' ' ∉ cs) ∧ '\n' ∉ cs)
    ⟨fun h => ⟨⟨h.1.1, h.1.2⟩, h.2⟩, fun h => ⟨⟨h.isWord.ne_nil, h.isWord.space_not_mem⟩, h.2⟩⟩

theorem isEntry_integer (z : Int) : IsEntry (toString z).toList where
  isWord := by
    refine ⟨fun h => ?_, fun h => ?_⟩
    · have hread := Digits.integer?_toString z
      rw [h] at hread
      cases hread
    · rcases isDigit_or_minus_of_mem_integer h with h | h <;> cases h
  lineBreak_not_mem := (isCell_integer z).lineBreak_not_mem

theorem isEntry_natural (n : Nat) : IsEntry (toString n).toList :=
  isEntry_integer n

theorem isEntry_kindName (k : Kind) : IsEntry k.eventType.name.toList := by
  cases k <;> decide

namespace CommandLine

/-! ### Listings -/

section Listing

variable {cells : List String}

/-- The characters of a line in columns without its end. -/
def columnChars (cells : List String) : List Char :=
  [' '].intercalate ((List.zipWith Text.padLeft columnWidths cells).map String.toList)

theorem toList_inspectLine (cells : List String) :
    (inspectLine cells).toList = columnChars cells ++ ['\n'] := by
  rw [inspectLine, String.toList_append, String.toList_intercalate]
  rfl

theorem columns_columnChars (hlength : cells.length ≤ columnWidths.length)
    (h : ∀ cell ∈ cells, IsEntry cell.toList) : Table.columns (columnChars cells) = cells := by
  have hwords := Text.words_columns hlength fun cell hcell => (h cell hcell).isWord
  rw [Table.columns, columnChars, hwords, List.map_map]
  exact (List.map_congr_left fun _ _ => String.ofList_toList).trans (List.map_id _)

theorem lineBreak_not_mem_columnChars (h : ∀ cell ∈ cells, IsEntry cell.toList) :
    '\n' ∉ columnChars cells := by
  refine Text.not_mem_intercalate (by decide) (List.forall_mem_map.mpr fun s hs => ?_)
  rw [← List.map_uncurry_zip_eq_zipWith] at hs
  obtain ⟨⟨width, cell⟩, hzip, rfl⟩ := List.mem_map.mp hs
  rw [Function.uncurry_apply_pair, Text.toList_padLeft, List.mem_append]
  refine not_or.mpr ⟨fun hblank => ?_, (h cell (List.of_mem_zip hzip).2).lineBreak_not_mem⟩
  exact absurd (List.mem_replicate.mp hblank).2 (by decide)

/-- The table that is read from a listing: the cells that have been printed. -/
theorem ofColumns?_listing {head : List String} {rows : List (List String)}
    (hlength : ∀ cells ∈ head :: rows, cells.length ≤ columnWidths.length)
    (h : ∀ cells ∈ head :: rows, ∀ cell ∈ cells, IsEntry cell.toList) :
    Table.ofColumns? (String.join ((head :: rows).map inspectLine)) = some ⟨head, rows⟩ := by
  have htext : (String.join ((head :: rows).map inspectLine)).toList =
      ((head :: rows).map columnChars).flatMap fun line => line ++ ['\n'] := by
    rw [String.toList_join, List.flatMap_map, List.flatMap_map]
    exact List.flatMap_congr fun cells _ => toList_inspectLine cells
  have hlines : ∀ line ∈ (head :: rows).map columnChars, '\n' ∉ line :=
    List.forall_mem_map.mpr fun cells hcells => lineBreak_not_mem_columnChars (h cells hcells)
  have hcolumns : ∀ cells ∈ head :: rows, Table.columns (columnChars cells) = cells :=
    fun cells hcells => columns_columnChars (hlength cells hcells) (h cells hcells)
  rw [List.forall_mem_cons] at hcolumns
  rw [Table.ofColumns?, htext, Table.lines?_flatMap hlines, List.map_cons]
  dsimp only
  rw [hcolumns.1, List.map_map]
  refine congrArg (fun rows => some (Table.mk head rows)) ?_
  exact (List.map_congr_left hcolumns.2).trans (List.map_id _)

end Listing

/-- What a listing says about a packet. -/
structure ListedPacket where
  packet : Nat
  offset : Nat
  kind : Kind
  source : Int
  capacity : Int
  number : Int
  valid : Int
  overflow : Int
  bytes : Nat
  deriving DecidableEq

namespace ListedPacket

/-- The kind whose name stands in a cell. -/
def kindOfCell? (s : String) : Option Kind :=
  match s with
  | "polarity" => some .polarity
  | "imu9" => some .imu9
  | _ => none

/-- What is said about a packet, read from the cells of its row. -/
def ofCells? (head row : List String) : Option ListedPacket := do
  let packet ← Table.natural? head row "packet"
  let offset ← Table.natural? head row "offset"
  let kind ← (Table.cell? head row "type").bind kindOfCell?
  let source ← Table.integer? head row "source"
  let capacity ← Table.integer? head row "capacity"
  let number ← Table.integer? head row "number"
  let valid ← Table.integer? head row "valid"
  let overflow ← Table.integer? head row "overflow"
  let bytes ← Table.natural? head row "bytes"
  return ⟨packet, offset, kind, source, capacity, number, valid, overflow, bytes⟩

/-- What is to be said about the packet with a number that starts at a byte. -/
def ofPacket (index offset : Nat) (p : AnyPacket) : ListedPacket where
  packet := index
  offset := offset
  kind := p.kind
  source := p.packet.source.toInt
  capacity := p.packet.capacity.toInt
  number := p.packet.number.toInt
  valid := p.packet.validCount.toInt
  overflow := p.packet.overflow.toInt
  bytes := p.bytes.size

/-- What the row of a packet says. -/
def ofRow (r : InspectRow) : ListedPacket :=
  ⟨r.packet, r.offset, r.kind, r.source.toInt, r.capacity.toInt, r.number.toInt, r.valid.toInt,
    r.overflow.toInt, r.bytes⟩

theorem kindOfCell?_name (k : Kind) : kindOfCell? k.eventType.name = some k := by
  cases k <;> rfl

theorem isEntry_cell (r : InspectRow) : ∀ cell ∈ r.cells, IsEntry cell.toList := by
  simp only [InspectRow.cells, List.forall_mem_cons, List.not_mem_nil, false_imp_iff,
    implies_true, and_true]
  exact ⟨isEntry_natural _, isEntry_natural _, isEntry_kindName _, isEntry_integer _,
    isEntry_integer _, isEntry_integer _, isEntry_integer _, isEntry_integer _, isEntry_natural _⟩

/-- A packet is read back from its row. -/
theorem ofCells?_cells (r : InspectRow) : ofCells? columnNames r.cells = some (ofRow r) := by
  have hpacket : Table.natural? columnNames r.cells "packet" = some r.packet :=
    Table.natural?_eq_of_cell? rfl
  have hoffset : Table.natural? columnNames r.cells "offset" = some r.offset :=
    Table.natural?_eq_of_cell? rfl
  have hkind : (Table.cell? columnNames r.cells "type").bind kindOfCell? = some r.kind :=
    kindOfCell?_name r.kind
  have hsource : Table.integer? columnNames r.cells "source" = some r.source.toInt :=
    Table.integer?_eq_of_cell? rfl
  have hcapacity : Table.integer? columnNames r.cells "capacity" = some r.capacity.toInt :=
    Table.integer?_eq_of_cell? rfl
  have hnumber : Table.integer? columnNames r.cells "number" = some r.number.toInt :=
    Table.integer?_eq_of_cell? rfl
  have hvalid : Table.integer? columnNames r.cells "valid" = some r.valid.toInt :=
    Table.integer?_eq_of_cell? rfl
  have hoverflow : Table.integer? columnNames r.cells "overflow" = some r.overflow.toInt :=
    Table.integer?_eq_of_cell? rfl
  have hbytes : Table.natural? columnNames r.cells "bytes" = some r.bytes :=
    Table.natural?_eq_of_cell? rfl
  rw [ofCells?, hpacket, hoffset, hkind, hsource, hcapacity, hnumber, hvalid, hoverflow, hbytes]
  rfl

/-- The table that is read from a listing of packets. -/
theorem ofColumns?_rows (rows : List InspectRow) :
    Table.ofColumns? (String.join ((columnNames :: rows.map InspectRow.cells).map inspectLine)) =
      some ⟨columnNames, rows.map InspectRow.cells⟩ := by
  refine ofColumns?_listing ?_ ?_
  · exact List.forall_mem_cons.mpr ⟨Nat.le_refl _, List.forall_mem_map.mpr fun r _ => Nat.le_refl _⟩
  · exact List.forall_mem_cons.mpr ⟨by decide, List.forall_mem_map.mpr fun r _ => isEntry_cell r⟩

end ListedPacket

/-! ### Texts without line breaks -/

/-- A text without a line break. -/
structure IsLine (s : String) : Prop where
  lineBreak_not_mem : '\n' ∉ s.toList

instance (s : String) : Decidable (IsLine s) :=
  decidable_of_iff ('\n' ∉ s.toList) ⟨.mk, IsLine.lineBreak_not_mem⟩

@[simp]
theorem isLine_append {s t : String} : IsLine (s ++ t) ↔ IsLine s ∧ IsLine t := by
  have hiff : '\n' ∉ (s ++ t).toList ↔ '\n' ∉ s.toList ∧ '\n' ∉ t.toList := by
    rw [String.toList_append, List.mem_append, not_or]
  exact ⟨fun h => ⟨⟨(hiff.mp h.1).1⟩, ⟨(hiff.mp h.1).2⟩⟩, fun h => ⟨hiff.mpr ⟨h.1.1, h.2.1⟩⟩⟩

theorem isLine_integer (z : Int) : IsLine (toString z) :=
  ⟨(isCell_integer z).lineBreak_not_mem⟩

theorem isLine_natural (n : Nat) : IsLine (toString n) :=
  isLine_integer n

theorem lineBreak_not_mem_toDigits (n : Nat) : '\n' ∉ Nat.toDigits 16 n := by
  induction n using Nat.strongRecOn with
  | ind n ih =>
    have hdigit (d : Nat) : '\n' ≠ d.digitChar := (Nat.digitChar_ne '\n' (by decide)).symm
    rw [Nat.toDigits_eq_if (by decide)]
    split
    · exact fun h => hdigit _ (List.mem_singleton.mp h)
    · rw [List.mem_append, List.mem_singleton]
      exact not_or.mpr ⟨ih _ (by omega), hdigit _⟩

theorem lineBreak_not_mem_escape (c : Char) : '\n' ∉ Text.escape c := by
  unfold Text.escape
  split_ifs with hnull htab hreturn hbreak hquote hhidden
  · decide
  · decide
  · decide
  · decide
  · rintro h
    rcases hquote with rfl | rfl <;> exact absurd h (by decide)
  · rw [Text.escapeCode, List.mem_append, List.mem_append]
    exact not_or.mpr ⟨not_or.mpr ⟨by decide, lineBreak_not_mem_toDigits _⟩, by decide⟩
  · exact fun h => hbreak (List.mem_singleton.mp h).symm

/-- Line breaks are escaped in quoted texts. -/
theorem isLine_quoted (s : String) : IsLine (Text.quoted s) := by
  constructor
  rw [Text.quoted, String.toList_ofList, List.mem_append, List.mem_append, List.mem_flatMap]
  refine not_or.mpr ⟨not_or.mpr ⟨by decide, ?_⟩, by decide⟩
  rintro ⟨c, -, hc⟩
  exact lineBreak_not_mem_escape c hc

/-! ### Summaries -/

/-- The number that a line gives under a label, if it consists of nothing else. -/
def labelled? (label : String) (line : List Char) : Option Nat :=
  match Table.columns line with
  | [word, number] => if word = label then Digits.toNat? number.toList else none
  | _ => none

/-- The number behind a label in a text: that of the first line with such a number. -/
def count? (label text : String) : Option Nat :=
  (Table.lines? text.toList).bind fun lines => lines.findSome? (labelled? label)

/-- The counts that a summary shows. -/
structure SummaryShows (text : String) (packets polarityRows imu9Rows : Nat) : Prop where
  packets_eq : count? "Packets:" text = some packets
  polarity_eq : count? "Polarity:" text = some polarityRows
  imu9_eq : count? "IMU9:" text = some imu9Rows

section Summary

variable {label word : String} {line : List Char}

theorem labelled?_eq_some {n : Nat} (h : Table.columns line = [label, toString n]) :
    labelled? label line = some n := by
  rw [labelled?, h]
  exact (if_pos rfl).trans (Digits.toNat?_toString n)

/-- A line that starts with another word gives no number. -/
theorem labelled?_eq_none {rest : List String} (h : Table.columns line = word :: rest)
    (hne : word ≠ label) : labelled? label line = none := by
  rw [labelled?, h]
  split
  next hwords =>
    obtain rfl := List.head_eq_of_cons_eq hwords
    exact if_neg hne
  next => rfl

/-- What ends with a space has its own words. -/
theorem columns_append {lead : String} (h : lead.toList.getLast? = some ' ') (s : String) :
    Table.columns (lead ++ s).toList = Table.columns lead.toList ++ Table.columns s.toList := by
  obtain ⟨front, hfront⟩ := List.getLast?_eq_some_iff.mp h
  have hwords (rest : List Char) :
      Table.columns (front ++ ' ' :: rest) = Table.columns front ++ Table.columns rest := by
    rw [Table.columns, Text.words_append_cons, List.map_append, Table.columns, Table.columns]
  have hlead : Table.columns lead.toList = Table.columns front := by
    rw [hfront, hwords]
    exact List.append_nil _
  rw [hlead, ← hwords, String.toList_append, hfront, List.append_assoc, List.singleton_append]

/-- A line with a path behind a label gives no number under another label. -/
theorem labelled?_quoted {lead : String} {words : List String} (h : lead.toList.getLast? = some ' ')
    (hlead : Table.columns lead.toList = word :: words) (hne : word ≠ label) (path : String) :
    labelled? label (lead ++ Text.quoted path).toList = none := by
  have hwords := columns_append h (Text.quoted path)
  rw [hlead, List.cons_append] at hwords
  exact labelled?_eq_none hwords hne

/-- A line with a number behind a label. -/
theorem columns_number {lead : String} (h : lead.toList.getLast? = some ' ')
    (hlead : Table.columns lead.toList = [word]) (n : Nat) :
    Table.columns (lead ++ toString n).toList = [word, toString n] := by
  have hnumber : Table.columns (toString n).toList = [toString n] := by
    rw [Table.columns, (isEntry_natural n).isWord.words_eq, List.map_singleton,
      String.ofList_toList]
  rw [columns_append h, hlead, hnumber, List.singleton_append]

variable (input output : String) (imu9 : Option String) (packets polarityRows imu9Rows : Nat)

theorem isLine_of_mem_summaryLines :
    ∀ line ∈ summaryLines input output imu9 packets polarityRows imu9Rows, IsLine line := by
  intro line hline
  simp only [summaryLines, List.mem_append, List.mem_cons, List.not_mem_nil, or_false,
    Option.mem_toList, Option.map_eq_some_iff] at hline
  rcases hline with ((rfl | rfl | rfl | rfl) | ⟨path, -, rfl⟩) | rfl | rfl | rfl
  · decide
  · decide
  · exact isLine_append.mpr ⟨by decide, isLine_quoted input⟩
  · exact isLine_append.mpr ⟨by decide, isLine_quoted output⟩
  · exact isLine_append.mpr ⟨by decide, isLine_quoted path⟩
  · exact isLine_append.mpr ⟨by decide, isLine_natural packets⟩
  · exact isLine_append.mpr ⟨by decide, isLine_natural polarityRows⟩
  · exact isLine_append.mpr ⟨by decide, isLine_natural imu9Rows⟩

theorem count?_dumpSummary (label : String) :
    count? label (dumpSummary input output imu9 packets polarityRows imu9Rows) =
      (summaryLines input output imu9 packets polarityRows imu9Rows).findSome? fun line =>
        labelled? label line.toList := by
  have htext : (dumpSummary input output imu9 packets polarityRows imu9Rows).toList =
      ((summaryLines input output imu9 packets polarityRows imu9Rows).map String.toList).flatMap
        fun line => line ++ ['\n'] := by
    rw [dumpSummary, String.toList_join, List.flatMap_map, List.flatMap_map]
    exact List.flatMap_congr fun line _ => String.toList_append
  have hlines : ∀ line ∈ (summaryLines input output imu9 packets polarityRows imu9Rows).map
      String.toList, '\n' ∉ line :=
    List.forall_mem_map.mpr fun line hline =>
      (isLine_of_mem_summaryLines input output imu9 packets polarityRows imu9Rows line
        hline).lineBreak_not_mem
  rw [count?, htext, Table.lines?_flatMap hlines, Option.bind_some, List.findSome?_map]
  rfl

/-- The lines before the counts start with other words. -/
theorem count?_dumpSummary_of_not_mem (h : label ∉ ["Summary:", "Input:", "Output:", "IMU9"]) :
    count? label (dumpSummary input output imu9 packets polarityRows imu9Rows) =
      ["  Packets:      " ++ toString packets, "  Polarity:     " ++ toString polarityRows,
        "  IMU9:         " ++ toString imu9Rows].findSome? fun line =>
          labelled? label line.toList := by
  have hsummary : Table.columns "Summary:".toList = ["Summary:"] := by decide
  have hinput : Table.columns "  Input:        ".toList = ["Input:"] := by decide
  have houtput : Table.columns "  Output:       ".toList = ["Output:"] := by decide
  have hpath : Table.columns "  IMU9 output:  ".toList = ["IMU9", "output:"] := by decide
  simp only [List.mem_cons, List.not_mem_nil, or_false, not_or] at h
  obtain ⟨hne₁, hne₂, hne₃, hne₄⟩ := h
  rw [count?_dumpSummary, summaryLines, List.findSome?_append, List.findSome?_eq_none_iff.mpr]
  · rfl
  · intro line hline
    simp only [List.mem_append, List.mem_cons, List.not_mem_nil, or_false, Option.mem_toList,
      Option.map_eq_some_iff] at hline
    rcases hline with (rfl | rfl | rfl | rfl) | ⟨path, -, rfl⟩
    · rfl
    · exact labelled?_eq_none hsummary (Ne.symm hne₁)
    · exact labelled?_quoted (by decide) hinput (Ne.symm hne₂) input
    · exact labelled?_quoted (by decide) houtput (Ne.symm hne₃) output
    · exact labelled?_quoted (by decide) hpath (Ne.symm hne₄) path

theorem summaryShows_dumpSummary :
    SummaryShows (dumpSummary input output imu9 packets polarityRows imu9Rows) packets polarityRows
      imu9Rows := by
  have hpackets : Table.columns ("  Packets:      " ++ toString packets).toList =
      ["Packets:", toString packets] := columns_number (by decide) (by decide) packets
  have hpolarity : Table.columns ("  Polarity:     " ++ toString polarityRows).toList =
      ["Polarity:", toString polarityRows] := columns_number (by decide) (by decide) polarityRows
  have himu9 : Table.columns ("  IMU9:         " ++ toString imu9Rows).toList =
      ["IMU9:", toString imu9Rows] := columns_number (by decide) (by decide) imu9Rows
  constructor
  · rw [count?_dumpSummary_of_not_mem _ _ _ _ _ _ (by decide), List.findSome?_cons,
      labelled?_eq_some hpackets]
  · rw [count?_dumpSummary_of_not_mem _ _ _ _ _ _ (by decide), List.findSome?_cons,
      labelled?_eq_none hpackets (by decide), List.findSome?_cons, labelled?_eq_some hpolarity]
  · rw [count?_dumpSummary_of_not_mem _ _ _ _ _ _ (by decide), List.findSome?_cons,
      labelled?_eq_none hpackets (by decide), List.findSome?_cons,
      labelled?_eq_none hpolarity (by decide), List.findSome?_cons, labelled?_eq_some himu9]

end Summary

/-! ### Failures -/

/-- The first lines of what is printed if a file cannot be read. -/
def unreadHead : String :=
  "Error: Failed to read packet file\n\nCaused by:\n"

/-- What is reported if a file cannot be read. -/
def readFailure (e : ReadError) : Failure :=
  ⟨"Failed to read packet file", readCauses e⟩

theorem indented_append (width : Nat) (s t : String) :
    indented width (s ++ t) = indented width s ++ indented width t := by
  rw [indented, String.toList_append, List.flatMap_append, String.ofList_append, indented, indented]

/-- A text without line breaks stays as it is. -/
theorem indented_of_isLine {width : Nat} {s : String} (h : IsLine s) : indented width s = s := by
  have hchar (c : Char) (hc : c ∈ s.toList) :
      (if c = '\n' then c :: List.replicate width ' ' else [c]) = [c] := by
    refine if_neg ?_
    rintro rfl
    exact h.lineBreak_not_mem hc
  rw [indented, List.flatMap_congr hchar, List.flatMap_singleton', String.ofList_toList]

/-- A packet that is rejected is reported with the byte at which it starts. -/
theorem text_invalidPacket (offset : Nat) (cause : PacketError) :
    ∃ more, (readFailure (.invalidPacket offset cause)).text =
      unreadHead ++ s!"    0: Invalid packet at byte {offset}: " ++ more := by
  have hline : IsLine s!"Invalid packet at byte {offset}: " := by
    simp only [isLine_append, isLine_natural, and_true]
    decide
  have hindented : indented 7 (ReadError.invalidPacket offset cause).message =
      s!"Invalid packet at byte {offset}: " ++ indented 7 cause.message := by
    have happend := indented_append 7 s!"Invalid packet at byte {offset}: " cause.message
    rwa [indented_of_isLine hline] at happend
  have htext : (readFailure (.invalidPacket offset cause)).text =
      unreadHead ++ ("    0: " ++
        indented 7 (ReadError.invalidPacket offset cause).message ++ "\n" ++
        numberedCauses 1 [cause.message]) := by
    rfl
  refine ⟨indented 7 cause.message ++ "\n" ++ numberedCauses 1 [cause.message], ?_⟩
  rw [htext, hindented]
  simp only [← String.append_assoc]
  rfl

/-- A file that ends too early is reported with its length. -/
theorem text_unexpectedEnd (offset : Nat) :
    (readFailure (.unexpectedEnd offset)).text =
      unreadHead ++ s!"    Unexpected end of file at byte {offset}\n" := by
  have hline : IsLine s!"Unexpected end of file at byte {offset}" := by
    simp only [isLine_append, isLine_natural, and_true]
    decide
  have hindented : indented 4 (ReadError.unexpectedEnd offset).message =
      s!"Unexpected end of file at byte {offset}" := indented_of_isLine hline
  have htext : (readFailure (.unexpectedEnd offset)).text =
      unreadHead ++ ("    " ++
        indented 4 (ReadError.unexpectedEnd offset).message ++ "\n") := by
    rfl
  rw [htext, hindented]
  simp only [← String.append_assoc]
  rfl

end CommandLine

end EventPackets
