import EventPackets.Csv.Reading
import EventPackets.Proofs.Text.Split

/-!
# The text of a table

A table is written as lines of cells, and the cells come out again when it is read, as none of them
contains a comma or a line break.

## Main definitions

* `IsCell` : characters that can stand in a cell.
* `TableFormat.headCells`, `TableFormat.rowCells` : the cells of the head and of an event.
* `TableFormat.text` : the text of a table of given events.
* `TableFormat.Regular` : a format whose tables can be read again.

## Main results

* `TableFormat.regular_polarity`, `TableFormat.regular_imu9` : the formats of the two kinds.
* `TableFormat.Regular.ofText?_text` : what is read from the text of a table.
-/

namespace EventPackets

/-! ### Cells -/

/-- Characters that can stand in a cell: no comma and no line break. -/
def IsCell (cs : List Char) : Prop :=
  ∀ c ∈ cs, c ≠ ',' ∧ c ≠ '\n'

namespace IsCell

variable {cs ds : List Char}

instance (cs : List Char) : Decidable (IsCell cs) :=
  List.decidableBAll _ cs

theorem append (h : IsCell cs) (h' : IsCell ds) : IsCell (cs ++ ds) :=
  List.forall_mem_append.mpr ⟨h, h'⟩

theorem comma_not_mem (h : IsCell cs) : ',' ∉ cs :=
  fun hmem => (h _ hmem).1 rfl

theorem lineBreak_not_mem (h : IsCell cs) : '\n' ∉ cs :=
  fun hmem => (h _ hmem).2 rfl

theorem of_isDigit (h : ∀ c ∈ cs, c.isDigit) : IsCell cs := by
  intro c hc
  have hdigit := h c hc
  constructor <;> rintro rfl <;> cases hdigit

end IsCell

theorem isCell_digits (n : Nat) : IsCell (Digits.ofNat n) :=
  .of_isDigit fun _ => Nat.isDigit_of_mem_toDigits (by decide) (by decide)

theorem isCell_zeros (n : Nat) : IsCell (List.replicate n '0') := by
  intro c hc
  rw [(List.mem_replicate.mp hc).2]
  decide

theorem isCell_natural (n : Nat) : IsCell (toString n).toList := by
  rw [Nat.toString_eq_repr, Nat.toList_repr]
  exact isCell_digits n

/-- An integer is written with digits, after a minus sign if it is negative. -/
theorem isDigit_or_minus_of_mem_integer {z : Int} {c : Char} (h : c ∈ (toString z).toList) :
    c.isDigit ∨ c = '-' := by
  have hdigit {n : Nat} (hc : c ∈ n.repr.toList) : c.isDigit := by
    rw [Nat.toList_repr] at hc
    exact Nat.isDigit_of_mem_toDigits (by decide) (by decide) hc
  cases z with
  | ofNat n => exact .inl (hdigit h)
  | negSucc n =>
    have htext : toString (Int.negSucc n) = "-" ++ (n + 1).repr := rfl
    rw [htext, String.toList_append, List.mem_append] at h
    rcases h with h | h
    · exact .inr (List.mem_singleton.mp h)
    · exact .inl (hdigit h)

theorem isCell_integer (z : Int) : IsCell (toString z).toList := by
  intro c hc
  rcases isDigit_or_minus_of_mem_integer hc with hdigit | rfl
  · constructor <;> rintro rfl <;> cases hdigit
  · decide

theorem isCell_bitCell (b : Bool) : IsCell (bitCell b).toList := by
  cases b <;> decide

theorem isCell_plain (d : Decimal) : IsCell d.plain := by
  unfold Decimal.plain
  dsimp only
  split
  · exact (isCell_digits _).append (isCell_zeros _)
  · have hpadded := (isCell_zeros ((-d.exponent).toNat + 1 - (Digits.ofNat d.digits).length)).append
      (isCell_digits d.digits)
    exact IsCell.append (fun c hc => hpadded c (List.mem_of_mem_take hc))
      (List.forall_mem_cons.mpr ⟨by decide, fun c hc => hpadded c (List.mem_of_mem_drop hc)⟩)

theorem isCell_binary32 (x : Binary32) : IsCell x.text.toList := by
  rw [Binary32.text, String.toList_ofList, Binary32.chars]
  split
  · decide
  · refine IsCell.append ?_ ?_
    · split <;> decide
    · split
      · decide
      · exact isCell_plain _

/-! ### Lines -/

/-- The characters of a line without its end. -/
def cellChars (cells : List String) : List Char :=
  [','].intercalate (cells.map String.toList)

theorem toList_cellLine (cells : List String) :
    (cellLine cells).toList = cellChars cells ++ ['\n'] := by
  rw [cellLine, String.toList_append, String.toList_intercalate]
  rfl

/-- The cells of a line are those that it has been made of. -/
theorem cells_cellChars {cells : List String} (hne : cells ≠ [])
    (h : ∀ cell ∈ cells, IsCell cell.toList) : Table.cells (cellChars cells) = cells := by
  have hparts : ∀ part ∈ cells.map String.toList, ',' ∉ part :=
    List.forall_mem_map.mpr fun cell hcell => (h cell hcell).comma_not_mem
  rw [Table.cells, cellChars, Text.splitAt_intercalate (by simpa using hne) hparts, List.map_map]
  exact (List.map_congr_left fun _ _ => String.ofList_toList).trans (List.map_id _)

/-- There is no line break before its end. -/
theorem lineBreak_not_mem_cellChars {cells : List String}
    (h : ∀ cell ∈ cells, IsCell cell.toList) : '\n' ∉ cellChars cells :=
  Text.not_mem_intercalate (by decide)
    (List.forall_mem_map.mpr fun cell hcell => (h cell hcell).lineBreak_not_mem)

/-- The lines of a text that is made of lines with a line break after each of them. -/
theorem Table.lines?_flatMap {lines : List (List Char)} (h : ∀ line ∈ lines, '\n' ∉ line) :
    lines? (lines.flatMap fun line => line ++ ['\n']) = some lines := by
  rw [lines?, Text.splitAt_flatMap h, List.getLast?_append, List.dropLast_concat]
  rfl

/-! ### Tables -/

namespace TableFormat

variable {k : Kind} (f : TableFormat k) (s : Selection)

/-- The cells of the head. -/
def headCells : List String :=
  match s with
  | .valid => f.names
  | .all => f.names ++ ["valid"]

/-- The cells of an event. -/
def rowCells (e : Event k) : List String :=
  match s with
  | .valid => f.cells e
  | .all => f.cells e ++ [bitCell e.valid]

theorem headLine_eq : f.headLine s = cellLine (f.headCells s) := by
  cases s <;> rfl

theorem eventLine_eq (e : Event k) : f.eventLine s e = cellLine (f.rowCells s e) := by
  cases s <;> rfl

/-- The text of a table of given events. -/
def text (es : List (Event k)) : String :=
  String.join (f.headLine s :: es.map (f.eventLine s))

/-- A format whose tables can be read again: each row has as many cells as the head, at least one,
and commas and line breaks stand nowhere else than between them. -/
structure Regular : Prop where
  names_ne_nil : f.names ≠ []
  length_cells : ∀ e, (f.cells e).length = f.names.length
  isCell_name : ∀ name ∈ f.names, IsCell name.toList
  isCell_cell : ∀ e, ∀ cell ∈ f.cells e, IsCell cell.toList

variable {f s}

namespace Regular

variable (hf : f.Regular)
include hf

theorem length_rowCells (s : Selection) (e : Event k) :
    (f.rowCells s e).length = (f.headCells s).length := by
  cases s with
  | valid => exact hf.length_cells e
  | all => rw [rowCells, headCells, List.length_append, List.length_append, hf.length_cells e]; rfl

theorem headCells_ne_nil (s : Selection) : f.headCells s ≠ [] := by
  cases s with
  | valid => exact hf.names_ne_nil
  | all => exact List.append_ne_nil_of_left_ne_nil hf.names_ne_nil _

theorem rowCells_ne_nil (s : Selection) (e : Event k) : f.rowCells s e ≠ [] := by
  have hlength := List.length_pos_iff.mpr (hf.headCells_ne_nil s)
  rw [← hf.length_rowCells s e] at hlength
  exact List.length_pos_iff.mp hlength

theorem isCell_headCell (s : Selection) : ∀ cell ∈ f.headCells s, IsCell cell.toList := by
  cases s with
  | valid => exact hf.isCell_name
  | all =>
    exact List.forall_mem_append.mpr
      ⟨hf.isCell_name, List.forall_mem_singleton.mpr (by decide)⟩

theorem isCell_rowCell (s : Selection) (e : Event k) :
    ∀ cell ∈ f.rowCells s e, IsCell cell.toList := by
  cases s with
  | valid => exact hf.isCell_cell e
  | all =>
    exact List.forall_mem_append.mpr
      ⟨hf.isCell_cell e, List.forall_mem_singleton.mpr (isCell_bitCell e.valid)⟩

/-- The lines of a table. -/
theorem lines?_text (s : Selection) (es : List (Event k)) :
    Table.lines? (f.text s es).toList =
      some (cellChars (f.headCells s) :: es.map fun e => cellChars (f.rowCells s e)) := by
  have htext : (f.text s es).toList =
      (cellChars (f.headCells s) :: es.map fun e => cellChars (f.rowCells s e)).flatMap
        fun line => line ++ ['\n'] := by
    rw [text, String.toList_join, List.flatMap_cons, List.flatMap_cons, List.flatMap_map,
      List.flatMap_map, headLine_eq, toList_cellLine]
    simp only [eventLine_eq, toList_cellLine]
  have hlines : ∀ line ∈ cellChars (f.headCells s) :: es.map fun e => cellChars (f.rowCells s e),
      '\n' ∉ line :=
    List.forall_mem_cons.mpr ⟨lineBreak_not_mem_cellChars (hf.isCell_headCell s),
      List.forall_mem_map.mpr fun e _ => lineBreak_not_mem_cellChars (hf.isCell_rowCell s e)⟩
  rw [htext, Table.lines?_flatMap hlines]

/-- What is read from the text of a table: the cells that have been written. -/
theorem ofText?_text (s : Selection) (es : List (Event k)) :
    Table.ofText? (f.text s es) = some ⟨f.headCells s, es.map (f.rowCells s)⟩ := by
  rw [Table.ofText?, hf.lines?_text]
  dsimp only
  rw [cells_cellChars (hf.headCells_ne_nil s) (hf.isCell_headCell s), List.map_map]
  refine congrArg (fun rows => some (Table.mk _ rows)) (List.map_congr_left fun e _ => ?_)
  exact cells_cellChars (hf.rowCells_ne_nil s e) (hf.isCell_rowCell s e)

end Regular

/-! ### The formats of the two kinds -/

theorem isCell_columnCell (c : Column) (e : Event .polarity) : IsCell (c.cell e).toList := by
  cases c with
  | x => exact isCell_natural _
  | y => exact isCell_natural _
  | polarity => exact isCell_bitCell _
  | timestamp => exact isCell_integer _

theorem regular_polarity (o : FieldOrder) : (polarity o).Regular where
  names_ne_nil := by
    have hlength : o.names.length = 4 := (List.length_map _).trans o.length_eq
    exact List.ne_nil_of_length_eq_add_one hlength
  length_cells e := (List.length_map _).trans (List.length_map _).symm
  isCell_name := List.forall_mem_map.mpr fun c _ => by cases c <;> decide
  isCell_cell e := List.forall_mem_map.mpr fun c _ => isCell_columnCell c e

theorem regular_imu9 : imu9.Regular where
  names_ne_nil := List.cons_ne_nil _ _
  length_cells e := rfl
  isCell_name := by decide
  isCell_cell e :=
    List.forall_mem_cons.mpr
      ⟨isCell_integer _, List.forall_mem_map.mpr fun x _ => isCell_binary32 x⟩

end TableFormat

end EventPackets
