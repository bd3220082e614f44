import Mathlib.Data.List.Perm.Subperm
import EventPackets.Proofs.Csv.Text
import EventPackets.Proofs.Number.Digits

/-!
# Cells found by name

The head and the rows of a table are made by different functions, from one list of columns.  So the
cell that stands under the name of a column is the cell of that column, wherever the column
stands.

## Main results

* `TableFormat.Regular.cell?_rowCells`, `TableFormat.Regular.bit?_valid` : what stands under the
  name of a column, and in the column for the validity.
* `PolarityRow.ofCells?_rowCells` : a polarity event is read back from its row.
-/

namespace EventPackets

/-! ### Looking up a column -/

namespace Table

variable {head row head' row' : List String} {n : String}

/-- The first columns of a table come first. -/
theorem cell?_append (h : head.length = row.length) :
    cell? (head ++ head') (row ++ row') n = (cell? head row n).or (cell? head' row' n) := by
  rw [cell?, List.zip_append h, List.lookup_append]
  rfl

theorem cell?_cons_self (c : String) : cell? (n :: head) (c :: row) n = some c :=
  List.lookup_cons_self

theorem cell?_cons_of_ne {m : String} (h : n ≠ m) (c : String) :
    cell? (m :: head) (c :: row) n = cell? head row n := by
  rw [cell?, List.zip_cons_cons, List.lookup_cons, beq_false_of_ne h]
  rfl

theorem cell?_eq_none (h : n ∉ head) : cell? head row n = none := by
  refine List.lookup_eq_none_iff.mpr fun p hp => bne_iff_ne.mpr ?_
  rintro rfl
  exact h (List.of_mem_zip hp).1

/-- The cell under the name of a column, if no two columns have the same name. -/
theorem cell?_map {α : Type} {name value : α → String} (hname : Function.Injective name)
    {as : List α} {a : α} (h : a ∈ as) : cell? (as.map name) (as.map value) (name a) =
      some (value a) := by
  induction as with
  | nil => cases h
  | cons b as ih =>
    rw [List.map_cons, List.map_cons]
    by_cases hab : a = b
    · rw [hab, cell?_cons_self]
    · rw [cell?_cons_of_ne (hname.ne hab)]
      exact ih ((List.mem_cons.mp h).resolve_left hab)

theorem bit?_eq_of_cell? {b : Bool} (h : cell? head row n = some (bitCell b)) :
    bit? head row n = some b := by
  rw [bit?, h]
  cases b <;> rfl

theorem bit?_eq_none (h : cell? head row n = none) : bit? head row n = none := by
  rw [bit?, h]

theorem natural?_eq_of_cell? {i : Nat} (h : cell? head row n = some (toString i)) :
    natural? head row n = some i := by
  rw [natural?, h]
  exact Digits.toNat?_toString i

theorem integer?_eq_of_cell? {z : Int} (h : cell? head row n = some (toString z)) :
    integer? head row n = some z := by
  rw [integer?, h]
  exact Digits.integer?_toString z

end Table

namespace TableFormat

variable {k : Kind} {f : TableFormat k}

theorem headCells_eq (f : TableFormat k) (s : Selection) :
    f.headCells s = f.names ++ if s = .all then ["valid"] else [] := by
  cases s with
  | valid => exact (List.append_nil _).symm
  | all => rfl

theorem rowCells_eq (f : TableFormat k) (s : Selection) (e : Event k) :
    f.rowCells s e = f.cells e ++ if s = .all then [bitCell e.valid] else [] := by
  cases s with
  | valid => exact (List.append_nil _).symm
  | all => rfl

namespace Regular

variable (hf : f.Regular)
include hf

/-- A last column changes nothing about the others. -/
theorem cell?_rowCells {e : Event k} {n c : String} (h : Table.cell? f.names (f.cells e) n = some c)
    (s : Selection) : Table.cell? (f.headCells s) (f.rowCells s e) n = some c := by
  rw [headCells_eq, rowCells_eq, Table.cell?_append (hf.length_cells e).symm, h]
  rfl

/-- The last column tells whether an event is valid, if it is there. -/
theorem bit?_valid (hn : "valid" ∉ f.names) (s : Selection) (e : Event k) :
    Table.bit? (f.headCells s) (f.rowCells s e) "valid" =
      if s = .all then some e.valid else none := by
  have hcell : Table.cell? (f.headCells s) (f.rowCells s e) "valid" =
      Table.cell? (if s = .all then ["valid"] else [])
        (if s = .all then [bitCell e.valid] else []) "valid" := by
    rw [headCells_eq, rowCells_eq, Table.cell?_append (hf.length_cells e).symm,
      Table.cell?_eq_none hn]
    rfl
  cases s with
  | valid => exact Table.bit?_eq_none hcell
  | all => exact Table.bit?_eq_of_cell? (hcell.trans (Table.cell?_cons_self _))

end Regular

end TableFormat

/-! ### Polarity events -/

theorem Column.name_injective : Function.Injective Column.name := by
  intro c d h
  have halias := congrArg Column.ofAlias? h
  rwa [Column.ofAlias?_name, Column.ofAlias?_name, Option.some_inj] at halias

namespace FieldOrder

variable (o : FieldOrder)

/-- An order has all four columns. -/
theorem columns_perm : o.columns.Perm [.x, .y, .polarity, .timestamp] := by
  have hsub : o.columns ⊆ [.x, .y, .polarity, .timestamp] := fun c _ => by cases c <;> decide
  exact (List.subperm_of_subset o.nodup hsub).perm_of_length_le (Nat.le_of_eq o.length_eq.symm)

theorem mem_columns (c : Column) : c ∈ o.columns :=
  o.columns_perm.mem_iff.mpr (by cases c <;> decide)

theorem valid_not_mem_names : "valid" ∉ o.names := by
  rw [names, List.mem_map]
  rintro ⟨c, -, hc⟩
  revert hc
  cases c <;> decide

end FieldOrder

/-- The cell of a polarity event that stands under the name of a column. -/
theorem TableFormat.cell?_columnName (o : FieldOrder) (s : Selection) (e : Event .polarity)
    (c : Column) :
    Table.cell? ((polarity o).headCells s) ((polarity o).rowCells s e) c.name = some (c.cell e) :=
  (regular_polarity o).cell?_rowCells
    (Table.cell?_map Column.name_injective (o.mem_columns c)) s

/-- A polarity event is read back from its row, in whatever order the columns stand. -/
theorem PolarityRow.ofCells?_rowCells (o : FieldOrder) (s : Selection) (e : Event .polarity) :
    ofCells? ((TableFormat.polarity o).headCells s) ((TableFormat.polarity o).rowCells s e) =
      some (ofEvent s e) := by
  have hcell := TableFormat.cell?_columnName o s e
  have hx := Table.natural?_eq_of_cell? (n := "x") (hcell .x)
  have hy := Table.natural?_eq_of_cell? (n := "y") (hcell .y)
  have hpolarity := Table.bit?_eq_of_cell? (n := "polarity") (hcell .polarity)
  have htimestamp := Table.integer?_eq_of_cell? (n := "timestamp") (hcell .timestamp)
  have hvalid := (TableFormat.regular_polarity o).bit?_valid o.valid_not_mem_names s e
  rw [ofCells?, hx, hy, hpolarity, htimestamp, hvalid]
  rfl

end EventPackets
