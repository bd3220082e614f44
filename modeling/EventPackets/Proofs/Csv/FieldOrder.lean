import Mathlib.Data.List.Forall2
import Mathlib.Data.List.Induction
import Mathlib.Data.List.Nodup
import EventPackets.Proofs.Csv.Cells
import EventPackets.Proofs.Text.Blank
import EventPackets.Proofs.Text.Letters
import EventPackets.Proofs.Text.Split

/-!
# Descriptions of a column order

A description is accepted if its parts name the four columns, each once.  Neither the case of its
letters nor blanks around a part count.  Otherwise it is the first part at fault that counts: one
that names no column, or one that has been named before.  Only where no part is at fault can there
be too few of them, and never too many, since five parts cannot name four columns without a
repetition.

## Main definitions

* `Column.aliases` : the names that a column goes by.
* `FieldOrder.partsOf` : the parts of a description, which is cut at its commas.
* `FieldOrder.Names` : a part that names a column.
* `FieldOrder.ReportedAs` : the form in which a part is reported.
* `FieldOrder.NamesOnce` : parts that name columns, none of them twice.
* `FieldOrder.Faulty` : what is wrong with a part that follows such parts.

## Main results

* `FieldOrder.normalize_mem_aliases_iff` : the parts that name a column.
* `FieldOrder.exists_namesOnce_or_faulty` : a description without a fault, or its first fault.
* `FieldOrder.parse_of_namesOnce`, `FieldOrder.parse_of_faulty` : what is read in either case.
* `FieldOrder.order_grammar` : which descriptions are accepted, and how the others are refused.
-/

namespace EventPackets

namespace Column

/-- The names that a column goes by. -/
def aliases : Column → List String
  | x => ["x"]
  | y => ["y"]
  | polarity => ["p", "pol", "polarity"]
  | timestamp => ["t", "ts", "timestamp"]

theorem ofAlias?_eq_some_iff {s : String} {c : Column} : ofAlias? s = some c ↔ s ∈ c.aliases := by
  constructor
  · intro h
    unfold ofAlias? at h
    split at h <;> cases h <;> decide
  · intro h
    cases c with
    | x | y =>
      obtain rfl := List.mem_singleton.mp h
      rfl
    | polarity | timestamp =>
      simp only [aliases, List.mem_cons, List.not_mem_nil, or_false] at h
      rcases h with rfl | rfl | rfl <;> rfl

theorem ofAlias?_eq_none_iff {s : String} : ofAlias? s = none ↔ ∀ c : Column, s ∉ c.aliases := by
  simp only [Option.eq_none_iff_forall_ne_some, ne_eq, ofAlias?_eq_some_iff]

/-- Names of columns are in lower case, and have no k in them. -/
theorem plain_of_mem_aliases {c : Column} {name : String} (h : name ∈ c.aliases) :
    name.toList.map Char.toLower = name.toList ∧ ∀ d ∈ name.toList, Text.IsPlain d := by
  have hlower : ∀ name ∈ c.aliases, name.toList.map Char.toLower = name.toList := by
    cases c <;> decide
  have hplain : ∀ name ∈ c.aliases, name.toList.all fun d => decide (Text.IsPlain d) := by
    cases c <;> decide
  exact ⟨hlower name h, fun d hd => of_decide_eq_true (List.all_eq_true.mp (hplain name h) d hd)⟩

end Column

namespace FieldOrder

variable {part core : List Char} {parts before after : List (List Char)} {cs seen new : List Column}
  {c : Column} {fault : FormatFault} {s : String}

/-! ### Parts -/

/-- The parts of a description. -/
def partsOf (s : String) : List (List Char) :=
  Text.splitAt ',' s.toList

/-- The part names the column, whatever the case of its letters and the blanks around it. -/
def Names (part : List Char) (c : Column) : Prop :=
  ∃ core, Text.IsCore part core ∧ ∃ name ∈ c.aliases, Text.SameLetters core name.toList

/-- A part is reported in lower case and without the blanks around it. -/
def ReportedAs (part : List Char) (q : String) : Prop :=
  ∃ core, Text.IsCore part core ∧ q.toList = Text.lowercase core

theorem normalize_eq_iff {q : String} : normalize part = q ↔ ReportedAs part q := by
  constructor
  · rintro rfl
    exact ⟨Text.trim part, Text.isCore_trim part, String.toList_ofList⟩
  · rintro ⟨core, hcore, hq⟩
    rw [normalize, hcore.trim_eq, ← hq, String.ofList_toList]

/-- In ASCII texts it is the letters from A to Z that are reported in lower case. -/
theorem reportedAs_of_ascii (hcore : Text.IsCore part core) (hascii : ∀ c ∈ core, c.toNat < 0x80) :
    ReportedAs part (String.ofList (core.map Char.toLower)) := by
  refine ⟨core, hcore, ?_⟩
  rw [String.toList_ofList, Text.lowercase, Text.lowercaseAfter_of_ascii hascii]

/-- The parts that name a column are those whose lower-case form is one of its names. -/
theorem normalize_mem_aliases_iff : normalize part ∈ c.aliases ↔ Names part c := by
  have hname {name : String} (hmem : name ∈ c.aliases) :
      normalize part = name ↔ Text.SameLetters (Text.trim part) name.toList := by
    obtain ⟨hlower, hplain⟩ := Column.plain_of_mem_aliases hmem
    rw [← Text.lowercase_eq_iff hlower hplain, normalize, ← String.toList_inj,
      String.toList_ofList]
  constructor
  · intro h
    exact ⟨Text.trim part, Text.isCore_trim part, normalize part, h, (hname h).mp rfl⟩
  · rintro ⟨core, hcore, name, hmem, hsame⟩
    rw [← hcore.trim_eq] at hsame
    exact (hname hmem).mpr hsame ▸ hmem

/-- The parts name the columns `cs` one after another, and none of them twice. -/
structure NamesOnce (parts : List (List Char)) (cs : List Column) : Prop where
  names : List.Forall₂ Names parts cs
  nodup : cs.Nodup

/-- What is wrong with a part that follows others, which have named the columns `seen`. -/
inductive Faulty (seen : List Column) (part : List Char) : FormatFault → Prop
  | unknown (h : ∀ c, ¬ Names part c) : Faulty seen part (.unknownField (normalize part))
  | duplicate {c : Column} (hc : c ∈ seen) (h : Names part c) :
      Faulty seen part (.duplicateField (normalize part))

/-- A part is at fault, or names a column that has not been named before. -/
theorem exists_faulty_or_names (seen : List Column) (part : List Char) :
    (∃ fault, Faulty seen part fault) ∨ ∃ c, c ∉ seen ∧ Names part c := by
  by_cases hnames : ∃ c, Names part c
  · obtain ⟨c, hc⟩ := hnames
    by_cases hseen : c ∈ seen
    · exact .inl ⟨_, .duplicate hseen hc⟩
    · exact .inr ⟨c, hseen, hc⟩
  · exact .inl ⟨_, .unknown (not_exists.mp hnames)⟩

/-- No part is at fault, or there is a first one that is. -/
theorem exists_namesOnce_or_faulty (parts : List (List Char)) :
    (∃ cs, NamesOnce parts cs) ∨
      ∃ before part after cs fault,
        parts = before ++ part :: after ∧ NamesOnce before cs ∧ Faulty cs part fault := by
  induction parts using List.reverseRecOn with
  | nil => exact .inl ⟨[], .nil, List.nodup_nil⟩
  | append_singleton parts part ih =>
    obtain ⟨cs, hcs⟩ | ⟨before, first, after, cs, fault, rfl, hcs, hfault⟩ := ih
    · obtain ⟨fault, hfault⟩ | ⟨c, hnew, hc⟩ := exists_faulty_or_names cs part
      · exact .inr ⟨parts, part, [], cs, fault, rfl, hcs, hfault⟩
      · have hnodup := hcs.nodup.concat hnew
        rw [List.concat_eq_append] at hnodup
        exact .inl ⟨cs ++ [c], List.rel_append hcs.names (.cons hc .nil), hnodup⟩
    · exact .inr ⟨before, first, after ++ [part], cs, fault, by simp, hcs, hfault⟩

theorem NamesOnce.length_eq (h : NamesOnce parts cs) : parts.length = cs.length :=
  h.names.length_eq

/-- There are four columns only. -/
theorem NamesOnce.length_le (h : NamesOnce parts cs) : cs.length ≤ 4 := by
  have hsub : cs ⊆ [.x, .y, .polarity, .timestamp] := fun c _ => by cases c <;> decide
  exact (List.subperm_of_subset h.nodup hsub).length_le

/-! ### Reading -/

theorem columnsOf_cons_of_faulty (h : Faulty seen part fault) :
    columnsOf seen (part :: parts) = .error fault := by
  cases h with
  | unknown h =>
    have hnone : ∀ c : Column, normalize part ∉ c.aliases :=
      fun c => mt normalize_mem_aliases_iff.mp (h c)
    rw [columnsOf, Column.ofAlias?_eq_none_iff.mpr hnone]
  | duplicate hc h =>
    rw [columnsOf, Column.ofAlias?_eq_some_iff.mpr (normalize_mem_aliases_iff.mpr h)]
    exact if_pos hc

theorem columnsOf_cons_of_names (hc : c ∉ seen) (h : Names part c) :
    columnsOf seen (part :: parts) = columnsOf (seen ++ [c]) parts := by
  rw [columnsOf, Column.ofAlias?_eq_some_iff.mpr (normalize_mem_aliases_iff.mpr h)]
  exact if_neg hc

/-- Parts that name new columns are read, and then what follows them. -/
theorem columnsOf_append (h : List.Forall₂ Names before new) (hnodup : (seen ++ new).Nodup)
    (rest : List (List Char)) :
    columnsOf seen (before ++ rest) = columnsOf (seen ++ new) rest := by
  induction h generalizing seen with
  | nil => rw [List.nil_append, List.append_nil]
  | @cons part c before new hc _ ih =>
    have hnew : c ∉ seen := fun hmem =>
      (List.nodup_append.mp hnodup).2.2 c hmem c List.mem_cons_self rfl
    rw [List.append_cons] at hnodup
    rw [List.cons_append, columnsOf_cons_of_names hnew hc, ih hnodup, ← List.append_cons]

theorem NamesOnce.columnsOf_append (h : NamesOnce before cs) (rest : List (List Char)) :
    columnsOf [] (before ++ rest) = columnsOf cs rest := by
  have hnodup : ([] ++ cs).Nodup := h.nodup
  exact FieldOrder.columnsOf_append h.names hnodup rest

theorem parse_of_namesOnce (h : NamesOnce (partsOf s) cs) :
    parse s =
      if hlength : cs.length = 4 then .ok ⟨cs, h.nodup, hlength⟩ else .error .fieldCount := by
  have hcolumns := h.columnsOf_append []
  rw [List.append_nil, columnsOf] at hcolumns
  rw [parse, ← partsOf, hcolumns]
  dsimp only
  by_cases hlength : cs.length = 4
  · rw [dif_pos hlength, dif_pos ⟨h.nodup, hlength⟩]
  · rw [dif_neg hlength, dif_neg fun hboth => hlength hboth.2]

/-- The first part at fault is reported. -/
theorem parse_of_faulty (hparts : partsOf s = before ++ part :: after)
    (h : NamesOnce before cs) (hfault : Faulty cs part fault) : parse s = .error fault := by
  have hcolumns := h.columnsOf_append (part :: after)
  rw [columnsOf_cons_of_faulty hfault] at hcolumns
  rw [parse, ← partsOf, hparts, hcolumns]

theorem parse_eq_ok_iff {o : FieldOrder} :
    parse s = .ok o ↔ List.Forall₂ Names (partsOf s) o.columns := by
  constructor
  · intro h
    obtain ⟨cs, hcs⟩ | ⟨before, part, after, cs, fault, hparts, hcs, hfault⟩ :=
      exists_namesOnce_or_faulty (partsOf s)
    · rw [parse_of_namesOnce hcs] at h
      split at h
      · cases h
        exact hcs.names
      · cases h
    · rw [parse_of_faulty hparts hcs hfault] at h
      cases h
  · intro h
    rw [parse_of_namesOnce ⟨h, o.nodup⟩, dif_pos o.length_eq]

theorem parse_eq_error_iff :
    parse s = .error fault ↔
      (fault = .fieldCount ∧ (partsOf s).length < 4 ∧ ∃ cs, NamesOnce (partsOf s) cs) ∨
      ∃ before part after cs, partsOf s = before ++ part :: after ∧ NamesOnce before cs ∧
        Faulty cs part fault := by
  constructor
  · intro h
    obtain ⟨cs, hcs⟩ | ⟨before, part, after, cs, fault', hparts, hcs, hfault⟩ :=
      exists_namesOnce_or_faulty (partsOf s)
    · rw [parse_of_namesOnce hcs] at h
      split at h
      · cases h
      next hne =>
        cases h
        have hle := hcs.length_le
        exact .inl ⟨rfl, by rw [hcs.length_eq]; omega, cs, hcs⟩
    · rw [parse_of_faulty hparts hcs hfault] at h
      cases h
      exact .inr ⟨before, part, after, cs, hparts, hcs, hfault⟩
  · rintro (⟨rfl, hlt, cs, hcs⟩ | ⟨before, part, after, cs, hparts, hcs, hfault⟩)
    · rw [hcs.length_eq] at hlt
      rw [parse_of_namesOnce hcs, dif_neg (Nat.ne_of_lt hlt)]
    · exact parse_of_faulty hparts hcs hfault

theorem parse_eq_unknownField_iff {q : String} :
    parse s = .error (.unknownField q) ↔
      ∃ before part after cs, partsOf s = before ++ part :: after ∧ NamesOnce before cs ∧
        ReportedAs part q ∧ ∀ c, ¬ Names part c := by
  rw [parse_eq_error_iff]
  constructor
  · rintro (⟨h, -⟩ | ⟨before, part, after, cs, hparts, hcs, hfault⟩)
    · cases h
    · cases hfault with
      | unknown h => exact ⟨before, part, after, cs, hparts, hcs, normalize_eq_iff.mp rfl, h⟩
  · rintro ⟨before, part, after, cs, hparts, hcs, hq, h⟩
    obtain rfl := normalize_eq_iff.mpr hq
    exact .inr ⟨before, part, after, cs, hparts, hcs, .unknown h⟩

theorem parse_eq_duplicateField_iff {q : String} :
    parse s = .error (.duplicateField q) ↔
      ∃ before part after cs, partsOf s = before ++ part :: after ∧ NamesOnce before cs ∧
        ReportedAs part q ∧ ∃ c ∈ cs, Names part c := by
  rw [parse_eq_error_iff]
  constructor
  · rintro (⟨h, -⟩ | ⟨before, part, after, cs, hparts, hcs, hfault⟩)
    · cases h
    · cases hfault with
      | duplicate hc h =>
        exact ⟨before, part, after, cs, hparts, hcs, normalize_eq_iff.mp rfl, _, hc, h⟩
  · rintro ⟨before, part, after, cs, hparts, hcs, hq, c, hc, h⟩
    obtain rfl := normalize_eq_iff.mpr hq
    exact .inr ⟨before, part, after, cs, hparts, hcs, .duplicate hc h⟩

theorem parse_eq_fieldCount_iff :
    parse s = .error .fieldCount ↔ (partsOf s).length < 4 ∧ ∃ cs, NamesOnce (partsOf s) cs := by
  rw [parse_eq_error_iff]
  constructor
  · rintro (⟨-, h⟩ | ⟨before, part, after, cs, -, -, hfault⟩)
    · exact h
    · cases hfault
  · exact fun h => .inl ⟨rfl, h⟩

/-- Of more than four parts one is at fault. -/
theorem exists_faulty_of_lt_length (h : 4 < parts.length) :
    ∃ before part after cs fault,
      parts = before ++ part :: after ∧ NamesOnce before cs ∧ Faulty cs part fault := by
  obtain ⟨cs, hcs⟩ | hfaulty := exists_namesOnce_or_faulty parts
  · have hlength := hcs.length_eq
    have hle := hcs.length_le
    omega
  · exact hfaulty

/-! ### Headers -/

theorem names_name (c : Column) : Names c.name.toList c := by
  have hcore : Text.trim c.name.toList = c.name.toList := by cases c <;> decide
  exact ⟨_, Text.trim_eq_iff.mp hcore, c.name, by cases c <;> decide, rfl⟩

theorem comma_not_mem_name (c : Column) : ',' ∉ c.name.toList := by
  cases c <;> decide

/-- The parts of a header are the names of its columns. -/
theorem partsOf_header (o : FieldOrder) :
    partsOf o.header = o.columns.map fun c => c.name.toList := by
  have hparts : ∀ part ∈ o.columns.map fun c => c.name.toList, ',' ∉ part :=
    List.forall_mem_map.mpr fun c _ => comma_not_mem_name c
  have hne : (o.columns.map fun c => c.name.toList) ≠ [] :=
    List.ne_nil_of_length_pos (by rw [List.length_map, o.length_eq]; decide)
  have hheader : o.header.toList = [','].intercalate (o.columns.map fun c => c.name.toList) := by
    rw [header, String.toList_intercalate, names, List.map_map]
    rfl
  rw [partsOf, hheader, Text.splitAt_intercalate hne hparts]

/-- An order is read back from its header. -/
theorem parse_header (o : FieldOrder) : parse o.header = .ok o := by
  rw [parse_eq_ok_iff, partsOf_header, List.forall₂_map_left_iff, List.forall₂_same]
  exact fun c _ => names_name c

/-! ### Classification -/

/-- A description is cut at its commas.  It gives an order if and only if its parts, whatever the
case of their letters and the blanks around them, name the four columns in this order, each once;
the header of the order gives it again.  Otherwise the first part that names no column, or one that
has been named before, is reported in lower case and without the blanks around it.  Parts are
missing if and only if there are fewer than four and none is at fault; of more than four, one
is. -/
theorem order_grammar (s : String) :
    (∀ parts, partsOf s = parts ↔
      parts ≠ [] ∧ (∀ part ∈ parts, ',' ∉ part) ∧ [','].intercalate parts = s.toList) ∧
    (∀ cs, (∃ o, parse s = .ok o ∧ o.columns = cs) ↔
      cs.Perm [.x, .y, .polarity, .timestamp] ∧ List.Forall₂ Names (partsOf s) cs) ∧
    (∀ o : FieldOrder, parse o.header = .ok o) ∧
    (∀ part core, Text.IsCore part core → (∀ c ∈ core, c.toNat < 0x80) →
      ReportedAs part (String.ofList (core.map Char.toLower))) ∧
    (∀ q, parse s = .error (.unknownField q) ↔
      ∃ before part after cs, partsOf s = before ++ part :: after ∧ NamesOnce before cs ∧
        ReportedAs part q ∧ ∀ c, ¬ Names part c) ∧
    (∀ q, parse s = .error (.duplicateField q) ↔
      ∃ before part after cs, partsOf s = before ++ part :: after ∧ NamesOnce before cs ∧
        ReportedAs part q ∧ ∃ c ∈ cs, Names part c) ∧
    (parse s = .error .fieldCount ↔ (partsOf s).length < 4 ∧ ∃ cs, NamesOnce (partsOf s) cs) ∧
    (4 < (partsOf s).length →
      ∃ q, parse s = .error (.unknownField q) ∨ parse s = .error (.duplicateField q)) ∧
    ∀ q, FormatFault.message (.unknownField q) = "Unknown field: " ++ q ++ ". Use x, y, p, t" ∧
      FormatFault.message (.duplicateField q) = "Duplicate field: " ++ q ∧
      FormatFault.message .fieldCount = "Format must have exactly 4 fields: x, y, p, t" := by
  refine ⟨fun parts => Text.splitAt_eq_iff, fun cs => ⟨?_, ?_⟩, parse_header,
    fun part core => reportedAs_of_ascii, fun q => parse_eq_unknownField_iff,
    fun q => parse_eq_duplicateField_iff, parse_eq_fieldCount_iff, fun hlong => ?_,
    fun q => ⟨rfl, rfl, rfl⟩⟩
  · rintro ⟨o, ho, rfl⟩
    exact ⟨o.columns_perm, parse_eq_ok_iff.mp ho⟩
  · rintro ⟨hperm, hnames⟩
    have hnodup : cs.Nodup := hperm.nodup_iff.mpr (by decide)
    exact ⟨⟨cs, hnodup, hperm.length_eq⟩, parse_eq_ok_iff.mpr hnames, rfl⟩
  · obtain ⟨before, part, after, cs, fault, hparts, hcs, hfault⟩ := exists_faulty_of_lt_length hlong
    refine ⟨normalize part, ?_⟩
    rw [parse_of_faulty hparts hcs hfault]
    cases hfault with
    | unknown => exact .inl rfl
    | duplicate => exact .inr rfl

end FieldOrder

end EventPackets
