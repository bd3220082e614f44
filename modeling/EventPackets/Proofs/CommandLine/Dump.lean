import EventPackets.CommandLine.Invocation
import EventPackets.Proofs.CommandLine.Printed
import EventPackets.Proofs.Csv.Export
import EventPackets.Proofs.PacketFile

/-!
# What a dump leaves behind

A dump writes at most two tables, the polarity table first.  These are all the ways in which it
ends; whatever is said of dumps in this library goes through this list.

If it succeeds, each table is in the file that it has been written into, unless the other table has
been written into the same file afterwards.

## Main definitions

* `ExportStep` : the outcomes of writing a table to a path that may be absent.
* `DumpStep` : the outcomes of a dump.
* `dumpPath`, `dumpFormat` : where the table of a kind goes, and its columns.

## Main results

* `exportTo_step`, `dump_step` : they end in one of these outcomes.
* `exitCode_dump_of_createsAt` : a dump of what can be read succeeds where files can be created.
* `polarityRows_eq`, `imu9Rows_eq` : the numbers of rows that are counted.
* `holdsTable_output_iff` : when the polarity table is still there in the end.
* `holdsTable_dump_of_kind` : the table of packets of one kind.
* `tables_of_dump` : the tables that a successful dump leaves behind.
* `polarity_table_lost_to_imu9_path` : a polarity table that is not there in the end.
-/

namespace EventPackets.CommandLine

open Storage

/-! ### Kinds of packets -/

section Kinds

variable {k : Kind} {sel : Selection} {p : AnyPacket} {ps : List AnyPacket}

theorem hasKind_eq_true_iff : hasKind k ps = true ↔ ∃ p ∈ ps, p.kind = k := by
  simp [hasKind]

theorem hasKind_eq_false_iff : hasKind k ps = false ↔ ∀ p ∈ ps, p.kind ≠ k := by
  simp [hasKind]

/-- Without packets of a kind there are no events of that kind. -/
theorem exportedEvents_eq_nil (h : hasKind k ps = false) : exportedEvents k sel ps = [] := by
  have hnone : ∀ p ∈ ps, p.ofKind? k = none := fun p hp => dif_neg (hasKind_eq_false_iff.mp h p hp)
  rw [exportedEvents_eq_flatMap, List.filterMap_eq_nil_iff.mpr hnone]
  rfl

theorem hasKind_map_or (qs : List (Packet k)) :
    hasKind k (qs.map (AnyPacket.mk k)) = true ∨ qs.map (AnyPacket.mk k) = [] := by
  cases qs with
  | nil => exact .inr rfl
  | cons q qs => exact .inl (by simp [hasKind])

theorem hasKind_map_of_ne {l : Kind} (h : k ≠ l) (qs : List (Packet k)) :
    hasKind l (qs.map (AnyPacket.mk k)) = false := by
  refine hasKind_eq_false_iff.mpr fun p hp => ?_
  obtain ⟨q, -, rfl⟩ := List.mem_map.mp hp
  exact h

end Kinds

/-! ### The plan -/

section Plan

variable {output path : String} {imu9 : Option String} {ps : List AnyPacket}

theorem DumpPlan.polarity_eq_some (h : hasKind .polarity ps = true ∨ ps = []) :
    (DumpPlan.ofPackets output imu9 ps).polarity = some output := by
  refine if_pos ?_
  rcases h with h | rfl
  · rw [h, Bool.true_or]
  · rfl

theorem DumpPlan.hasKind_of_polarity_eq_none
    (h : (DumpPlan.ofPackets output imu9 ps).polarity = none) : hasKind .polarity ps = false := by
  cases hkind : hasKind .polarity ps with
  | false => rfl
  | true =>
    rw [polarity_eq_some (.inl hkind)] at h
    cases h

/-- Where the IMU9 table goes. -/
theorem DumpPlan.imu9_eq_some_iff :
    (DumpPlan.ofPackets output imu9 ps).imu9 = some path ↔
      imu9 = some path ∨
        imu9 = none ∧ path = output ∧ hasKind .polarity ps = false ∧ hasKind .imu9 ps = true := by
  cases imu9 with
  | some path' => simp [DumpPlan.ofPackets]
  | none =>
    simp only [DumpPlan.ofPackets, Bool.and_eq_true, Bool.not_eq_true',
      Option.ite_none_right_eq_some, Option.some.injEq, reduceCtorEq, false_or, true_and]
    exact ⟨fun ⟨h, hpath⟩ => ⟨hpath.symm, h⟩, fun ⟨hpath, h⟩ => ⟨h, hpath.symm⟩⟩

end Plan

/-! ### One table -/

section Table

variable {k : Kind} {path : Option String} {f : TableFormat k} {sel : Selection}
  {ps : List AnyPacket} {s : Storage}

/-- The outcomes of writing a table to a path that may be absent: the number of its rows or an
error, and the storage afterwards. -/
inductive ExportStep (f : TableFormat k) (sel : Selection) (ps : List AnyPacket) (s : Storage) :
    Option String → Except OutputError Nat → Storage → Prop
  /-- there is no path -/
  | skipped : ExportStep f sel ps s none (.ok 0) s
  /-- no file can be created -/
  | refused {path : String} {e : IoError} (hcreate : s.create path = .error e) :
      ExportStep f sel ps s (some path) (.error (.io e)) s
  /-- the table is written -/
  | written {path : String} {p : Place} (hcreate : s.CreatesAt path p) :
      ExportStep f sel ps s (some path) (.ok (exportedEvents k sel ps).length)
        (s.withTable p f sel (exportedEvents k sel ps))

theorem exportTo_step (path : Option String) (f : TableFormat k) (sel : Selection)
    (ps : List AnyPacket) (s : Storage) :
    ExportStep f sel ps s path (exportTo path f sel ps s).1 (exportTo path f sel ps s).2 := by
  cases path with
  | none => exact .skipped
  | some path =>
    cases hcreate : s.create path with
    | error e =>
      have hexport : exportTo (some path) f sel ps s = (.error (.io e), s) := by
        rw [exportTo, exportTable, hcreate]
      rw [hexport]
      exact .refused hcreate
    | ok created =>
      obtain ⟨hp, -⟩ := create_eq_ok_iff.mp hcreate
      rw [exportTo, hp.exportTable_eq]
      exact .written hp

namespace ExportStep

variable {n : Nat} {s' : Storage}

/-- A table that is written is counted. -/
theorem rows_eq (h : ExportStep f sel ps s path (.ok n) s') :
    n = if path.isSome then (exportedEvents k sel ps).length else 0 := by
  cases h with
  | skipped => rfl
  | written => rfl

/-- A table that is written is there afterwards. -/
theorem holdsTable {path : String} (h : ExportStep f sel ps s (some path) (.ok n) s')
    (hf : f.Regular) : s'.HoldsTable path f sel (exportedEvents k sel ps) := by
  cases h with
  | written hcreate => exact hcreate.holdsTable hf sel _

/-- A table stays where it is if no other one is written there. -/
theorem keepsTable {l : Kind} {e : Except OutputError Nat} {path' : String} {g : TableFormat l}
    {sel' : Selection} {es : List (Event l)} {q : Place} (h : ExportStep f sel ps s path e s')
    (htable : s.HoldsTable path' g sel' es) (hq : s.resolve path' = .ok q)
    (hne : ∀ path'', path = some path'' → s.resolve path'' ≠ .ok q) :
    s'.HoldsTable path' g sel' es := by
  cases h with
  | skipped => exact htable
  | refused => exact htable
  | written hcreate =>
    refine htable.withTable_of_ne hq (fun hqp => hne _ rfl ?_) f sel _
    rw [hcreate.resolve_eq, hqp]

/-- Where files can be created does not change. -/
theorem createsAt_iff {e : Except OutputError Nat} {path' : String} {p : Place}
    (h : ExportStep f sel ps s path e s') : s'.CreatesAt path' p ↔ s.CreatesAt path' p := by
  cases h with
  | skipped => exact Iff.rfl
  | refused => exact Iff.rfl
  | written => exact createsAt_withTable_iff

/-- A table is written wherever a file can be created. -/
theorem not_refused {e : OutputError} (h : ExportStep f sel ps s path (.error e) s')
    (hcreate : ∀ path', path = some path' → ∃ p, s.CreatesAt path' p) : False := by
  cases h with
  | refused hrefused =>
    obtain ⟨p, hp⟩ := hcreate _ rfl
    exact absurd (hrefused.symm.trans (create_eq_ok_iff.mpr ⟨hp, rfl⟩)) nofun

end ExportStep

end Table

/-! ### The dump -/

variable {input output format : String} {imu9 : Option String} {all quiet : Bool}
  {s : Storage} {o : Outcome}

/-- Which events a dump exports. -/
def selectionOf (all : Bool) : Selection :=
  if all then .all else .valid

@[simp]
theorem selectionOf_true : selectionOf true = .all := rfl

@[simp]
theorem selectionOf_false : selectionOf false = .valid := rfl

/-- The outcomes of a dump. -/
inductive DumpStep (input output format : String) (imu9 : Option String) (all quiet : Bool)
    (s : Storage) : Outcome → Prop
  /-- the format names no order of the columns -/
  | badFormat {fault : FormatFault} (hformat : FieldOrder.parse format = .error fault) :
      DumpStep input output format imu9 all quiet s
        (.failed "" ""
          ⟨"Invalid field format. Use comma-separated: x,y,p,t",
            outputCauses (.invalidFormat fault)⟩ s)
  /-- the input cannot be read as packets -/
  | unread {order : FieldOrder} {e : ReadError} (hformat : FieldOrder.parse format = .ok order)
      (hread : s.readPackets input = .error e) :
      DumpStep input output format imu9 all quiet s
        (.failed "" "" ⟨"Failed to read packet file", readCauses e⟩ s)
  /-- the polarity table cannot be written -/
  | polarityRefused {order : FieldOrder} {ps : List AnyPacket} {e : OutputError} {s₁ : Storage}
      (hformat : FieldOrder.parse format = .ok order) (hread : s.readPackets input = .ok ps)
      (hpolarity : ExportStep (.polarity order) (selectionOf all) ps s
        (DumpPlan.ofPackets output imu9 ps).polarity (.error e) s₁) :
      DumpStep input output format imu9 all quiet s
        (.failed "" "" ⟨"Failed to write polarity CSV", outputCauses e⟩ s₁)
  /-- the IMU9 table cannot be written -/
  | imu9Refused {order : FieldOrder} {ps : List AnyPacket} {e : OutputError} {rows : Nat}
      {s₁ s₂ : Storage} (hformat : FieldOrder.parse format = .ok order)
      (hread : s.readPackets input = .ok ps)
      (hpolarity : ExportStep (.polarity order) (selectionOf all) ps s
        (DumpPlan.ofPackets output imu9 ps).polarity (.ok rows) s₁)
      (himu9 : ExportStep .imu9 (selectionOf all) ps s₁
        (DumpPlan.ofPackets output imu9 ps).imu9 (.error e) s₂) :
      DumpStep input output format imu9 all quiet s
        (.failed "" "" ⟨"Failed to write IMU9 CSV", outputCauses e⟩ s₂)
  /-- all tables are written -/
  | written {order : FieldOrder} {ps : List AnyPacket} {polarityRows imu9Rows : Nat}
      {s₁ s₂ : Storage} (hformat : FieldOrder.parse format = .ok order)
      (hread : s.readPackets input = .ok ps)
      (hpolarity : ExportStep (.polarity order) (selectionOf all) ps s
        (DumpPlan.ofPackets output imu9 ps).polarity (.ok polarityRows) s₁)
      (himu9 : ExportStep .imu9 (selectionOf all) ps s₁
        (DumpPlan.ofPackets output imu9 ps).imu9 (.ok imu9Rows) s₂) :
      DumpStep input output format imu9 all quiet s
        ⟨0, "",
          if quiet then "" else dumpSummary input output imu9 ps.length polarityRows imu9Rows, s₂⟩

/-- Every dump ends in one of these outcomes. -/
theorem dump_step (input output format : String) (imu9 : Option String) (all quiet : Bool)
    (s : Storage) :
    DumpStep input output format imu9 all quiet s
      (dump input output format imu9 all quiet s) := by
  unfold dump
  split
  next fault hformat => exact .badFormat hformat
  next order hformat =>
    split
    next e hread => exact .unread hformat hread
    next ps hread =>
      dsimp only
      have hpolarity := exportTo_step (DumpPlan.ofPackets output imu9 ps).polarity
        (.polarity order) (selectionOf all) ps s
      unfold writeTables
      rw [← selectionOf]
      generalize exportTo (DumpPlan.ofPackets output imu9 ps).polarity (.polarity order)
        (selectionOf all) ps s = exported at hpolarity ⊢
      obtain ⟨e | polarityRows, s₁⟩ := exported
      · exact .polarityRefused hformat hread hpolarity
      · have himu9 := exportTo_step (DumpPlan.ofPackets output imu9 ps).imu9 .imu9
          (selectionOf all) ps s₁
        dsimp only
        generalize exportTo (DumpPlan.ofPackets output imu9 ps).imu9 .imu9 (selectionOf all) ps s₁
          = exported at himu9 ⊢
        obtain ⟨e | imu9Rows, s₂⟩ := exported
        · exact .imu9Refused hformat hread hpolarity himu9
        · exact .written hformat hread hpolarity himu9

section Rows

variable {order : FieldOrder} {sel : Selection} {ps : List AnyPacket} {s' : Storage} {n : Nat}

/-- All exported polarity events are counted. -/
theorem polarityRows_eq
    (h : ExportStep (.polarity order) sel ps s (DumpPlan.ofPackets output imu9 ps).polarity (.ok n)
      s') : n = (exportedEvents .polarity sel ps).length := by
  have hrows := h.rows_eq
  cases hplan : (DumpPlan.ofPackets output imu9 ps).polarity with
  | some => rwa [hplan] at hrows
  | none =>
    rw [hplan] at hrows
    rw [hrows, exportedEvents_eq_nil (DumpPlan.hasKind_of_polarity_eq_none hplan)]
    rfl

/-- All exported IMU9 events are counted if there is a path for them, or if the output path is not
used for polarity events. -/
theorem imu9Rows_eq
    (h : ExportStep .imu9 sel ps s (DumpPlan.ofPackets output imu9 ps).imu9 (.ok n) s') :
    n = if imu9.isSome = true ∨ hasKind .polarity ps = false
      then (exportedEvents .imu9 sel ps).length else 0 := by
  rw [h.rows_eq]
  cases hplan : (DumpPlan.ofPackets output imu9 ps).imu9 with
  | some path =>
    have hor : imu9.isSome = true ∨ hasKind .polarity ps = false := by
      rcases DumpPlan.imu9_eq_some_iff.mp hplan with rfl | ⟨-, -, hp, -⟩
      · exact .inl rfl
      · exact .inr hp
    rw [if_pos hor]
    rfl
  | none =>
    cases hi : hasKind .imu9 ps with
    | false => rw [exportedEvents_eq_nil hi, List.length_nil, ite_self, ite_self]
    | true =>
      -- A plan without an IMU9 table has a polarity table, and no path for the other one.
      have hnone : ¬ (imu9.isSome = true ∨ hasKind .polarity ps = false) := by
        rintro (hsome | hp)
        · obtain ⟨path, hpath⟩ := Option.isSome_iff_exists.mp hsome
          exact absurd (hplan.symm.trans (DumpPlan.imu9_eq_some_iff.mpr (.inl hpath))) nofun
        · cases himu9 : imu9 with
          | some path =>
            exact absurd (hplan.symm.trans (DumpPlan.imu9_eq_some_iff.mpr (.inl himu9))) nofun
          | none =>
            exact absurd
              (hplan.symm.trans (DumpPlan.imu9_eq_some_iff.mpr (.inr ⟨himu9, rfl, hp, hi⟩))) nofun
      rw [if_neg hnone]
      rfl

end Rows

/-- A dump of what can be read succeeds where files can be created. -/
theorem exitCode_dump_of_createsAt {order : FieldOrder} {ps : List AnyPacket}
    (hformat : FieldOrder.parse format = .ok order) (hread : s.readPackets input = .ok ps)
    (hpolarity : ∃ p, s.CreatesAt output p)
    (himu9 : ∀ path, imu9 = some path → ∃ p, s.CreatesAt path p) :
    (dump input output format imu9 all quiet s).exitCode = 0 := by
  have hplan : ∀ path, (DumpPlan.ofPackets output imu9 ps).imu9 = some path →
      ∃ p, s.CreatesAt path p := by
    intro path hpath
    rcases DumpPlan.imu9_eq_some_iff.mp hpath with h | ⟨-, rfl, -⟩
    · exact himu9 path h
    · exact hpolarity
  have hstep := dump_step input output format imu9 all quiet s
  generalize dump input output format imu9 all quiet s = o at hstep ⊢
  cases hstep with
  | badFormat hbad => exact absurd (hbad.symm.trans hformat) nofun
  | unread _ hunread => exact absurd (hunread.symm.trans hread) nofun
  | polarityRefused _ hread' hstep =>
    refine (hstep.not_refused fun path hpath => ?_).elim
    unfold DumpPlan.ofPackets at hpath
    split at hpath
    · exact Option.some.inj hpath ▸ hpolarity
    · cases hpath
  | imu9Refused _ hread' hpolarity hstep =>
    obtain rfl := Except.ok.inj (hread'.symm.trans hread)
    refine (hstep.not_refused fun path hpath => ?_).elim
    obtain ⟨p, hp⟩ := hplan path hpath
    exact ⟨p, hpolarity.createsAt_iff.mpr hp⟩
  | written => rfl

/-- A dump that succeeds has written all its tables. -/
theorem exists_written_of_exitCode
    (h : (dump input output format imu9 all quiet s).exitCode = 0) :
    ∃ order ps polarityRows imu9Rows s₁ s₂,
      FieldOrder.parse format = .ok order ∧ s.readPackets input = .ok ps ∧
        ExportStep (.polarity order) (selectionOf all) ps s
          (DumpPlan.ofPackets output imu9 ps).polarity (.ok polarityRows) s₁ ∧
        ExportStep .imu9 (selectionOf all) ps s₁
          (DumpPlan.ofPackets output imu9 ps).imu9 (.ok imu9Rows) s₂ ∧
        dump input output format imu9 all quiet s =
          ⟨0, "",
            if quiet then "" else dumpSummary input output imu9 ps.length polarityRows imu9Rows,
            s₂⟩ := by
  have hstep := dump_step input output format imu9 all quiet s
  generalize dump input output format imu9 all quiet s = o at h hstep
  cases hstep with
  | badFormat => cases h
  | unread => cases h
  | polarityRefused => cases h
  | imu9Refused => cases h
  | written hformat hread hpolarity himu9 =>
    exact ⟨_, _, _, _, _, _, hformat, hread, hpolarity, himu9, rfl⟩

/-- The heads of the tables of the two kinds are not the same. -/
theorem headCells_polarity_ne_imu9 (order : FieldOrder) (sel : Selection) :
    (TableFormat.polarity order).headCells sel ≠ TableFormat.imu9.headCells sel := by
  have hnames : (TableFormat.polarity order).names.length = 4 :=
    (List.length_map _).trans order.length_eq
  intro h
  cases sel with
  | valid => exact absurd (hnames.symm.trans (congrArg List.length h)) (by decide)
  | all =>
    have hlength := congrArg List.length h
    rw [TableFormat.headCells, TableFormat.headCells, List.length_append, List.length_append,
      hnames] at hlength
    exact absurd hlength (by decide)

/-- The polarity table is there in the end unless the IMU9 table has been written into its file. -/
theorem holdsTable_output_iff {order : FieldOrder} {ps : List AnyPacket} {sel : Selection}
    {m n : Nat} {s₁ s₂ : Storage} (hkind : hasKind .polarity ps = true ∨ ps = [])
    (hpolarity : ExportStep (.polarity order) sel ps s (DumpPlan.ofPackets output imu9 ps).polarity
      (.ok m) s₁)
    (himu9 : ExportStep .imu9 sel ps s₁ (DumpPlan.ofPackets output imu9 ps).imu9 (.ok n) s₂) :
    s₂.HoldsTable output (.polarity order) sel (exportedEvents .polarity sel ps) ↔
      ∀ path, imu9 = some path → s.resolve path ≠ s.resolve output := by
  rw [DumpPlan.polarity_eq_some hkind] at hpolarity
  have htable := hpolarity.holdsTable (TableFormat.regular_polarity order)
  cases hpolarity with
  | @written _ p hcreate =>
    have houtput := hcreate.resolve_eq
    constructor
    · intro hholds path hpath hsame
      rw [DumpPlan.imu9_eq_some_iff.mpr (.inl hpath)] at himu9
      have himu9Table := himu9.holdsTable TableFormat.regular_imu9
      cases himu9 with
      | @written _ q hcreate' =>
        -- Both paths lead to the place of the polarity table.
        have hpath' := createsAt_withTable_iff.mp hcreate'
        obtain rfl : q = p := Except.ok.inj (hpath'.resolve_eq.symm.trans (hsame.trans houtput))
        have himu9Output := himu9Table.congr (createsAt_withTable_iff.mpr hcreate')
          (createsAt_withTable_iff.mpr (createsAt_withTable_iff.mpr hcreate))
        exact headCells_polarity_ne_imu9 order sel (hholds.headCells_eq himu9Output)
    · intro hpaths
      refine himu9.keepsTable htable (resolve_withTable_eq_ok_iff.mpr houtput) ?_
      intro path hpath hresolve
      rcases DumpPlan.imu9_eq_some_iff.mp hpath with himu9 | ⟨-, -, hp, hi⟩
      · refine hpaths path himu9 ?_
        rw [resolve_withTable_eq_ok_iff.mp hresolve, houtput]
      · rcases hkind with hkind | rfl
        · exact absurd (hkind.symm.trans hp) nofun
        · cases hi

/-! ### Packets of one kind -/

/-- Where a dump puts the table of the only kind of packets in a file. -/
def dumpPath (output : String) (imu9 : Option String) : Kind → String
  | .polarity => output
  | .imu9 => imu9.getD output

/-- The tables of a dump. -/
def dumpFormat (order : FieldOrder) : (k : Kind) → TableFormat k
  | .polarity => .polarity order
  | .imu9 => .imu9

/-- A dump of packets of one kind leaves their table behind, unless it is a polarity table and the
IMU9 table has been written into its file.  If there are no packets, the table can be the empty one
of the other kind. -/
theorem holdsTable_dump_of_kind {k : Kind} {order : FieldOrder} {qs : List (Packet k)}
    (hformat : FieldOrder.parse format = .ok order)
    (hread : s.readPackets input = .ok (qs.map (AnyPacket.mk k)))
    (hexit : (dump input output format imu9 all quiet s).exitCode = 0)
    (hpaths : ∀ path, imu9 = some path → k = .polarity → s.resolve path ≠ s.resolve output) :
    ∃ l : Kind, (qs ≠ [] → l = k) ∧
      (dump input output format imu9 all quiet s).storage.HoldsTable (dumpPath output imu9 l)
        (dumpFormat order l) (selectionOf all)
        (exportedEvents l (selectionOf all) (qs.map (AnyPacket.mk k))) := by
  obtain ⟨order', ps, m, n, s₁, s₂, hformat', hread', hpolarity, himu9, hdump⟩ :=
    exists_written_of_exitCode hexit
  obtain rfl := Except.ok.inj (hformat'.symm.trans hformat)
  obtain rfl := Except.ok.inj (hread'.symm.trans hread)
  rw [hdump]
  by_cases hplan : k = .polarity ∨ qs = [] ∧ imu9 = none
  · -- the output path is used for the polarity table
    refine ⟨.polarity, fun hqs => ?_,
      (holdsTable_output_iff ?_ hpolarity himu9).mpr fun path hpath => ?_⟩
    · exact (hplan.resolve_right fun h => hqs h.1).symm
    · rcases hplan with rfl | ⟨rfl, -⟩
      · exact hasKind_map_or qs
      · exact .inr rfl
    · rcases hplan with hk | ⟨-, hnone⟩
      · exact hpaths path hpath hk
      · exact absurd (hnone.symm.trans hpath) nofun
  · obtain ⟨hk, hother⟩ := not_or.mp hplan
    obtain rfl : k = .imu9 := by
      cases k with
      | polarity => exact absurd rfl hk
      | imu9 => rfl
    have hpath : (DumpPlan.ofPackets output imu9 (qs.map (AnyPacket.mk .imu9))).imu9 =
        some (imu9.getD output) := by
      refine DumpPlan.imu9_eq_some_iff.mpr ?_
      cases imu9 with
      | some path => exact .inl rfl
      | none =>
        have hpolarity : Kind.imu9 ≠ .polarity := nofun
        have hsome := (hasKind_map_or qs).resolve_right fun h =>
          hother ⟨List.map_eq_nil_iff.mp h, rfl⟩
        exact .inr ⟨rfl, rfl, hasKind_map_of_ne hpolarity qs, hsome⟩
    rw [hpath] at himu9
    exact ⟨.imu9, fun _ => rfl, himu9.holdsTable TableFormat.regular_imu9⟩

/-- A dump that succeeds leaves behind the tables that it is asked for, each with a row for every
exported event in the order of the file, and its summary counts their rows.  Only if the IMU9 table
is written into the file of the polarity table is the polarity table not there. -/
theorem tables_of_dump {threshold : Severity}
    (hexit :
      (Invocation.run ⟨threshold, quiet, .dump input output format imu9 all⟩ s).exitCode = 0) :
    ∃ order ps, FieldOrder.parse format = .ok order ∧ s.readPackets input = .ok ps ∧
      let o := Invocation.run ⟨threshold, quiet, .dump input output format imu9 all⟩ s
      let sel := selectionOf all
      ((∃ p ∈ ps, p.kind = .polarity) ∨ ps = [] →
          (o.storage.HoldsTable output (.polarity order) sel (exportedEvents .polarity sel ps) ↔
            ∀ path, imu9 = some path → s.resolve path ≠ s.resolve output)) ∧
        (∀ path,
          (imu9 = some path ∨
            imu9 = none ∧ path = output ∧ (∀ p ∈ ps, p.kind ≠ .polarity) ∧
              ∃ p ∈ ps, p.kind = .imu9) →
            o.storage.HoldsTable path .imu9 sel (exportedEvents .imu9 sel ps)) ∧
        (quiet = false →
          ∃ polarityRows imu9Rows,
            o.stderr = dumpSummary input output imu9 ps.length polarityRows imu9Rows ∧
            SummaryShows o.stderr ps.length polarityRows imu9Rows ∧
            polarityRows = (exportedEvents .polarity sel ps).length ∧
            imu9Rows = if imu9.isSome = true ∨ ∀ p ∈ ps, p.kind ≠ .polarity
              then (exportedEvents .imu9 sel ps).length else 0) := by
  rw [Invocation.run] at hexit ⊢
  obtain ⟨order, ps, polarityRows, imu9Rows, s₁, s₂, hformat, hread, hpolarity, himu9, hdump⟩ :=
    exists_written_of_exitCode hexit
  dsimp only
  rw [hdump]
  refine ⟨order, ps, hformat, hread, fun hkind => ?_, fun path hpath => ?_, fun hquiet => ?_⟩
  · rw [← hasKind_eq_true_iff] at hkind
    exact holdsTable_output_iff hkind hpolarity himu9
  · rw [← hasKind_eq_false_iff, ← hasKind_eq_true_iff] at hpath
    rw [DumpPlan.imu9_eq_some_iff.mpr hpath] at himu9
    exact himu9.holdsTable TableFormat.regular_imu9
  · have hn := imu9Rows_eq himu9
    simp only [hasKind_eq_false_iff] at hn
    rw [hquiet, if_neg Bool.false_ne_true]
    exact ⟨polarityRows, imu9Rows, rfl,
      summaryShows_dumpSummary input output imu9 ps.length polarityRows imu9Rows,
      polarityRows_eq hpolarity, hn⟩

/-- A packet of each kind, each with an event: their tables in two files. -/
theorem tables_of_dump_two_files :
    let p : Packet .polarity :=
      ⟨#[1, 0, 1, 0, 8, 0, 0, 0, 4, 0, 0, 0, 0, 0, 0, 0, 1, 0, 0, 0, 1, 0, 0, 0, 1, 0, 0, 0,
        11, 0, 2, 0, 5, 0, 0, 0]⟩
    let q : Packet .imu9 := Packet.fresh .imu9 1 0 0
    let s := Storage.ofFiles ["home"] [("in", p.bytes ++ q.bytes)]
    let o := Invocation.run
      ⟨.error, false, .dump "in" "out.csv" "x,y,p,t" (some "imu9.csv") true⟩ s
    o.exitCode = 0 ∧ o.storage.HoldsTable "out.csv" (.polarity .xypt) .all [p.event 0] ∧
      o.storage.HoldsTable "imu9.csv" .imu9 .all [] ∧
      o.stderr = dumpSummary "in" "out.csv" (some "imu9.csv") 2 1 0 ∧
      SummaryShows o.stderr 2 1 0 := by
  intro p q s o
  have hp : AnyPacket.ofBytes p.bytes = .ok ⟨.polarity, p⟩ :=
    AnyPacket.ofBytes_eq_ok_iff.mpr ⟨rfl, by decide +kernel⟩
  have hq : AnyPacket.ofBytes q.bytes = .ok ⟨.imu9, q⟩ :=
    AnyPacket.ofBytes_eq_ok_iff.mpr ⟨rfl, by decide +kernel⟩
  have hpEvents : p.events = [p.event 0] := by decide +kernel
  have hqEvents : q.events = [] := by decide +kernel
  have hformat : FieldOrder.parse "x,y,p,t" = .ok .xypt := by rfl
  clear_value p q
  have hread : s.readPackets "in" = .ok [⟨.polarity, p⟩, ⟨.imu9, q⟩] := by
    refine readPackets_eq_ok_iff.mpr ⟨p.bytes ++ q.bytes, rfl, ?_⟩
    refine Reader.collect_ofBytes_eq_ok_iff.mpr ⟨?_, by simp [AnyPacket.bytes]⟩
    exact List.forall_mem_cons.mpr ⟨hp, List.forall_mem_singleton.mpr hq⟩
  have hout : s.CreatesAt "out.csv" ["home", "out.csv"] := ⟨by decide +kernel, by rfl, by rfl⟩
  have himu9 : s.CreatesAt "imu9.csv" ["home", "imu9.csv"] := ⟨by decide +kernel, by rfl, by rfl⟩
  have hexit : (Invocation.run
      ⟨.error, false, .dump "in" "out.csv" "x,y,p,t" (some "imu9.csv") true⟩ s).exitCode = 0 :=
    exitCode_dump_of_createsAt hformat hread ⟨_, hout⟩ fun path hpath => by
      cases hpath
      exact ⟨_, himu9⟩
  obtain ⟨order, ps, horder, hps, hpolarity, himu9Table, hsummary⟩ := tables_of_dump hexit
  obtain rfl := Except.ok.inj (horder.symm.trans hformat)
  obtain rfl := Except.ok.inj (hps.symm.trans hread)
  have hpExported : exportedEvents .polarity .all [⟨.polarity, p⟩, ⟨.imu9, q⟩] = [p.event 0] := by
    rw [exportedEvents_cons_self, exportedEvents_eq_nil rfl, List.append_nil]
    exact hpEvents
  have hqExported : exportedEvents .imu9 .all [⟨.polarity, p⟩, ⟨.imu9, q⟩] = [] := by
    have hne : Kind.polarity ≠ .imu9 := nofun
    rw [exportedEvents_cons_of_ne hne, exportedEvents_cons_self]
    exact (List.append_nil _).trans hqEvents
  rw [selectionOf_true, hpExported] at hpolarity
  rw [selectionOf_true, hqExported] at himu9Table
  obtain ⟨m, n, hstderr, hshows, hm, hn⟩ := hsummary rfl
  rw [selectionOf_true, hpExported] at hm
  rw [selectionOf_true, hqExported, if_pos (.inl rfl)] at hn
  subst hm hn
  have hpaths : ∀ path, some "imu9.csv" = some path → s.resolve path ≠ s.resolve "out.csv" := by
    intro path hpath
    cases hpath
    rw [hout.resolve_eq, himu9.resolve_eq]
    exact fun hsame => absurd (Except.ok.inj hsame) (by decide)
  exact ⟨hexit, (hpolarity (.inl ⟨_, List.mem_cons_self, rfl⟩)).mpr hpaths,
    himu9Table _ (.inl rfl), hstderr, hshows⟩

/-- Here the IMU9 table, which has no rows, takes the place of the polarity table, although the
summary counts a row of it. -/
theorem polarity_table_lost_to_imu9_path :
    let p : Packet .polarity :=
      ⟨#[1, 0, 1, 0, 8, 0, 0, 0, 4, 0, 0, 0, 0, 0, 0, 0, 1, 0, 0, 0, 1, 0, 0, 0, 1, 0, 0, 0,
        11, 0, 2, 0, 5, 0, 0, 0]⟩
    let s := Storage.ofFiles ["home"] [("in", p.bytes)]
    let i : Invocation := ⟨.error, false, .dump "in" "out.csv" "x,y,p,t" (some "out.csv") false⟩
    s.readPackets "in" = .ok [⟨.polarity, p⟩] ∧ p.validEvents = [p.event 0] ∧
      (i.run s).exitCode = 0 ∧
      (i.run s).stderr = dumpSummary "in" "out.csv" (some "out.csv") 1 1 0 ∧
      SummaryShows (i.run s).stderr 1 1 0 ∧
      (i.run s).storage.HoldsTable "out.csv" .imu9 .valid [] ∧
      ¬ (i.run s).storage.HoldsTable "out.csv" (.polarity .xypt) .valid [p.event 0] := by
  intro p s i
  have hp : AnyPacket.ofBytes p.bytes = .ok ⟨.polarity, p⟩ :=
    AnyPacket.ofBytes_eq_ok_iff.mpr ⟨rfl, by decide +kernel⟩
  have hevents : p.validEvents = [p.event 0] := by decide +kernel
  have hformat : FieldOrder.parse "x,y,p,t" = .ok .xypt := by rfl
  clear_value p
  have hread : s.readPackets "in" = .ok [⟨.polarity, p⟩] := by
    refine readPackets_eq_ok_iff.mpr ⟨p.bytes, rfl, ?_⟩
    refine Reader.collect_ofBytes_eq_ok_iff.mpr ⟨?_, by simp [AnyPacket.bytes]⟩
    exact List.forall_mem_singleton.mpr hp
  have hout : s.CreatesAt "out.csv" ["home", "out.csv"] := ⟨by decide +kernel, by rfl, by rfl⟩
  have hexit : (i.run s).exitCode = 0 :=
    exitCode_dump_of_createsAt hformat hread ⟨_, hout⟩ fun path hpath => by
      cases hpath
      exact ⟨_, hout⟩
  obtain ⟨order, ps, m, n, s₁, s₂, horder, hps, hpolarity, himu9, hdump⟩ :=
    exists_written_of_exitCode hexit
  obtain rfl := Except.ok.inj (horder.symm.trans hformat)
  obtain rfl := Except.ok.inj (hps.symm.trans hread)
  have hexported : exportedEvents .polarity .valid [⟨.polarity, p⟩] = [p.event 0] := by
    rw [exportedEvents_cons_self]
    exact (List.append_nil _).trans hevents
  have hrun : i.run s = _ := hdump
  have hm := polarityRows_eq hpolarity
  have hn := imu9Rows_eq himu9
  have hiff := holdsTable_output_iff (.inl rfl) hpolarity himu9
  rw [selectionOf_false, hexported] at hm hiff
  rw [hrun, hm, hn]
  dsimp only
  rw [if_neg Bool.false_ne_true, if_pos (.inl rfl)]
  exact ⟨hread, hevents, rfl, rfl, summaryShows_dumpSummary ..,
    himu9.holdsTable TableFormat.regular_imu9,
    fun hholds => hiff.mp hholds _ rfl rfl⟩

end EventPackets.CommandLine
