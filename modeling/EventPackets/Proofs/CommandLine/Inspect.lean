import EventPackets.Proofs.CommandLine.Dump
import EventPackets.Proofs.Packet.Iteration
import EventPackets.Proofs.Stream.Independence
import EventPackets.Proofs.Stream.Offset
import Mathlib

/-!
# What an inspection and a dump have in common

An inspection prints the headers of packets as they are read, up to the first error.  A dump reads
all packets before it writes anything, and then goes by the marks of the slots and not by the
headers.  Both find the same packets and the same error in a file, and the counts in the headers are
those of the rows.

## Main definitions

* `ListedPacket.exported` : how many events of a packet are exported, by what is listed.
* `exportedSum` : the same for all packets of a kind.

## Main results

* `getElem?_inspectRows` : the row of a packet, which starts where the packets before it end.
* `exportedSum_inspectRows` : the counts in the headers are those of the exported events.
* `inspect_agrees_with_dump` : an inspection and a dump of the same file.
-/

namespace EventPackets.CommandLine

open Storage

/-! ### Rows -/

section Rows

variable {k : Kind} {sel : Selection} {p : AnyPacket} {ps : List AnyPacket}

@[simp]
theorem length_inspectRows (index offset : Nat) (ps : List AnyPacket) :
    (inspectRows index offset ps).length = ps.length := by
  induction ps generalizing index offset with
  | nil => rfl
  | cons p ps ih => rw [inspectRows, List.length_cons, ih, List.length_cons]

/-- The row of a packet starts where the packets before it end. -/
theorem getElem?_inspectRows (index offset n : Nat) (ps : List AnyPacket) :
    (inspectRows index offset ps)[n]? =
      ps[n]?.map (.ofPacket (index + n)
        (offset + (((inspectRows index offset ps).take n).map InspectRow.bytes).sum)) := by
  induction ps generalizing index offset n with
  | nil => rfl
  | cons p ps ih =>
    cases n with
    | zero => rfl
    | succ n =>
      rw [inspectRows, List.getElem?_cons_succ, ih, List.getElem?_cons_succ, List.take_succ_cons,
        List.map_cons, List.sum_cons, Nat.add_right_comm index, Nat.add_assoc offset]
      rfl

theorem sum_bytes_inspectRows (index offset : Nat) (ps : List AnyPacket) :
    ((inspectRows index offset ps).map InspectRow.bytes).sum =
      (Bytes.concat (ps.map AnyPacket.bytes)).size := by
  induction ps generalizing index offset with
  | nil => rfl
  | cons p ps ih =>
    rw [inspectRows, List.map_cons, List.sum_cons, ih, List.map_cons, Bytes.concat_cons,
      Array.size_append]
    rfl

theorem totalSize_eq (ps : List AnyPacket) :
    totalSize ps = (Bytes.concat (ps.map AnyPacket.bytes)).size := by
  induction ps with
  | nil => rfl
  | cons p ps ih =>
    rw [List.map_cons, Bytes.concat_cons, Array.size_append, ← ih]
    rfl

/-- How many events of a packet are exported, by what is listed. -/
def ListedPacket.exported (sel : Selection) (r : ListedPacket) : Int :=
  match sel with
  | .valid => r.valid
  | .all => min r.number r.capacity

/-- How many events of the packets of a kind are exported, by what is listed. -/
def exportedSum (k : Kind) (sel : Selection) (listed : List ListedPacket) : Int :=
  ((listed.filter fun r => r.kind = k).map (ListedPacket.exported sel)).sum

/-- The packets of a listing. -/
def listedPackets (ps : List AnyPacket) : List ListedPacket :=
  (inspectRows 0 0 ps).map ListedPacket.ofRow

@[simp]
theorem length_listedPackets (ps : List AnyPacket) : (listedPackets ps).length = ps.length := by
  rw [listedPackets, List.length_map, length_inspectRows]

theorem map_bytes_listedPackets (rows : List InspectRow) :
    (rows.map ListedPacket.ofRow).map ListedPacket.bytes = rows.map InspectRow.bytes :=
  List.map_map

/-- A packet is listed with its number, with the bytes before it and with what its header says. -/
theorem getElem?_listedPackets (n : Nat) (ps : List AnyPacket) :
    (listedPackets ps)[n]? =
      ps[n]?.map (.ofPacket n (((listedPackets ps).take n).map ListedPacket.bytes).sum) := by
  rw [listedPackets, List.getElem?_map, getElem?_inspectRows, ← List.map_take,
    map_bytes_listedPackets, Nat.zero_add, Nat.zero_add, Option.map_map]
  rfl

theorem sum_bytes_listedPackets (ps : List AnyPacket) :
    ((listedPackets ps).map ListedPacket.bytes).sum =
      (Bytes.concat (ps.map AnyPacket.bytes)).size := by
  rw [listedPackets, map_bytes_listedPackets, sum_bytes_inspectRows]

/-- As all marks are counted, the header of an accepted packet tells how many events are
exported. -/
theorem exported_ofPacket {q : Packet k} (hq : AnyPacket.ofBytes q.bytes = .ok ⟨k, q⟩)
    (sel : Selection) (index offset : Nat) :
    (ListedPacket.ofPacket index offset ⟨k, q⟩).exported sel = (sel.events q).length := by
  have hc : q.Consistent := AnyPacket.consistent_of_ofBytes hq
  have hm := AnyPacket.marksCounted_of_ofBytes hq
  cases sel with
  | valid => exact ((Packet.length_validEvents_eq_iff hc).mpr hm).symm
  | all =>
    have hnumber : (q.number.toNatClampNeg : Int) = q.number.toInt :=
      Int.toNat_of_nonneg hc.number_nonneg
    have hlength : q.events.length = q.eventCount := by
      rw [Packet.events, List.length_map, List.length_range]
    rw [Selection.events, hlength, Packet.eventCount, Nat.cast_min, hnumber, hc.toInt_capacity]
    rfl

/-- The counts in the headers are those of the exported events. -/
theorem exportedSum_inspectRows (hps : ∀ p ∈ ps, AnyPacket.ofBytes p.bytes = .ok p) (k : Kind)
    (sel : Selection) (index offset : Nat) :
    exportedSum k sel ((inspectRows index offset ps).map ListedPacket.ofRow) =
      ((exportedEvents k sel ps).length : Int) := by
  induction ps generalizing index offset with
  | nil => rfl
  | cons p ps ih =>
    obtain ⟨l, q⟩ := p
    rw [List.forall_mem_cons] at hps
    have hrest := ih hps.2 (index + 1) (offset + (⟨l, q⟩ : AnyPacket).bytes.size)
    rw [exportedSum] at hrest
    have hrow :
        ListedPacket.ofRow (.ofPacket index offset ⟨l, q⟩) = .ofPacket index offset ⟨l, q⟩ := rfl
    have hkind : (ListedPacket.ofPacket index offset ⟨l, q⟩).kind = l := rfl
    rw [exportedSum, inspectRows, List.map_cons, hrow, List.filter_cons, hkind]
    by_cases hl : l = k
    · subst hl
      rw [if_pos (decide_eq_true rfl), List.map_cons, List.sum_cons, hrest,
        exported_ofPacket hps.1, exportedEvents_cons_self, List.length_append, Int.natCast_add]
    · rw [if_neg (by simpa using hl), hrest, exportedEvents_cons_of_ne hl]

end Rows

/-! ### The two commands -/

section Commands

variable {s : Storage} {data : Bytes} {input output format : String} {imu9 : Option String}
  {all quiet : Bool} {order : FieldOrder} {ps : List AnyPacket} {e : ReadError} {r : Reader}

/-- What is printed about packets at the start of a file. -/
def inspectText (ps : List AnyPacket) : String :=
  String.join ((columnNames :: (inspectRows 0 0 ps).map InspectRow.cells).map inspectLine)

/-- The packets are read back from what is printed about them. -/
theorem exists_table_inspectText (ps : List AnyPacket) :
    ∃ table, Table.ofColumns? (inspectText ps) = some table ∧
      table.rows.map (ListedPacket.ofCells? table.head) = (listedPackets ps).map some := by
  refine ⟨_, ListedPacket.ofColumns?_rows _, ?_⟩
  rw [listedPackets, List.map_map, List.map_map]
  exact List.map_congr_left fun r _ => ListedPacket.ofCells?_cells r

section Packets

variable (hopen : s.openFile input = .ok (.ofBytes data))
include hopen

theorem inspect_of_packets (h : (Reader.ofSource (.ofBytes data)).packets = (ps, none, r)) :
    inspect input s =
      ⟨0, inspectText ps, s!"\n{ps.length} packets, {totalSize ps} bytes\n", s⟩ := by
  rw [inspect, openPackets, hopen]
  dsimp only
  rw [h]
  rfl

theorem inspect_of_fault (h : (Reader.ofSource (.ofBytes data)).packets = (ps, some e, r)) :
    inspect input s = .failed (inspectText ps) "" (readFailure e) s := by
  rw [inspect, openPackets, hopen]
  dsimp only
  rw [h]
  rfl

theorem readPackets_of_packets (h : (Reader.ofSource (.ofBytes data)).packets = (ps, none, r)) :
    s.readPackets input = .ok ps := by
  rw [readPackets, openPackets, hopen]
  dsimp only
  rw [Reader.collect, h]

theorem readPackets_of_fault (h : (Reader.ofSource (.ofBytes data)).packets = (ps, some e, r)) :
    s.readPackets input = .error e := by
  rw [readPackets, openPackets, hopen]
  dsimp only
  rw [Reader.collect, h]

end Packets

/-- Before it has read everything, a dump writes nothing. -/
theorem dump_of_readPackets_error (hformat : FieldOrder.parse format = .ok order)
    (hread : s.readPackets input = .error e) :
    dump input output format imu9 all quiet s = .failed "" "" (readFailure e) s := by
  rw [dump, hformat]
  dsimp only
  rw [hread]
  rfl

/-- An error that ends the packets at the start of a file is the error that their rest has on its
own, further on, and a packet that is rejected starts where they end. -/
theorem error_of_fault (h : (Reader.ofSource (.ofBytes data)).packets = (ps, some e, r)) :
    ∃ rest e', data = Bytes.concat (ps.map AnyPacket.bytes) ++ rest ∧
      (∀ p ∈ ps, AnyPacket.ofBytes p.bytes = .ok p) ∧
      (Reader.ofSource (.ofBytes rest)).next.1 = .error e' ∧
      e = e'.shift (Bytes.concat (ps.map AnyPacket.bytes)).size ∧
      ((∃ cause, e = .invalidPacket (Bytes.concat (ps.map AnyPacket.bytes)).size cause) ∨
        ∃ offset, e = .unexpectedEnd offset) := by
  obtain ⟨r₁, hps, hrest, hoffset, hunfailing, hnext⟩ := Reader.front_of_packets h
  have hdata : (Reader.ofSource (.ofBytes data)).source.rest = data := Source.rest_ofBytes data
  have htotal : r₁.offset = (Bytes.concat (ps.map AnyPacket.bytes)).size :=
    hoffset.trans (Nat.zero_add _)
  have hahead : Reader.Ahead (Bytes.concat (ps.map AnyPacket.bytes)).size r₁
      (.ofSource (.ofBytes r₁.source.rest)) :=
    ⟨⟨hunfailing (Source.unfailing_ofBytes data), Source.unfailing_ofBytes _,
      (Source.rest_ofBytes _).symm⟩, htotal.trans (Nat.zero_add _).symm⟩
  have hshift := hahead.next.1
  rw [hnext] at hshift
  cases hfresh : (Reader.ofSource (.ofBytes r₁.source.rest)).next.1 with
  | ok p =>
    rw [hfresh] at hshift
    cases hshift
  | error e' =>
    rw [hfresh] at hshift
    refine ⟨_, e', hdata.symm.trans hrest, hps, hfresh, Except.error.inj hshift, ?_⟩
    have hstep := Reader.step_iff.mpr hnext
    cases e with
    | io cause => exact (hstep.ne_io (hunfailing (Source.unfailing_ofBytes data))).elim
    | invalidPacket offset cause =>
      obtain rfl := (Reader.rejectedAt_of_step hstep).1.trans htotal
      exact .inl ⟨cause, rfl⟩
    | unexpectedEnd offset => exact .inr ⟨offset, rfl⟩

/-- What is printed about an error that ends the packets at the start of a file. -/
theorem exists_text_of_fault {total : Nat}
    (h : (∃ cause, e = .invalidPacket total cause) ∨ ∃ offset, e = .unexpectedEnd offset) :
    (∃ cause more, e = .invalidPacket total cause ∧ (readFailure e).text =
        unreadHead ++ s!"    0: Invalid packet at byte {total}: " ++ more) ∨
      ∃ offset, e = .unexpectedEnd offset ∧ (readFailure e).text =
        unreadHead ++ s!"    Unexpected end of file at byte {offset}\n" := by
  rcases h with ⟨cause, rfl⟩ | ⟨offset, rfl⟩
  · obtain ⟨more, htext⟩ := text_invalidPacket total cause
    exact .inl ⟨cause, more, rfl, htext⟩
  · exact .inr ⟨offset, rfl, text_unexpectedEnd offset⟩

/-- An inspection and a dump of the same file find the same packets and the same error.  The
inspection prints a table in which each packet before the error has a row, with what its header says
and with the sum of the bytes of the rows above it.  If there is no error, the counts that it prints
are the numbers of rows that the dump counts.  Otherwise the dump has written nothing, and both name
the error. -/
theorem inspect_agrees_with_dump (threshold threshold' : Severity) (quiet all : Bool)
    (imu9 : Option String) (hopen : s.openFile input = .ok (.ofBytes data))
    (hformat : FieldOrder.parse format = .ok order)
    (houtput : ∃ place s₁, s.create output = .ok (place, s₁))
    (himu9 : ∀ path, imu9 = some path → ∃ place s₁, s.create path = .ok (place, s₁)) :
    let i := Invocation.run ⟨threshold, quiet, .inspect input⟩ s
    let d := Invocation.run ⟨threshold', false, .dump input output format imu9 all⟩ s
    (i.exitCode = 0 ↔ d.exitCode = 0) ∧
      ∃ (ps : List AnyPacket) (table : Table) (listed : List ListedPacket) (rest : Bytes),
        (∀ p ∈ ps, AnyPacket.ofBytes p.bytes = .ok p) ∧
        data = Bytes.concat (ps.map AnyPacket.bytes) ++ rest ∧
        Table.ofColumns? i.stdout = some table ∧
        table.rows.map (ListedPacket.ofCells? table.head) = listed.map some ∧
        listed.length = ps.length ∧
        (∀ n : Nat, listed[n]? =
          ps[n]?.map (.ofPacket n ((listed.take n).map ListedPacket.bytes).sum)) ∧
        (i.exitCode = 0 → rest = #[] ∧
          i.stderr = s!"\n{listed.length} packets, {data.size} bytes\n" ∧
          ∃ polarityRows imu9Rows : Nat,
            d.stderr = dumpSummary input output imu9 listed.length polarityRows imu9Rows ∧
            SummaryShows d.stderr listed.length polarityRows imu9Rows ∧
            (polarityRows : Int) = exportedSum .polarity (selectionOf all) listed ∧
            (imu9Rows : Int) =
              if imu9.isSome = true ∨ ∀ p ∈ ps, p.kind ≠ .polarity
                then exportedSum .imu9 (selectionOf all) listed else 0) ∧
        (i.exitCode ≠ 0 → i.exitCode = 1 ∧ d.exitCode = 1 ∧ d.stdout = "" ∧ d.storage = s ∧
          ∃ e, (Reader.ofSource (.ofBytes rest)).next.1 = .error e ∧
            let total := (listed.map ListedPacket.bytes).sum
            s.readPackets input = .error (e.shift total) ∧
            i.stderr = (readFailure (e.shift total)).text ∧ d.stderr = i.stderr ∧
            ((∃ cause more, e.shift total = .invalidPacket total cause ∧ i.stderr =
                unreadHead ++ s!"    0: Invalid packet at byte {total}: " ++ more) ∨
              ∃ offset, e.shift total = .unexpectedEnd offset ∧ i.stderr =
                unreadHead ++ s!"    Unexpected end of file at byte {offset}\n")) := by
  intro i d
  obtain ⟨⟨ps, error, r⟩, hpackets⟩ : ∃ x, (Reader.ofSource (.ofBytes data)).packets = x := ⟨_, rfl⟩
  obtain ⟨table, htable, hrows⟩ := exists_table_inspectText ps
  cases error with
  | none =>
    have hi : i = _ := inspect_of_packets hopen hpackets
    have hread := readPackets_of_packets hopen hpackets
    obtain ⟨hps, hrest, -⟩ := Reader.rest_of_packets (Source.unfailing_ofBytes data) hpackets
    have hdata : data = Bytes.concat (ps.map AnyPacket.bytes) :=
      (Source.rest_ofBytes data).symm.trans hrest
    have hexit : d.exitCode = 0 :=
      exitCode_dump_of_createsAt hformat hread (exists_createsAt houtput)
        fun path hpath => exists_createsAt (himu9 path hpath)
    obtain ⟨order', ps', m, n, s₁, s₂, -, hread', hpolarityStep, himu9Step, hdump⟩ :=
      exists_written_of_exitCode hexit
    obtain rfl : ps' = ps := Except.ok.inj (hread'.symm.trans hread)
    have hd : d = _ := hdump
    have hn := imu9Rows_eq himu9Step
    simp only [hasKind_eq_false_iff] at hn
    rw [hi, hd, if_neg Bool.false_ne_true]
    refine ⟨Iff.rfl, ps', table, listedPackets ps', #[], hps, hdata.trans Array.append_empty.symm,
      htable, hrows, length_listedPackets ps', fun n => getElem?_listedPackets n ps',
      fun _ => ⟨rfl, ?_, m, n, ?_, ?_, ?_, ?_⟩, fun h => absurd rfl h⟩
    · rw [length_listedPackets, totalSize_eq, ← hdata]
    · rw [length_listedPackets]
    · rw [length_listedPackets]
      exact summaryShows_dumpSummary input output imu9 ps'.length m n
    · rw [polarityRows_eq hpolarityStep, listedPackets, exportedSum_inspectRows hps]
    · rw [hn, listedPackets, exportedSum_inspectRows hps, Nat.cast_ite, Nat.cast_zero]
  | some e =>
    have hi : i = _ := inspect_of_fault hopen hpackets
    have hread := readPackets_of_fault hopen hpackets
    have hd : d = _ := dump_of_readPackets_error hformat hread
    obtain ⟨rest, e', hdata, hps, hnext, rfl, hfault⟩ := error_of_fault hpackets
    rw [hi, hd]
    refine ⟨Iff.rfl, ps, table, listedPackets ps, rest, hps, hdata, htable, hrows,
      length_listedPackets ps, fun n => getElem?_listedPackets n ps, nofun,
      fun _ => ⟨rfl, rfl, rfl, rfl, e', hnext, ?_⟩⟩
    rw [sum_bytes_listedPackets]
    exact ⟨hread, String.empty_append, rfl, exists_text_of_fault hfault⟩

end Commands

/-- A packet with two events, the second of which is not valid any more. -/
theorem inspect_agrees_with_dump_one_packet :
    let p : Packet .polarity :=
      ⟨#[1, 0, 1, 0, 8, 0, 0, 0, 4, 0, 0, 0, 0, 0, 0, 0, 2, 0, 0, 0, 2, 0, 0, 0, 1, 0, 0, 0,
        11, 0, 2, 0, 5, 0, 0, 0, 10, 0, 2, 0, 6, 0, 0, 0]⟩
    let s := Storage.ofFiles ["home"] [("in", p.bytes)]
    let i := Invocation.run ⟨.error, false, .inspect "in"⟩ s
    let d := Invocation.run ⟨.error, false, .dump "in" "out.csv" "x,y,p,t" none true⟩ s
    i.exitCode = 0 ∧ d.exitCode = 0 ∧
      (∃ table, Table.ofColumns? i.stdout = some table ∧
        table.rows.map (ListedPacket.ofCells? table.head) =
          [some ⟨0, 0, .polarity, 1, 2, 2, 1, 0, 44⟩]) ∧
      i.stderr = "\n1 packets, 44 bytes\n" ∧ SummaryShows d.stderr 1 2 0 := by
  intro p s i d
  have hp : AnyPacket.ofBytes p.bytes = .ok ⟨.polarity, p⟩ :=
    AnyPacket.ofBytes_eq_ok_iff.mpr ⟨rfl, by decide +kernel⟩
  have hrow : ListedPacket.ofPacket 0 0 ⟨.polarity, p⟩ = ⟨0, 0, .polarity, 1, 2, 2, 1, 0, 44⟩ := by
    decide +kernel
  have hsize : p.bytes.size = 44 := by decide +kernel
  have hformat : FieldOrder.parse "x,y,p,t" = .ok .xypt := by rfl
  clear_value p
  have hall : ∀ q ∈ [(⟨.polarity, p⟩ : AnyPacket)], AnyPacket.ofBytes q.bytes = .ok q :=
    List.forall_mem_singleton.mpr hp
  have hconcat : p.bytes = Bytes.concat ([(⟨.polarity, p⟩ : AnyPacket)].map AnyPacket.bytes) := by
    simp [AnyPacket.bytes]
  have hopen : s.openFile "in" = .ok (.ofBytes p.bytes) := rfl
  have hout : s.create "out.csv" = .ok (["home", "out.csv"], s.put ["home", "out.csv"] #[]) :=
    create_eq_ok_iff.mpr ⟨⟨by decide +kernel, by rfl, by rfl⟩, rfl⟩
  obtain ⟨r, hpackets⟩ := Reader.packets_of_rest (r := .ofSource (.ofBytes p.bytes))
    (Source.unfailing_ofBytes _) hall ((Source.rest_ofBytes _).trans hconcat)
  have hexit : (Invocation.run ⟨.error, false, .inspect "in"⟩ s).exitCode = 0 :=
    congrArg Outcome.exitCode (inspect_of_packets hopen hpackets)
  obtain ⟨hiff, ps, table, listed, rest, hps, hdata, htable, hrows, hlength, hlisted, hok, -⟩ :=
    inspect_agrees_with_dump .error .error false true none hopen hformat ⟨_, _, hout⟩ nofun
  obtain ⟨rfl, hstderr, m, n, -, hshows, hm, hn⟩ := hok hexit
  -- The packet is the only one, and so is its row.
  obtain ⟨r', hpackets'⟩ := Reader.packets_of_rest (r := .ofSource (.ofBytes p.bytes))
    (Source.unfailing_ofBytes _) hps
    ((Source.rest_ofBytes _).trans (hdata.trans Array.append_empty))
  obtain rfl : ps = [⟨.polarity, p⟩] := congrArg Prod.fst (hpackets'.symm.trans hpackets)
  obtain ⟨row, rfl⟩ := List.length_eq_one_iff.mp hlength
  obtain rfl : row = _ := (Option.some.inj (hlisted 0)).trans hrow
  obtain rfl : m = 2 := Int.ofNat_inj.mp (hm.trans (by decide))
  obtain rfl : n = 0 := Int.ofNat_inj.mp (hn.trans (if_neg (by simp)))
  rw [hsize] at hstderr
  exact ⟨hexit, hiff.mp hexit, ⟨table, htable, hrows⟩, hstderr, hshows⟩

end EventPackets.CommandLine
