import EventPackets.Proofs.CommandLine.Dump
import EventPackets.Proofs.Packet.Recipe

/-!
# Synthesized files are recordings

What the synthesizer writes is read back as the packets that it has made, and these follow the
pattern exactly.  The pixel addresses are computed in 32 bits, but nowhere does a product leave the
width, and a timestamp that would leave it stops at the limit.  So timestamps never decrease in a
packet, and since every packet starts a new epoch of the overflow counter, they never decrease from
one packet to the next.

## Main definitions

* `Kind.IsSyntheticData`, `Event.IsSynthetic`, `Packet.IsSynthetic` : the pattern.
* `syntheticRecords` : the records of a packet.

## Main results

* `toInt_remEuclid_mul`, `toNat_coordinate` : the pixel addresses.
* `value_syntheticPacketAt`, `isSynthetic_of_holds` : one packet.
* `writeSynthetic_eq_ok`, `synth_of_createsAt`, `readPackets_of_holds` : the file.
* `length_flatMap_events`, `pairwise_timestamp64` : the rows of its table.
* `synthetic_recording` : the whole file, and a dump of it.
-/

namespace EventPackets

/-! ### The pattern -/

/-- The data of the `j`-th event of a packet. -/
def Kind.IsSyntheticData (k : Kind) (j : Nat) (d : k.Data) : Prop :=
  match k, d with
  | .polarity, (d : PolarityData) =>
    d.x.toNat = 7 * j % 640 ∧ d.y.toNat = 3 * j % 480 ∧ (d.on = true ↔ j % 2 = 0)
  | .imu9, (d : Imu9Sample) => d = CommandLine.syntheticSample j

/-- The time between two events, up to the limit of the width. -/
def Kind.period : Kind → Nat
  | .polarity => 10
  | .imu9 => 1000

/-- The `j`-th event of the `i`-th packet. -/
structure Event.IsSynthetic {k : Kind} (e : Event k) (i j : Nat) : Prop where
  valid_eq : e.valid = true
  timestamp_eq : e.timestamp.toInt = min (k.period * j) (0x7FFFFFFF)
  timestamp64_eq : e.timestamp64.toInt = i * 0x80000000 + e.timestamp.toInt
  data : k.IsSyntheticData j e.data

/-- The `i`-th packet with a given capacity and source. -/
structure Packet.IsSynthetic {k : Kind} (p : Packet k) (capacity : Int32) (source : Int16)
    (i : Nat) : Prop where
  overflow_eq : p.overflow.toInt = i
  source_eq : p.source.toInt = max source.toInt 0
  capacity_eq : p.capacity = capacity
  number_eq : p.number = capacity
  validCount_eq : p.validCount = capacity
  event : ∀ j < capacity.toNatClampNeg, (p.event j).IsSynthetic i j

namespace CommandLine

/-! ### Arithmetic -/

section Arithmetic

variable {a b : Int32} {j : Nat}

theorem toInt_mulSaturating (a b : Int32) :
    (mulSaturating a b).toInt =
      max Int32.minValue.toInt (min (a.toInt * b.toInt) Int32.maxValue.toInt) := by
  have hmin : Int32.minValue.toInt = -0x80000000 := Int32.toInt_minValue
  have hmax : Int32.maxValue.toInt = 0x7FFFFFFF := Int32.toInt_maxValue
  exact Int32.toInt_ofInt_of_le (by omega) (by omega)

theorem toInt_remEuclid (hb : 0 < b.toInt) : (remEuclid a b).toInt = a.toInt % b.toInt := by
  have hge := Int.emod_nonneg a.toInt (Int.ne_of_gt hb)
  have hlt := Int.emod_lt_of_pos a.toInt hb
  have hmax := b.toInt_lt
  exact Int32.toInt_ofInt_of_le (by omega) (by omega)

/-- A remainder times a factor is what it is for integers, as long as the modulus allows it. -/
theorem toInt_remEuclid_mul {m f : Int32} (hm : 0 < m.toInt) (hf : 0 ≤ f.toInt)
    (hmf : m.toInt * f.toInt < 0x80000000) (i : Int32) :
    (remEuclid i m * f).toInt = i.toInt % m.toInt * f.toInt := by
  have hge := Int.emod_nonneg i.toInt (Int.ne_of_gt hm)
  have hlt := Int.emod_lt_of_pos i.toInt hm
  have hpos : 0 ≤ i.toInt % m.toInt * f.toInt := Int.mul_nonneg hge hf
  have hle : i.toInt % m.toInt * f.toInt ≤ m.toInt * f.toInt :=
    Int.mul_le_mul_of_nonneg_right (Int.le_of_lt hlt) hf
  rw [Int32.toInt_mul, toInt_remEuclid hm]
  exact Int.bmod_eq_of_le (by omega) (by omega)

/-- A coordinate of a pixel, as a number. -/
theorem toNat_coordinate {m f : Int32} (hm : 0 < m.toInt) (hf : 0 ≤ f.toInt)
    (hmf : m.toInt * f.toInt < 0x80000000) (hm16 : m.toInt ≤ 0x10000) (hj : j < 0x80000000) :
    ((remEuclid (Int32.ofNat j) m * f % m).toUInt32.toUInt16).toNat =
      f.toNatClampNeg * j % m.toNatClampNeg := by
  have hvalue : (remEuclid (Int32.ofNat j) m * f % m).toInt =
      ((f.toNatClampNeg * j % m.toNatClampNeg : Nat) : Int) := by
    have hmNat : (m.toNatClampNeg : Int) = m.toInt := Int.toNat_of_nonneg (Int.le_of_lt hm)
    have hfNat : (f.toNatClampNeg : Int) = f.toInt := Int.toNat_of_nonneg hf
    have hge := Int.emod_nonneg (j : Int) (Int.ne_of_gt hm)
    rw [Int32.toInt_mod, toInt_remEuclid_mul hm hf hmf, Int32.toInt_ofNat_of_lt hj,
      Int.tmod_eq_emod_of_nonneg (Int.mul_nonneg hge hf), Int.natCast_emod, Int.natCast_mul, hmNat,
      hfNat, Int.mul_comm f.toInt, Int.mul_emod (j : Int), Int.mul_emod (j % m.toInt : Int),
      Int.emod_emod_of_dvd _ (Int.dvd_refl _)]
  have hnonneg : 0 ≤ remEuclid (Int32.ofNat j) m * f % m := by
    rw [Int32.le_iff_toInt_le, hvalue]
    exact Int.natCast_nonneg _
  have hlt : f.toNatClampNeg * j % m.toNatClampNeg < m.toNatClampNeg := by
    exact Nat.mod_lt _ (by have : m.toNatClampNeg = m.toInt.toNat := rfl; omega)
  have hm16' : m.toNatClampNeg ≤ 0x10000 := by
    have : m.toNatClampNeg = m.toInt.toNat := rfl
    omega
  rw [UInt32.toNat_toUInt16, Int32.toNat_toUInt32_of_le hnonneg, ← Int32.toNat_toInt, hvalue,
    Int.toNat_natCast, Nat.mod_eq_of_lt (Nat.lt_of_lt_of_le hlt hm16')]

theorem ofNat_mod_two_beq_zero (hj : j < 0x80000000) :
    (Int32.ofNat j % 2 == 0) = true ↔ j % 2 = 0 := by
  have htwo : (2 : Int32).toInt = 2 := rfl
  rw [beq_iff_eq, ← Int32.toInt_inj, Int32.toInt_mod, Int32.toInt_ofNat_of_lt hj, htwo,
    Int.tmod_eq_emod_of_nonneg (Int.natCast_nonneg j), Int32.toInt_zero]
  omega

end Arithmetic

/-! ### Events -/

section Events

variable {k : Kind} {j : Nat}

theorem toInt_syntheticInterval (k : Kind) : (syntheticInterval k).toInt = k.period := by
  cases k <;> rfl

/-- Timestamps stop at the limit of the width. -/
theorem toInt_timestamp_syntheticEvent (k : Kind) (hj : j < 0x80000000) :
    (syntheticEvent k j).timestamp.toInt = min (k.period * j) (0x7FFFFFFF) := by
  have hmin : Int32.minValue.toInt = -0x80000000 := Int32.toInt_minValue
  have hmax : Int32.maxValue.toInt = 0x7FFFFFFF := Int32.toInt_maxValue
  have hpos : (0 : Int) ≤ k.period * j := Int.natCast_nonneg (k.period * j)
  rw [syntheticEvent, toInt_mulSaturating, toInt_syntheticInterval, Int32.toInt_ofNat_of_lt hj,
    Int.mul_comm, hmin, hmax]
  omega

/-- The address of a pixel of the sensor has no bit that a record does not keep. -/
theorem toNat_keptAddress {v : UInt16} (hv : v.toNat < 0x8000) :
    (UInt16.ofNat (v.toNat % 0x8000)).toNat = v.toNat := by
  rw [UInt16.toNat_ofNat']
  omega

/-- The changes of an event make up its data, whatever the slot held before. -/
theorem isSyntheticData_updateAll (k : Kind) (hj : j < 0x80000000) (d : k.Data) :
    k.IsSyntheticData j (k.updateAll (syntheticWrites k j) d) := by
  cases k with
  | polarity =>
    have hx : (syntheticPixel (Int32.ofNat j)).1.toNat = 7 * j % 640 :=
      toNat_coordinate (m := 640) (f := 7) (by decide) (by decide) (by decide) (by decide) hj
    have hy : (syntheticPixel (Int32.ofNat j)).2.toNat = 3 * j % 480 :=
      toNat_coordinate (m := 480) (f := 3) (by decide) (by decide) (by decide) (by decide) hj
    have hxlt : 7 * j % 640 < 640 := Nat.mod_lt _ (by decide)
    have hylt : 3 * j % 480 < 480 := Nat.mod_lt _ (by decide)
    exact ⟨(toNat_keptAddress (by omega)).trans hx, (toNat_keptAddress (by omega)).trans hy,
      ofNat_mod_two_beq_zero hj⟩
  | imu9 => rfl

end Events

/-! ### Packets -/

section Packets

variable {k : Kind} {capacity : Int32} {source : Int16} {i j : Nat} {p : Packet k}

/-- The values of the slots of a packet. -/
def syntheticValues (k : Kind) (capacity : Int32) : List (SlotValue k) :=
  (syntheticEvents k capacity).map EventRecipe.value

/-- The records of the `i`-th packet. -/
def syntheticRecords (k : Kind) (capacity : Int32) (source : Int16) (i : Nat) : Records k :=
  .filled (if source.toInt < 0 then 0 else source) (Int32.ofNat i) (syntheticValues k capacity) 0

variable (k capacity) in
theorem length_syntheticEvents : (syntheticEvents k capacity).length = capacity.toNatClampNeg := by
  rw [syntheticEvents, List.length_map, List.length_range]

variable (k capacity) in
theorem length_syntheticValues : (syntheticValues k capacity).length = capacity.toNatClampNeg := by
  rw [syntheticValues, List.length_map, length_syntheticEvents]

theorem getElem?_syntheticValues (hj : j < capacity.toNatClampNeg) :
    (syntheticValues k capacity)[j]? = some (syntheticEvent k j).value := by
  rw [syntheticValues, syntheticEvents, List.getElem?_map, List.getElem?_map,
    List.getElem?_range hj]
  rfl

theorem exists_of_mem_syntheticEvents {e : EventRecipe k} (he : e ∈ syntheticEvents k capacity) :
    ∃ j < 0x80000000, e = syntheticEvent k j := by
  obtain ⟨j, hj, rfl⟩ := List.mem_map.mp he
  have hlt := capacity.toNatClampNeg_lt
  exact ⟨j, by have := List.mem_range.mp hj; omega, rfl⟩

theorem timestamp_syntheticEvents_nonneg :
    ∀ e ∈ syntheticEvents k capacity, 0 ≤ e.timestamp.toInt := by
  intro e he
  obtain ⟨j, hj, rfl⟩ := exists_of_mem_syntheticEvents he
  have hpos : (0 : Int) ≤ k.period * j := Int.natCast_nonneg (k.period * j)
  rw [toInt_timestamp_syntheticEvent k hj]
  omega

theorem timestamp_syntheticValues_nonneg :
    ∀ v ∈ syntheticValues k capacity, 0 ≤ v.timestamp.toInt := by
  intro v hv
  obtain ⟨e, he, rfl⟩ := List.mem_map.mp hv
  exact timestamp_syntheticEvents_nonneg e he

theorem countP_syntheticValues :
    (syntheticValues k capacity).countP SlotValue.valid = capacity.toNatClampNeg := by
  rw [← length_syntheticValues k capacity, List.countP_eq_length]
  intro v hv
  obtain ⟨e, he, rfl⟩ := List.mem_map.mp hv
  obtain ⟨j, -, rfl⟩ := exists_of_mem_syntheticEvents he
  rfl

/-- No event of a packet is refused. -/
theorem value_syntheticPacketAt (k : Kind) (hc : 0 < capacity.toInt) (source : Int16)
    (hi : i < 0x80000000) :
    ∃ p : Packet k, (syntheticPacketAt k capacity source i).value = .ok p ∧
      p.Holds (syntheticRecords k capacity source i) := by
  have hcapacity : capacity.toNatClampNeg = capacity.toInt.toNat := rfl
  have hlength := length_syntheticEvents k capacity
  have ho : ¬ (Int32.ofNat i).toInt < 0 := by
    rw [Int32.toInt_ofNat_of_lt hi]
    omega
  obtain ⟨p, hfill, hp⟩ := Packet.exists_fillAll_fresh hc source (Int32.ofNat i)
    (syntheticEvents k capacity) (by omega) timestamp_syntheticEvents_nonneg
  rw [if_neg ho, hlength, hcapacity, Nat.sub_self] at hp
  refine ⟨p, ?_, hp⟩
  rw [syntheticPacketAt, if_pos hi, syntheticPacket, Reported.value_bind, Packet.value_allocate hc]
  dsimp only
  rw [Reported.value_bind, hfill]
  rfl

/-- Such a packet follows the pattern. -/
theorem isSynthetic_of_holds (hc : 0 < capacity.toInt) (hi : i < 0x80000000)
    (hp : p.Holds (syntheticRecords k capacity source i)) : p.IsSynthetic capacity source i := by
  have hcapacity : (capacity.toNatClampNeg : Int) = capacity.toInt :=
    Int.toNat_of_nonneg (Int.le_of_lt hc)
  have hlength := length_syntheticValues k capacity
  have hoverflow : (Int32.ofNat i).toInt = i := Int32.toInt_ofNat_of_lt hi
  refine ⟨?overflow, ?source, ?capacity, ?number, ?validCount, fun j hj => ?event⟩
  case overflow =>
    rw [← Packet.overflow_records, hp.records_eq, syntheticRecords, Records.filled, hoverflow]
  case source =>
    rw [← Packet.source_records, hp.records_eq, syntheticRecords, Records.filled]
    dsimp only
    split
    next h => rw [Int16.toInt_zero]; omega
    next h => omega
  case capacity =>
    have hslots := hp.capacity_eq
    rw [syntheticRecords, Records.filled, List.length_append, hlength, List.length_replicate,
      Nat.add_zero] at hslots
    rw [← Int32.toInt_inj, ← hp.consistent.toInt_capacity, hslots, hcapacity]
  case number => rw [← Int32.toInt_inj, hp.toInt_number, hlength, hcapacity]
  case validCount =>
    rw [← Int32.toInt_inj, ← Packet.validCount_records, hp.records_eq, syntheticRecords,
      Records.filled, countP_syntheticValues, hcapacity]
  case event =>
    have hj' : j < 0x80000000 := Nat.lt_trans hj capacity.toNatClampNeg_lt
    have ht : 0 ≤ (syntheticEvent k j).timestamp.toInt :=
      timestamp_syntheticEvents_nonneg _ (List.mem_map.mpr ⟨j, List.mem_range.mpr hj, rfl⟩)
    have hlt := (syntheticEvent k j).timestamp.toInt_lt
    have htime : (syntheticEvent k j).value.timestamp = (syntheticEvent k j).timestamp := rfl
    rw [hp.event_eq (by omega) timestamp_syntheticValues_nonneg (getElem?_syntheticValues hj)]
    refine ⟨rfl, toInt_timestamp_syntheticEvent k hj', ?_, isSyntheticData_updateAll k hj' _⟩
    rw [hoverflow, htime]
    exact Int64.toInt_ofInt_of_le (by omega) (by omega)

end Packets

/-! ### Files -/

section Files

variable {k : Kind} {capacity : Int32} {source : Int16} {i n : Nat}

/-- The packets are written one after another. -/
theorem writeSynthetic_eq_ok {w : PacketWriter} (hw : w.target.Unlimited) (hc : 0 < capacity.toInt)
    (source : Int16) (hn : i + n ≤ 0x80000000) :
    ∃ (qs : List (Packet k)) (w' : PacketWriter),
      (writeSynthetic k capacity source i w n).value = (.ok (), w') ∧ w'.target.Unlimited ∧
      w'.target.accepted = w.target.accepted ++ Bytes.concat (qs.map Packet.bytes) ∧
      qs.length = n ∧
      ∀ (j : Nat) (q : Packet k), qs[j]? = some q →
        q.Holds (syntheticRecords k capacity source (i + j)) := by
  induction n generalizing i w with
  | zero => exact ⟨[], w, rfl, hw, Array.append_empty.symm, rfl, nofun⟩
  | succ n ih =>
    obtain ⟨p, hpacket, hp⟩ := value_syntheticPacketAt k hc source (i := i) (by omega)
    obtain ⟨w₁, hwrite, hw₁, haccepted₁⟩ := PacketWriter.writePacket_eq_ok hw ⟨k, p⟩
    obtain ⟨qs, w', hrest, hw', haccepted, hlength, hqs⟩ := ih hw₁ (i := i + 1) (by omega)
    refine ⟨p :: qs, w', ?_, hw', ?_, congrArg (· + 1) hlength, fun j q hj => ?_⟩
    · rw [writeSynthetic, Reported.value_bind, hpacket]
      dsimp only
      rw [hwrite]
      exact hrest
    · rw [haccepted, haccepted₁, List.map_cons, Bytes.concat_cons, Array.append_assoc]
      rfl
    · cases j with
      | zero =>
        obtain rfl : p = q := Option.some.inj hj
        exact hp
      | succ j =>
        rw [← Nat.add_assoc, Nat.add_right_comm]
        exact hqs j q hj

/-- What the synthesizer leaves behind where a file can be created. -/
theorem synth_of_createsAt {output : String} {place : Place} {s : Storage} (k : Kind)
    (hc : 0 < capacity.toInt) (hn : n ≤ 0x80000000) (source : Int16) (threshold : Severity)
    (h : s.CreatesAt output place) :
    ∃ qs : List (Packet k),
      synth output k n capacity source threshold s =
        ⟨0, "",
          reportLines (Report.emitted threshold
            (writeSynthetic k capacity source 0 (.empty none) n).reports),
          (s.put place #[]).put place (Bytes.concat (qs.map Packet.bytes))⟩ ∧
      qs.length = n ∧
      ∀ (i : Nat) (q : Packet k), qs[i]? = some q →
        q.Holds (syntheticRecords k capacity source i) := by
  obtain ⟨qs, w, hwrite, hw, haccepted, hlength, hqs⟩ :=
    writeSynthetic_eq_ok (k := k) (i := 0) (n := n) (w := .empty none) .empty hc source (by omega)
  obtain ⟨w', hflush, hclose⟩ := PacketWriter.flush_eq_ok hw
  have hempty : (PacketWriter.empty none).target.accepted = #[] := rfl
  rw [hempty, Array.empty_append] at haccepted
  simp only [Nat.zero_add] at hqs
  refine ⟨qs, ?_, hlength, hqs⟩
  rw [synth, Storage.create_eq_ok_iff.mpr ⟨h, rfl⟩]
  dsimp only
  rw [hwrite]
  dsimp only
  rw [finishSynthetic, hflush]
  dsimp only
  rw [hclose, haccepted]

/-- What the synthesizer has written is read back as the packets that it has made. -/
theorem readPackets_of_holds {output : String} {place : Place} {s : Storage}
    (h : s.CreatesAt output place) {qs : List (Packet k)}
    (hqs : ∀ (i : Nat) (q : Packet k), qs[i]? = some q →
      q.Holds (syntheticRecords k capacity source i)) :
    ((s.put place #[]).put place (Bytes.concat (qs.map Packet.bytes))).readPackets output =
      .ok (qs.map (AnyPacket.mk k)) := by
  have hcreate : s.create output = .ok (place, s.put place #[]) :=
    Storage.create_eq_ok_iff.mpr ⟨h, rfl⟩
  have haccepted : ∀ p ∈ qs.map (AnyPacket.mk k), AnyPacket.ofBytes p.bytes = .ok p := by
    intro p hp
    obtain ⟨q, hq, rfl⟩ := List.mem_map.mp hp
    obtain ⟨i, hi⟩ := List.mem_iff_getElem?.mp hq
    have hholds := hqs i q hi
    exact hholds.consistent.any_ofBytes_eq_ok_iff.mpr hholds.marksCounted
  have hread := (Storage.readPackets_writePackets_iff hcreate).mpr haccepted
  rwa [Storage.writePackets_of_create hcreate, List.map_map] at hread

end Files

/-! ### Tables -/

section Tables

variable {k : Kind} {capacity : Int32} {source : Int16} {i j : Nat} {p q : Packet k}
  {d e : Event k} {sel : Selection} {qs : List (Packet k)}

/-- All events are exported. -/
theorem events_eq_map (h : p.IsSynthetic capacity source i) (sel : Selection) :
    sel.events p = (List.range capacity.toNatClampNeg).map p.event := by
  have hevents : p.events = (List.range capacity.toNatClampNeg).map p.event := by
    rw [Packet.events, Packet.eventCount, h.number_eq, h.capacity_eq, Nat.min_self]
  cases sel with
  | all => exact hevents
  | valid =>
    rw [Selection.events, Packet.validEvents, hevents, List.filter_eq_self]
    intro e he
    obtain ⟨j, hj, rfl⟩ := List.mem_map.mp he
    exact (h.event j (List.mem_range.mp hj)).valid_eq

/-- Later events of a packet have no earlier timestamps. -/
theorem timestamp64_le_of_le (hd : d.IsSynthetic i j) {j' : Nat} (he : e.IsSynthetic i j')
    (hj : j ≤ j') : d.timestamp64.toInt ≤ e.timestamp64.toInt := by
  have hperiod : (k.period * j : Int) ≤ k.period * j' := by
    exact_mod_cast Nat.mul_le_mul_left k.period hj
  rw [hd.timestamp64_eq, he.timestamp64_eq, hd.timestamp_eq, he.timestamp_eq]
  omega

/-- Later packets have no earlier timestamps. -/
theorem timestamp64_le_of_lt (hd : d.IsSynthetic i j) {i' j' : Nat} (he : e.IsSynthetic i' j')
    (hi : i < i') : d.timestamp64.toInt ≤ e.timestamp64.toInt := by
  have hpos : (0 : Int) ≤ k.period * j' := Int.natCast_nonneg (k.period * j')
  rw [hd.timestamp64_eq, he.timestamp64_eq, hd.timestamp_eq, he.timestamp_eq]
  omega

section

variable (hqs : ∀ (i : Nat) (q : Packet k), qs[i]? = some q → q.IsSynthetic capacity source i)

include hqs

theorem length_flatMap_events (sel : Selection) :
    (qs.flatMap sel.events).length = qs.length * capacity.toNatClampNeg := by
  have hlength : ∀ q ∈ qs, (sel.events q).length = capacity.toNatClampNeg := by
    intro q hq
    obtain ⟨i, hi⟩ := List.mem_iff_getElem?.mp hq
    rw [events_eq_map (hqs i q hi), List.length_map, List.length_range]
  rw [List.length_flatMap, List.map_congr_left hlength, List.map_const', List.sum_replicate_nat]

/-- Timestamps never decrease from one row to the next. -/
theorem pairwise_timestamp64 (sel : Selection) :
    (qs.flatMap sel.events).Pairwise fun d e => d.timestamp64.toInt ≤ e.timestamp64.toInt := by
  rw [List.pairwise_flatMap]
  constructor
  · intro q hq
    obtain ⟨i, hi⟩ := List.mem_iff_getElem?.mp hq
    have hq := hqs i q hi
    rw [events_eq_map hq, List.pairwise_map]
    refine List.pairwise_lt_range.imp_of_mem fun {j j'} hj hj' hlt => ?_
    exact timestamp64_le_of_le (hq.event j (List.mem_range.mp hj))
      (hq.event j' (List.mem_range.mp hj')) (Nat.le_of_lt hlt)
  · refine List.pairwise_iff_getElem.mpr fun i i' hi hi' hlt d hd e he => ?_
    have hp := hqs i _ (List.getElem?_eq_getElem hi)
    have hq := hqs i' _ (List.getElem?_eq_getElem hi')
    rw [events_eq_map hp] at hd
    rw [events_eq_map hq] at he
    obtain ⟨j, hj, rfl⟩ := List.mem_map.mp hd
    obtain ⟨j', hj', rfl⟩ := List.mem_map.mp he
    exact timestamp64_le_of_lt (hp.event j (List.mem_range.mp hj))
      (hq.event j' (List.mem_range.mp hj')) hlt

/-- The rows of the table of the packets, which has no rows if there are none. -/
theorem rows_of_isSynthetic {l : Kind} (hl : qs ≠ [] → l = k) (sel : Selection) :
    (exportedEvents l sel (qs.map (AnyPacket.mk k))).length =
        qs.length * capacity.toNatClampNeg ∧
      (exportedEvents l sel (qs.map (AnyPacket.mk k))).Pairwise fun d e =>
        d.timestamp64.toInt ≤ e.timestamp64.toInt := by
  cases qs with
  | nil => exact ⟨(Nat.zero_mul _).symm, .nil⟩
  | cons q qs =>
    obtain rfl := hl (List.cons_ne_nil q qs)
    rw [exportedEvents_map]
    exact ⟨length_flatMap_events hqs sel, pairwise_timestamp64 hqs sel⟩

end

end Tables

/-! ### Recordings -/

/-- The products that the address of a pixel is made of are those of integers. -/
theorem pixel_products (j : Nat) (hj : j < 0x80000000) :
    (remEuclid (Int32.ofNat j) 640 * 7).toInt = j % 640 * 7 ∧
      (remEuclid (Int32.ofNat j) 480 * 3).toInt = j % 480 * 3 := by
  have hx := toInt_remEuclid_mul (m := 640) (f := 7) (by decide) (by decide) (by decide)
    (Int32.ofNat j)
  have hy := toInt_remEuclid_mul (m := 480) (f := 3) (by decide) (by decide) (by decide)
    (Int32.ofNat j)
  rw [Int32.toInt_ofNat_of_lt hj] at hx hy
  exact ⟨hx, hy⟩

/-- Wherever a file can be created, the synthesizer succeeds, and the file is read back as the
packets that were asked for: every one of them follows the pattern, and no product in it leaves its
width.  So a dump of the file succeeds wherever its tables can be created, and leaves a table with a
row for every event of every packet, the 64-bit timestamps of which never decrease. -/
theorem synthetic_recording {n : Nat} {capacity : Int32} {output : String} {s : Storage} (k : Kind)
    (source : Int16) (threshold : Severity) (quiet : Bool) (hn : n ≤ 0x80000000)
    (hc : 0 < capacity.toInt) (houtput : ∃ place s₁, s.create output = .ok (place, s₁)) :
    let o := Invocation.run ⟨threshold, quiet, .synth output k n capacity source⟩ s
    o.exitCode = 0 ∧
      (∃ qs : List (Packet k), o.storage.readPackets output = .ok (qs.map (AnyPacket.mk k)) ∧
        qs.length = n ∧
        ∀ (i : Nat) (q : Packet k), qs[i]? = some q → q.IsSynthetic capacity source i) ∧
      (∀ j < capacity.toNatClampNeg,
        (remEuclid (Int32.ofNat j) 640 * 7).toInt = j % 640 * 7 ∧
          (remEuclid (Int32.ofNat j) 480 * 3).toInt = j % 480 * 3) ∧
      ∀ (threshold' : Severity) (quiet' all : Bool) (table format : String) (imu9 : Option String)
        (order : FieldOrder), FieldOrder.parse format = .ok order →
        (∃ place s₁, o.storage.create table = .ok (place, s₁)) →
        (∀ path, imu9 = some path → (∃ place s₁, o.storage.create path = .ok (place, s₁)) ∧
          (k = .polarity → o.storage.resolve path ≠ o.storage.resolve table)) →
        let d := Invocation.run ⟨threshold', quiet', .dump output table format imu9 all⟩ o.storage
        d.exitCode = 0 ∧
          ∃ (l : Kind) (es : List (Event l)), (0 < n → l = k) ∧
            d.storage.HoldsTable (dumpPath table imu9 l) (dumpFormat order l) (selectionOf all) es ∧
            es.length = n * capacity.toNatClampNeg ∧
            es.Pairwise fun d e => d.timestamp64.toInt ≤ e.timestamp64.toInt := by
  obtain ⟨place, s₁, hcreate⟩ := houtput
  obtain ⟨hplace, -⟩ := Storage.create_eq_ok_iff.mp hcreate
  obtain ⟨qs, hsynth, hlength, hholds⟩ := synth_of_createsAt k hc hn source threshold hplace
  have hread := readPackets_of_holds hplace hholds
  have hqs : ∀ (i : Nat) (q : Packet k), qs[i]? = some q → q.IsSynthetic capacity source i := by
    intro i q hq
    obtain ⟨hi, -⟩ := List.getElem?_eq_some_iff.mp hq
    exact isSynthetic_of_holds hc (by omega) (hholds i q hq)
  intro o
  have ho : o = _ := hsynth
  rw [ho]
  refine ⟨rfl, ⟨qs, hread, hlength, hqs⟩, fun j hj => ?_, ?_⟩
  · exact pixel_products j (Nat.lt_trans hj capacity.toNatClampNeg_lt)
  · intro threshold' quiet' all table format imu9 order hformat htable himu9 d
    have hexit : d.exitCode = 0 :=
      exitCode_dump_of_createsAt hformat hread (Storage.exists_createsAt htable)
        fun path hpath => Storage.exists_createsAt (himu9 path hpath).1
    obtain ⟨l, hl, hholdsTable⟩ := holdsTable_dump_of_kind hformat hread hexit
      fun path hpath => (himu9 path hpath).2
    obtain ⟨hrows, hsorted⟩ := rows_of_isSynthetic hqs hl (selectionOf all)
    rw [hlength] at hrows
    exact ⟨hexit, l, _, fun hpos => hl (List.ne_nil_of_length_pos (hlength ▸ hpos)), hholdsTable,
      hrows, hsorted⟩

/-- Two packets with two events each, whose source is refused, and a dump of them. -/
theorem synthetic_recording_two_packets :
    let s := Storage.ofFiles ["home"] []
    let o := Invocation.run ⟨.error, false, .synth "out" .polarity 2 2 (-3)⟩ s
    let d := Invocation.run ⟨.error, false, .dump "out" "out.csv" "x,y,p,t" none false⟩ o.storage
    o.exitCode = 0 ∧
      (∃ p q : Packet .polarity,
        o.storage.readPackets "out" = .ok [⟨.polarity, p⟩, ⟨.polarity, q⟩] ∧
        q.overflow.toInt = 1 ∧ q.source.toInt = 0 ∧ (q.event 1).timestamp64.toInt = 2147483658 ∧
        (q.event 1).data = PolarityData.mk 7 3 false) ∧
      d.exitCode = 0 ∧
      ∃ es : List (Event .polarity),
        d.storage.HoldsTable "out.csv" (.polarity .xypt) .valid es ∧ es.length = 4 := by
  intro s o d
  have hout : s.CreatesAt "out" ["home", "out"] := ⟨by decide +kernel, by rfl, by rfl⟩
  have hcsv : s.CreatesAt "out.csv" ["home", "out.csv"] := ⟨by decide +kernel, by rfl, by rfl⟩
  have hformat : FieldOrder.parse "x,y,p,t" = .ok .xypt := by rfl
  clear_value s
  have hcapacity : 0 < (2 : Int32).toInt := by decide
  obtain ⟨hexit, ⟨qs, hread, hlength, hqs⟩, -, hdump⟩ :=
    synthetic_recording .polarity (-3) .error false (n := 2) (by decide) hcapacity
      ⟨_, _, Storage.create_eq_ok_iff.mpr ⟨hout, rfl⟩⟩
  have htable : ∃ place s₁, o.storage.create "out.csv" = .ok (place, s₁) := by
    obtain ⟨ps, hsynth, -⟩ := synth_of_createsAt .polarity (n := 2) hcapacity (by decide) (-3)
      .error hout
    have ho : o = _ := hsynth
    rw [ho]
    exact ⟨_, _, Storage.create_eq_ok_iff.mpr
      ⟨Storage.createsAt_put_iff.mpr (Storage.createsAt_put_iff.mpr hcsv), rfl⟩⟩
  obtain ⟨hdumpExit, l, es, hl, hholds, hrows, -⟩ :=
    hdump .error false false "out.csv" "x,y,p,t" none .xypt hformat htable nofun
  obtain rfl := hl (by decide)
  obtain ⟨p, q, rfl⟩ : ∃ p q, qs = [p, q] := ⟨_, _, List.eq_getElem_of_length_eq_two qs hlength⟩
  have hq := hqs 1 q rfl
  have he := hq.event 1 (by decide)
  refine ⟨hexit, ⟨p, q, hread, hq.overflow_eq, hq.source_eq, ?_, ?_⟩, hdumpExit, es, hholds, hrows⟩
  · rw [he.timestamp64_eq, he.timestamp_eq]
    rfl
  · obtain ⟨hx, hy, hon⟩ := he.data
    exact PolarityData.eq_iff.mpr
      ⟨hx, hy, Bool.eq_false_iff.mpr fun h => absurd (hon.mp h) (by decide)⟩

end CommandLine

end EventPackets
