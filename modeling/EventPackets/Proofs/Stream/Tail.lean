import EventPackets.Proofs.Stream.Independence

/-!
# What stands behind packets

Packets at the front of a stream are delivered whatever stands behind them, and what stands behind
them is read as if the stream started there.  If that is a packet that has been cut off, one error
tells where the stream ends, and then the stream is at its end.

## Main definitions

* `Reader.delivered` : what reads that bring packets return.

## Main results

* `Reader.results_of_front` : packets at the front of a stream.
* `Reader.step_of_cut` : a packet that is cut off.
* `Reader.results_of_rest_append` : what follows packets is read as if it were a stream itself.
-/

namespace EventPackets.Reader

variable {r : Reader} {p : AnyPacket} {g cut : Bytes}

/-- What the reads return that bring these packets, the first of which starts at byte `offset`. -/
def delivered (offset : Nat) : List AnyPacket → List (Except ReadError (Option AnyPacket) × Nat)
  | [] => []
  | p :: ps => (.ok (some p), offset + p.bytes.size) :: delivered (offset + p.bytes.size) ps

/-- Packets at the front are delivered one after another, and then what follows them is read. -/
theorem results_of_front {ps : List AnyPacket} {tail : Bytes} (hs : r.source.Unfailing)
    (hps : ∀ p ∈ ps, AnyPacket.ofBytes p.bytes = .ok p)
    (hr : r.source.rest = Bytes.concat (ps.map AnyPacket.bytes) ++ tail) :
    ∃ r' : Reader, (∀ n, r.results (ps.length + n) = delivered r.offset ps ++ r'.results n) ∧
      r'.source.Unfailing ∧ r'.source.rest = tail ∧
      r'.offset = r.offset + (Bytes.concat (ps.map AnyPacket.bytes)).size := by
  induction ps generalizing r with
  | nil =>
    rw [List.map_nil, Bytes.concat_nil, Array.empty_append] at hr
    exact ⟨r, fun n => by rw [List.length_nil, Nat.zero_add]; rfl, hs, hr, rfl⟩
  | cons p ps ih =>
    rw [List.forall_mem_cons] at hps
    rw [List.map_cons, Bytes.concat_cons, Array.append_assoc] at hr
    obtain ⟨r₁, hnext, hs₁, hrest₁, hoffset₁⟩ := next_of_rest hs hps.1 hr
    obtain ⟨r', hresults, hs', hrest, hoffset⟩ := ih hs₁ hps.2 hrest₁
    refine ⟨r', fun n => ?_, hs', hrest, ?_⟩
    · rw [List.length_cons, Nat.add_right_comm, results_succ, hnext]
      dsimp only
      rw [hresults, hoffset₁]
      rfl
    · rw [hoffset, hoffset₁, List.map_cons, Bytes.concat_cons, Array.size_append, Nat.add_assoc]

/-- At the end of the stream all reads return that it is the end. -/
theorem results_of_rest_empty (hs : r.source.Unfailing) (hr : r.source.rest = #[]) (n : Nat) :
    r.results n = List.replicate n (.ok none, r.offset) := by
  induction n generalizing r with
  | zero => rfl
  | succ n ih =>
    obtain ⟨r', hnext, hs', hrest, hoffset⟩ := next_of_rest_empty hs hr
    rw [results_succ, hnext]
    dsimp only
    rw [ih hs' hrest, hoffset, List.replicate_succ]

/-- If a packet is cut off, the read tells where, and leaves nothing behind. -/
theorem step_of_cut (hs : r.source.Unfailing) (hr : r.source.rest = g)
    (hp : AnyPacket.ofBytes p.bytes = .ok p) (hcut : p.bytes = g ++ cut) (hg : g ≠ #[])
    (hne : cut ≠ #[]) :
    ∃ r', r.Step (.error (.unexpectedEnd (r.offset + g.size))) r' ∧ r'.source.Unfailing ∧
      r'.source.rest = #[] ∧ r'.offset = r.offset + g.size := by
  by_cases hlt : g.size < Header.size
  · have hle : r.source.rest.size ≤ Header.size := by
      rw [hr]
      exact Nat.le_of_lt hlt
    obtain ⟨s, hh, hs', hrest⟩ := hs.gather_rest hle
    rw [hr] at hh
    exact ⟨_, .shortHeader hh (Array.size_pos_iff.mpr hg) hlt, hs', hrest, rfl⟩
  · -- The header is there, and tells that more should follow than there is.
    obtain ⟨header, body, rfl, hsize⟩ := Bytes.exists_append (Nat.not_lt.mp hlt)
    rw [hcut, Array.append_assoc] at hp
    have hbody := bodySize_of_ofBytes hsize hp
    have hlt : body.size < (body ++ cut).size := by
      have hpos := Array.size_pos_iff.mpr hne
      rw [Array.size_append]
      omega
    obtain ⟨s, hh, hs₁, hrest₁⟩ := hs.gather_of_rest hr
    have hle : s.rest.size ≤ (body ++ cut).size := by
      rw [hrest₁]
      exact Nat.le_of_lt hlt
    obtain ⟨t, hb, ht, hrest⟩ := hs₁.gather_rest hle
    rw [hsize] at hh
    rw [hrest₁] at hb
    have hstep := Step.shortBody hh hsize hbody hb hlt
    rw [Array.size_append, hsize, ← Nat.add_assoc]
    exact ⟨_, hstep, ht, hrest, rfl⟩

/-- Packets at the front of a stream are delivered whatever stands behind them, and what stands
behind them is read as it is read on its own, with offsets that go on from the packets.  So a packet
that has been cut off is found to be one, and the stream is at its end then, as it is right after
the packets if nothing stands behind them. -/
theorem results_of_rest_append {s : Source} {ps : List AnyPacket} {g : Bytes} (hs : s.Unfailing)
    (hps : ∀ p ∈ ps, AnyPacket.ofBytes p.bytes = .ok p)
    (hrest : s.rest = Bytes.concat (ps.map AnyPacket.bytes) ++ g) :
    let total := (Bytes.concat (ps.map AnyPacket.bytes)).size
    (∀ n, (ofSource s).results (ps.length + n) =
      delivered 0 ps ++ ((ofSource (.ofBytes g)).results n).map fun x =>
        (x.1.mapError (ReadError.shift total), x.2 + total)) ∧
      (∀ p cut, AnyPacket.ofBytes p.bytes = .ok p → p.bytes = g ++ cut → g ≠ #[] → cut ≠ #[] →
        ∀ n, (ofSource s).results (ps.length + (n + 1)) =
          delivered 0 ps ++ (.error (.unexpectedEnd (total + g.size)), total + g.size) ::
            List.replicate n (.ok none, total + g.size)) ∧
      (g = #[] → ∀ n, (ofSource s).results (ps.length + n) =
        delivered 0 ps ++ List.replicate n (.ok none, total)) := by
  intro total
  obtain ⟨r, hresults, hr, hrest', hoffset⟩ := results_of_front (r := ofSource s) hs hps hrest
  have htotal : r.offset = total := hoffset.trans (Nat.zero_add _)
  refine ⟨fun n => ?_, fun p cut hp hcut hg hne n => ?_, fun hg n => ?_⟩
  · have hahead : Ahead total r (ofSource (.ofBytes g)) :=
      ⟨⟨hr, Source.unfailing_ofBytes g, hrest'.trans (Source.rest_ofBytes g).symm⟩,
        htotal.trans (Nat.zero_add _).symm⟩
    rw [hresults, hahead.results_eq]
    rfl
  · obtain ⟨r', hstep, hr', hempty, hend⟩ := step_of_cut hr hrest' hp hcut hg hne
    rw [hresults, results_succ, hstep.next_eq]
    dsimp only
    rw [results_of_rest_empty hr' hempty, hend, htotal]
    rfl
  · rw [hresults, results_of_rest_empty hr (hrest'.trans hg), htotal]
    rfl

/-- A packet of each kind, and then a packet that is cut off inside its record. -/
theorem results_of_rest_append_cut :
    let p : AnyPacket := ⟨.polarity, .fresh .polarity 1 0 0⟩
    let q : AnyPacket := ⟨.imu9, .fresh .imu9 1 0 0⟩
    let g := p.bytes.extract 0 30
    (ofSource (.ofBytes (Bytes.concat [p.bytes, q.bytes] ++ g))).results 4 =
      [(.ok (some p), 36), (.ok (some q), 112), (.error (.unexpectedEnd 142), 142),
        (.ok none, 142)] := by
  intro p q g
  have hp : AnyPacket.ofBytes p.bytes = .ok p :=
    AnyPacket.ofBytes_eq_ok_iff.mpr ⟨rfl, by decide +kernel⟩
  have hq : AnyPacket.ofBytes q.bytes = .ok q :=
    AnyPacket.ofBytes_eq_ok_iff.mpr ⟨rfl, by decide +kernel⟩
  have hpsize : p.bytes.size = 36 := by decide +kernel
  have hqsize : q.bytes.size = 76 := by decide +kernel
  have hgsize : g.size = 30 := by decide +kernel
  have hcut : p.bytes = g ++ p.bytes.extract 30 36 := by decide +kernel
  have hne : p.bytes.extract 30 36 ≠ #[] := by decide +kernel
  clear_value p q g
  have hg : g ≠ #[] := fun h => by simp [h] at hgsize
  have hps : ∀ x ∈ [p, q], AnyPacket.ofBytes x.bytes = .ok x :=
    List.forall_mem_cons.mpr ⟨hp, List.forall_mem_singleton.mpr hq⟩
  have hresults := (results_of_rest_append (Source.unfailing_ofBytes _) hps
    (Source.rest_ofBytes _)).2.1 p _ hp hcut hg hne 1
  simpa [delivered, hpsize, hqsize, hgsize] using hresults

end EventPackets.Reader
