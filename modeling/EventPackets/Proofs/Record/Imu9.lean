import EventPackets.Packet.Records
import EventPackets.Proofs.Packet.Frame

/-!
# The measurements of an IMU9 record

Every measurement has a word of the record to itself, so a change of some measurements is read back
from their words, and all other words stay as they are.

## Main results

* `Imu9Sample.read_eq_iff` : a sample, measurement by measurement.
* `Imu9Write.read_apply` : the sample of a record after a change.
-/

namespace EventPackets

namespace Imu9Sample

theorem ext_get {s t : Imu9Sample} (h : ∀ m, s.get m = t.get m) : s = t := by
  rw [← of_get s, ← of_get t, funext h]

/-- A sample is read from the words of its measurements. -/
theorem read_eq_iff {b : Bytes} {start : Nat} {s : Imu9Sample} :
    read b start = s ↔ ∀ m : Measurement, b.word (start + m.offset) = (s.get m).bits := by
  constructor
  · rintro rfl m
    rw [read, get_of]
  · intro h
    refine ext_get fun m => ?_
    rw [read, get_of, h m]

end Imu9Sample

namespace Imu9Write

variable {b : Bytes} {start : Nat}

/-- The word of a measurement after the word of one has been replaced. -/
theorem word_setWord_offset (hb : start + 48 ≤ b.size) (m n : Measurement) (v : UInt32) :
    (b.setWord (start + m.offset) v).word (start + n.offset) =
      if n = m then v else b.word (start + n.offset) := by
  have hm := m.rank_lt
  split
  next h =>
    subst h
    exact Bytes.word_setWord_self b _ v (by simp only [Measurement.offset]; omega)
  next h =>
    have hne : n.rank ≠ m.rank := fun he => h (Measurement.rank_injective he)
    exact Bytes.word_setWord_of_disjoint b _ _ v (by simp only [Measurement.offset]; omega)

/-- The word of a measurement after those of several have been replaced. -/
theorem word_foldl_setWord (hb : start + 48 ≤ b.size) (f : Measurement → Binary32)
    (ms : List Measurement) (n : Measurement) :
    (((ms.map fun m => (m, f m)).foldl
        (fun b e => b.setWord (start + e.1.offset) e.2.bits) b).word (start + n.offset)) =
      if n ∈ ms then (f n).bits else b.word (start + n.offset) := by
  induction ms generalizing b with
  | nil => rfl
  | cons m ms ih =>
    rw [List.map_cons, List.foldl_cons, ih (by simpa using hb), word_setWord_offset hb]
    by_cases hms : n ∈ ms
    · simp [hms]
    · by_cases hm : n = m
      · simp [hm]
      · simp [hms, hm]

/-- The sample of a record after a change. -/
theorem read_apply (hb : start + 48 ≤ b.size) (w : Imu9Write) :
    Imu9Sample.read (w.apply start b) start = w.update (.read b start) := by
  refine Imu9Sample.read_eq_iff.mpr fun n => ?_
  cases w with
  | measurement m v =>
    have h := word_foldl_setWord hb (fun _ => v) [m] n
    simp only [List.mem_singleton] at h
    rw [apply, entries, update, Imu9Sample.get_of]
    refine h.trans ?_
    split
    · rfl
    · rw [Imu9Sample.read, Imu9Sample.get_of]
  | sample s =>
    rw [apply, entries, word_foldl_setWord hb s.get Measurement.all n, if_pos n.mem_all, update]

end Imu9Write

end EventPackets
