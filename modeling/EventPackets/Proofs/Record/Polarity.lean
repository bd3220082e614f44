import EventPackets.Packet.Description
import EventPackets.Packet.Records
import EventPackets.Proofs.Packet.Frame

/-!
# The data word of a polarity record

Validity mark, polarity and the two addresses share one word.  As a number the word is their sum,
each moved up to its place, and no two records with addresses of 15 bits have the same sum.

## Main results

* `PolarityRecord.ofWord_eq_iff` : the fields of a word, and the word of these fields.
* `PolarityWrite.ofWord_set` : the fields after a change of one of them.
-/

namespace EventPackets

namespace BitField

/-- The value of a field of `m` bits as a number. -/
theorem toNat_get {f : BitField} {m : Nat} (hs : f.shift.toNat < 32)
    (hm : f.mask.toNat + 1 = 1 <<< m) (w : UInt32) :
    (f.get w).toNat = w.toNat / (1 <<< f.shift.toNat) % (1 <<< m) := by
  have hmask : f.mask.toNat = 2 ^ m - 1 := by
    rw [Nat.one_shiftLeft] at hm
    omega
  rw [get, UInt32.toNat_and, UInt32.toNat_shiftRight, Nat.mod_eq_of_lt hs, hmask,
    Nat.and_two_pow_sub_one_eq_mod, Nat.shiftRight_eq_div_pow, Nat.one_shiftLeft,
    Nat.one_shiftLeft]

theorem toNat_get_mark (w : UInt32) : (mark.get w).toNat = w.toNat % 2 :=
  (toNat_get (f := mark) (m := 1) (by decide) (by decide) w).trans
    (congrArg (· % 2) (Nat.div_one w.toNat))

theorem toNat_get_polarity (w : UInt32) : (polarity.get w).toNat = w.toNat / 2 % 2 :=
  toNat_get (f := polarity) (m := 1) (by decide) (by decide) w

theorem toNat_get_yAddress (w : UInt32) : (yAddress.get w).toNat = w.toNat / 4 % 0x8000 :=
  toNat_get (f := yAddress) (m := 15) (by decide) (by decide) w

theorem toNat_get_xAddress (w : UInt32) :
    (xAddress.get w).toNat = w.toNat / 0x20000 % 0x8000 :=
  toNat_get (f := xAddress) (m := 15) (by decide) (by decide) w

/-- A field of one bit as a truth value. -/
theorem get_bne_zero {f : BitField} {w : UInt32} {n : Nat} (h : (f.get w).toNat = n % 2) :
    (f.get w != 0).toNat = n % 2 := by
  rw [← h]
  rcases Nat.mod_two_eq_zero_or_one n with hn | hn <;> rw [hn] at h
  · rw [h, show f.get w = 0 from UInt32.toNat_inj.mp h]
    rfl
  · rw [h, show f.get w = 1 from UInt32.toNat_inj.mp h]
    rfl

end BitField

theorem PolarityData.eq_iff {d e : PolarityData} :
    d = e ↔ d.x.toNat = e.x.toNat ∧ d.y.toNat = e.y.toNat ∧ d.on = e.on := by
  cases d
  cases e
  simp [UInt16.toNat_inj]

/-- A word has the fields of a record exactly if it is the data word of the record. -/
theorem PolarityRecord.ofWord_eq_iff (w : UInt32) (r : PolarityRecord) :
    ((BitField.mark.get w != 0) = r.valid ∧ PolarityData.ofWord w = r.data) ↔
      (r.data.x.toNat < 0x8000 ∧ r.data.y.toNat < 0x8000) ∧ w.toNat = r.dataWord := by
  have hw := w.toNat_lt
  have hmark := BitField.get_bne_zero (BitField.toNat_get_mark w)
  have hon := BitField.get_bne_zero (BitField.toNat_get_polarity w)
  have hx := BitField.toNat_get_xAddress w
  have hy := BitField.toNat_get_yAddress w
  have htwo (c d : Bool) : c = d ↔ c.toNat = d.toNat := by
    cases c <;> cases d <;> decide
  simp only [PolarityData.eq_iff, PolarityData.ofWord, htwo, UInt32.toNat_toUInt16, hmark, hon, hx,
    hy, dataWord]
  have hv := r.valid.toNat_lt
  have ho := r.data.on.toNat_lt
  omega

namespace PolarityWrite

/-- An address keeps its lowest 15 bits. -/
theorem toUInt16_and_addressMask (v : UInt16) :
    (v.toUInt32 &&& 0x7FFF).toUInt16 = UInt16.ofNat (v.toNat % 0x8000) := by
  have hmask : (0x7FFF : UInt32).toNat = 2 ^ 15 - 1 := rfl
  rw [← UInt16.toNat_inj, UInt32.toNat_toUInt16, UInt32.toNat_and, UInt16.toNat_toUInt32, hmask,
    Nat.and_two_pow_sub_one_eq_mod, UInt16.toNat_ofNat']

/-- A change of one field of a word shows in this field and in no other. -/
theorem ofWord_set (w : PolarityWrite) (word : UInt32) :
    PolarityData.ofWord (w.field.set word w.value) = w.update (.ofWord word) := by
  cases w with
  | x v =>
    simp only [PolarityData.ofWord, field, value, update,
      BitField.get_set_self (f := .xAddress) (by decide),
      BitField.get_set_of_disjoint (f := .xAddress) (g := .yAddress) (by decide),
      BitField.get_set_of_disjoint (f := .xAddress) (g := .polarity) (by decide)]
    exact congrArg (PolarityData.mk · _ _) (toUInt16_and_addressMask v)
  | y v =>
    simp only [PolarityData.ofWord, field, value, update,
      BitField.get_set_self (f := .yAddress) (by decide),
      BitField.get_set_of_disjoint (f := .yAddress) (g := .xAddress) (by decide),
      BitField.get_set_of_disjoint (f := .yAddress) (g := .polarity) (by decide)]
    exact congrArg (PolarityData.mk _ · _) (toUInt16_and_addressMask v)
  | polarity on =>
    simp only [PolarityData.ofWord, field, value, update,
      BitField.get_set_self (f := .polarity) (by decide),
      BitField.get_set_of_disjoint (f := .polarity) (g := .xAddress) (by decide),
      BitField.get_set_of_disjoint (f := .polarity) (g := .yAddress) (by decide)]
    cases on <;> rfl

/-- The validity mark shares the word with the fields, but not its bit. -/
theorem ofWord_set_mark (word v : UInt32) :
    PolarityData.ofWord (BitField.mark.set word v) = .ofWord word := by
  simp only [PolarityData.ofWord,
    BitField.get_set_of_disjoint (f := .mark) (g := .xAddress) (by decide),
    BitField.get_set_of_disjoint (f := .mark) (g := .yAddress) (by decide),
    BitField.get_set_of_disjoint (f := .mark) (g := .polarity) (by decide)]

end PolarityWrite

end EventPackets
