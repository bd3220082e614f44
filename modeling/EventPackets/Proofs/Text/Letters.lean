import EventPackets.Text.Lowercase
import Mathlib

/-!
# Texts up to the case of letters

Texts that differ in the case of ASCII letters only have the same form in upper case, and the same
form in lower case.  Lower case also maps characters of other scripts, but only one of them to an
ASCII character: the Kelvin sign becomes a k.  So a word in lower case without a k is the
lower-case form of just those texts that differ from it in the case of ASCII letters.

## Main definitions

* `Text.SameLetters` : texts that are equal up to the case of ASCII letters.
* `Text.IsPlain` : ASCII characters other than the letter k.

## Main results

* `Text.map_toUpper_eq_iff` : texts with the same form in upper case.
* `Text.lowercase_eq_iff` : texts whose lower-case form is a given word.
-/

namespace EventPackets.Text

variable {c d : Char} {cs ds : List Char}

/-- Texts that are equal up to the case of ASCII letters. -/
def SameLetters (cs ds : List Char) : Prop :=
  cs.map Char.toLower = ds.map Char.toLower

/-! ### Upper case -/

theorem map_toUpper_eq_iff : cs.map Char.toUpper = ds.map Char.toUpper ↔ SameLetters cs ds := by
  have hlower (es : List Char) : (es.map Char.toUpper).map Char.toLower = es.map Char.toLower := by
    rw [List.map_map]
    exact List.map_congr_left fun c _ => c.toLower_toUpper_eq_toLower
  have hupper (es : List Char) : (es.map Char.toLower).map Char.toUpper = es.map Char.toUpper := by
    rw [List.map_map]
    exact List.map_congr_left fun c _ => c.toUpper_toLower_eq_toUpper
  constructor
  · intro h
    have hmap := congrArg (List.map Char.toLower) h
    rwa [hlower, hlower] at hmap
  · intro h
    have hmap := congrArg (List.map Char.toUpper) h
    rwa [hupper, hupper] at hmap

/-! ### Lower case -/

/-- An ASCII character other than the letter k, to which the Kelvin sign is mapped too. -/
def IsPlain (c : Char) : Prop :=
  c.toNat < 0x80 ∧ c ≠ 'k'

instance (c : Char) : Decidable (IsPlain c) :=
  inferInstanceAs (Decidable (_ ∧ _))

theorem ascii_of_toLower (h : c.toLower.toNat < 0x80) : c.toNat < 0x80 := by
  by_cases hupper : c.isUpper
  · simp only [Char.isUpper, UInt32.le_iff_toNat_le, Char.reduceVal, UInt32.reduceToNat,
      decide_eq_true_eq] at hupper
    exact Nat.lt_of_le_of_lt hupper.2 (by decide)
  · rwa [Char.toLower_eq_of_not_isUpper hupper] at h

/-- Every run of upper-case characters is mapped beyond ASCII, except the Kelvin sign. -/
theorem lowerRuns_shift : ∀ r ∈ lowerRuns,
    (0x80 ≤ (r.first : Int) + r.shift ∧
      ((r.last : Int) + r.shift < 0xD800 ∨
        0xDFFF < (r.first : Int) + r.shift ∧ (r.last : Int) + r.shift < 0x110000)) ∨
      r.first = r.last ∧ (r.first : Int) + r.shift = 0x6B := by
  decide +kernel

theorem not_isPlain_of_lowerByRun? (h : lowerByRun? c = some d) : ¬ IsPlain d := by
  obtain ⟨r, hfind, rfl⟩ := Option.map_eq_some_iff.mp h
  have hholds := List.find?_some hfind
  simp only [CaseRun.holds, Bool.and_eq_true, decide_eq_true_eq] at hholds
  rintro ⟨hascii, hk⟩
  rcases lowerRuns_shift r (List.mem_of_find?_eq_some hfind) with ⟨hlow, hvalid⟩ | ⟨hone, hkelvin⟩
  · have hchar : ((c.toNat : Int) + r.shift).toNat.isValidChar := by
      rw [Nat.isValidChar]
      omega
    rw [Char.toNat_ofNat, if_pos hchar] at hascii
    omega
  · have hc : ((c.toNat : Int) + r.shift).toNat = 0x6B := by omega
    exact hk (congrArg Char.ofNat hc)

/-- What becomes a plain character has been an ASCII character. -/
theorem ascii_of_lowerChar (h : ∀ d ∈ lowerChar c, IsPlain d) : c.toNat < 0x80 := by
  by_contra hascii
  rw [lowerChar, if_neg hascii] at h
  split at h
  · exact absurd (h '\u0307' (by simp)) (by decide)
  · cases hrun : lowerByRun? c with
    | none =>
      rw [hrun] at h
      exact hascii (h c (by simp)).1
    | some d =>
      rw [hrun] at h
      exact not_isPlain_of_lowerByRun? hrun (h d (by simp))

theorem ascii_of_lowercaseAfter {before : List Char}
    (h : ∀ d ∈ lowercaseAfter before cs, IsPlain d) : ∀ c ∈ cs, c.toNat < 0x80 := by
  induction cs generalizing before with
  | nil => exact List.forall_mem_nil _
  | cons c cs ih =>
    rw [lowercaseAfter, List.forall_mem_append] at h
    refine List.forall_mem_cons.mpr ⟨?_, ih h.2⟩
    by_cases hsigma : c = 'Σ'
    · have hlow := h.1
      rw [if_pos hsigma] at hlow
      split at hlow
      · exact absurd (hlow 'ς' (by simp)) (by decide)
      · exact absurd (hlow 'σ' (by simp)) (by decide)
    · have hlow := h.1
      rw [if_neg hsigma] at hlow
      exact ascii_of_lowerChar hlow

/-- The texts whose lower-case form is a given word of plain characters. -/
theorem lowercase_eq_iff (hlower : ds.map Char.toLower = ds) (hplain : ∀ d ∈ ds, IsPlain d) :
    lowercase cs = ds ↔ SameLetters cs ds := by
  rw [SameLetters, hlower, lowercase]
  constructor
  · intro h
    rw [← h] at hplain
    rw [← h, lowercaseAfter_of_ascii (ascii_of_lowercaseAfter hplain)]
  · intro h
    rw [← h] at hplain
    rw [lowercaseAfter_of_ascii fun c hc => ?_, h]
    exact ascii_of_toLower (hplain _ (List.mem_map_of_mem hc)).1

end EventPackets.Text
