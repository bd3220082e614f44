import EventPackets.Bytes

/-!
# Digits in their places

A format says which bytes stand where, and a decoder reads numbers back from these places.  The two
meet in `Bytes.Holds`: a buffer holds given bytes from a position on.  What it takes for a buffer to
hold a concatenation, a sequence of parts of one length, or the digits of a number comes down to
the parts and to what is read there, in both directions.  A format with digits for all its values
therefore fixes the buffer, and the buffer fixes the values.

## Main definitions

* `Bytes.Holds` : a buffer holds given bytes from a position on.

## Main results

* `Bytes.holds_append_iff`, `Bytes.holds_flatMap_iff` : parts back to back.
* `Bytes.holds_digitsLE_iff` : the digits of a number, and the number that is read there.
* `Bytes.toArray_eq_iff` : the buffer that holds given bytes and nothing else.
-/

namespace EventPackets.Bytes

variable {b : Bytes} {i n v : Nat}

/-- The buffer holds the given bytes from position `i` on. -/
def Holds (b : Bytes) (i : Nat) : List UInt8 → Prop
  | [] => True
  | c :: cs => b.byteAt i = c ∧ b.Holds (i + 1) cs

theorem holds_append_iff {cs ds : List UInt8} :
    b.Holds i (cs ++ ds) ↔ b.Holds i cs ∧ b.Holds (i + cs.length) ds := by
  induction cs generalizing i with
  | nil => simp [Holds]
  | cons c cs ih =>
    simp only [List.cons_append, Holds, ih, List.length_cons, and_assoc]
    rw [Nat.add_assoc i 1, Nat.add_comm 1]

/-- Parts of one length stand at multiples of it. -/
theorem holds_flatMap_iff {α : Type} {f : α → List UInt8} (hf : ∀ x, (f x).length = n)
    {xs : List α} :
    b.Holds i (xs.flatMap f) ↔ ∀ j x, xs[j]? = some x → b.Holds (i + j * n) (f x) := by
  induction xs generalizing i with
  | nil => simp [Holds]
  | cons x xs ih =>
    rw [List.flatMap_cons, holds_append_iff, hf, ih]
    have hplace (j : Nat) : i + n + j * n = i + (j + 1) * n := by
      rw [Nat.add_mul]
      omega
    simp only [hplace]
    constructor
    · rintro ⟨hx, hxs⟩ j y hy
      cases j with
      | zero =>
        cases hy
        simpa using hx
      | succ j => exact hxs j y hy
    · intro h
      exact ⟨by simpa using h 0 x rfl, fun j y hy => h (j + 1) y hy⟩

/-- The digits of a number stand where this number is read, as far as they reach. -/
theorem holds_digitsLE_iff : b.Holds i (digitsLE n v) ↔ b.readLE i n = v % bound n := by
  induction n generalizing i v with
  | zero => simp [Holds, digitsLE, readLE, bound, Nat.mod_one]
  | succ n ih =>
    have hlt := (b.byteAt i).toNat_lt
    have hmod : (UInt8.ofNat v).toNat = v % 256 := UInt8.toNat_ofNat'
    rw [digitsLE, Holds, ih, readLE, bound, Nat.mod_mul, ← UInt8.toNat_inj, hmod]
    omega

theorem holds_iff_getElem? {cs : List UInt8} :
    b.Holds i cs ↔ ∀ j c, cs[j]? = some c → b.byteAt (i + j) = c := by
  have h : b.Holds i (cs.flatMap fun c => [c]) ↔ _ :=
    holds_flatMap_iff (n := 1) fun _ => rfl
  simpa [Holds] using h

/-- A buffer that holds given bytes from its start to its end is made of them. -/
theorem toArray_eq_iff {cs : List UInt8} :
    cs.toArray = b ↔ b.size = cs.length ∧ b.Holds 0 cs := by
  constructor
  · rintro rfl
    refine ⟨rfl, holds_iff_getElem?.mpr fun j c hj => ?_⟩
    simp [byteAt, Array.getD_eq_getD_getElem?, hj]
  · rintro ⟨hsize, hb⟩
    refine Array.ext hsize.symm fun j hj hj' => ?_
    have hc := holds_iff_getElem?.mp hb j cs[j] (List.getElem?_eq_getElem hj)
    simpa [byteAt, Array.getD_eq_getD_getElem?, hj'] using hc.symm

end EventPackets.Bytes
