/-!
# Bytes

A packet travels as a flat buffer of bytes, and every number in it is little-endian.  This
file reads and writes such numbers at a byte position, for any width.  Reading past the end
sees zeros and writing past the end changes nothing, so both are total; callers that keep
inside the buffer never notice.

## Main definitions

* `Bytes.readLE` : the number in a run of bytes.
* `Bytes.writeLE` : the buffer with a run of bytes replaced by the digits of a number.
* `Bytes.digitsLE` : these digits.

## Main results

* `Bytes.size_writeLE` : writing keeps the size.
* `Bytes.readLE_writeLE_self` : what was written is read back, modulo the width.
* `Bytes.readLE_writeLE_of_disjoint` : writing does not disturb a run it does not touch.
-/

namespace EventPackets

/-- A buffer of bytes. -/
abbrev Bytes := Array UInt8

namespace Bytes

/-- The byte at position `i`, and `0` past the end. -/
def byteAt (b : Bytes) (i : Nat) : UInt8 :=
  b.getD i 0

/-- The little-endian number in the `n` bytes from position `i`. -/
def readLE (b : Bytes) (i : Nat) : Nat → Nat
  | 0 => 0
  | n + 1 => (byteAt b i).toNat + 256 * readLE b (i + 1) n

/-- The least number that needs more than `n` bytes. -/
def bound : Nat → Nat
  | 0 => 1
  | n + 1 => 256 * bound n

/-- The buffer with the `n` bytes from position `i` replaced by the `n` lowest base-256 digits
of `v`. -/
def writeLE (b : Bytes) (i : Nat) : Nat → Nat → Bytes
  | 0, _ => b
  | n + 1, v => writeLE (b.setIfInBounds i (UInt8.ofNat v)) (i + 1) n (v / 256)

/-- The `n` lowest base-256 digits of `v`, the lowest first. -/
def digitsLE : Nat → Nat → List UInt8
  | 0, _ => []
  | n + 1, v => UInt8.ofNat v :: digitsLE n (v / 256)

/-- The 32-bit word at position `i`. -/
def word (b : Bytes) (i : Nat) : UInt32 :=
  UInt32.ofNat (readLE b i 4)

/-- The buffer with the 32-bit word at position `i` replaced. -/
def setWord (b : Bytes) (i : Nat) (w : UInt32) : Bytes :=
  writeLE b i 4 w.toNat

/-- The `n` bytes from position `i`, fewer at the end of the buffer. -/
def slice (b : Bytes) (i n : Nat) : Bytes :=
  b.extract i (i + n)

/-- The buffer with the bytes from position `i` replaced by `c`, as far as the buffer
reaches. -/
def overwrite (b : Bytes) (i : Nat) (c : Bytes) : Bytes :=
  b.extract 0 i ++ c.extract 0 (b.size - i) ++ b.extract (i + c.size) b.size

/-! ### Slices -/

theorem size_slice {b : Bytes} {i n : Nat} (h : n ≤ b.size - i) : (b.slice i n).size = n := by
  simp only [slice, Array.size_extract]
  omega

@[simp]
theorem slice_zero (b : Bytes) (i : Nat) : b.slice i 0 = #[] :=
  Array.extract_empty_of_stop_le_start (Nat.le_refl i)

theorem slice_append_slice (b : Bytes) (i m n : Nat) :
    b.slice i m ++ b.slice (i + m) n = b.slice i (m + n) := by
  rw [slice, slice, slice, Array.extract_append_extract]
  congr 1 <;> omega

/-! ### Reading back -/

theorem byteAt_setIfInBounds (b : Bytes) (i j : Nat) (c : UInt8) :
    byteAt (b.setIfInBounds i c) j = if i = j ∧ i < b.size then c else byteAt b j := by
  simp only [byteAt, Array.getD_eq_getD_getElem?, Array.getElem?_setIfInBounds]
  by_cases h : i = j
  · subst h
    by_cases hi : i < b.size <;> simp [hi]
  · simp [h]

@[simp]
theorem size_writeLE (b : Bytes) (i n v : Nat) : (writeLE b i n v).size = b.size := by
  induction n generalizing b i v with
  | zero => rfl
  | succ n ih => simp [writeLE, ih]

theorem byteAt_writeLE_of_outside (b : Bytes) (i n v j : Nat) (h : j < i ∨ i + n ≤ j) :
    byteAt (writeLE b i n v) j = byteAt b j := by
  induction n generalizing b i v with
  | zero => rfl
  | succ n ih =>
    rw [writeLE, ih _ _ _ (by omega), byteAt_setIfInBounds, if_neg (by omega)]

theorem readLE_lt (b : Bytes) (i n : Nat) : readLE b i n < bound n := by
  induction n generalizing i with
  | zero => simp [readLE, bound]
  | succ n ih =>
    have h := (byteAt b i).toNat_lt
    have h' := ih (i + 1)
    simp only [readLE, bound]
    omega

/-- A run of bytes is read from those bytes alone. -/
theorem readLE_congr {b c : Bytes} {i n : Nat}
    (h : ∀ j, i ≤ j → j < i + n → byteAt b j = byteAt c j) : readLE b i n = readLE c i n := by
  induction n generalizing i with
  | zero => rfl
  | succ n ih =>
    rw [readLE, readLE, h i (Nat.le_refl i) (by omega),
      ih (fun j hj hj' => h j (by omega) (by omega))]

theorem readLE_writeLE_of_disjoint (b : Bytes) (i n v j m : Nat) (h : j + m ≤ i ∨ i + n ≤ j) :
    readLE (writeLE b i n v) j m = readLE b j m :=
  readLE_congr fun k hk hk' => byteAt_writeLE_of_outside b i n v k (by omega)

theorem readLE_writeLE_self (b : Bytes) (i n v : Nat) (h : i + n ≤ b.size) :
    readLE (writeLE b i n v) i n = v % bound n := by
  induction n generalizing b i v with
  | zero => simp [readLE, bound, Nat.mod_one]
  | succ n ih =>
    have hi : byteAt (writeLE (b.setIfInBounds i (UInt8.ofNat v)) (i + 1) n (v / 256)) i
        = UInt8.ofNat v := by
      rw [byteAt_writeLE_of_outside _ _ _ _ _ (by omega), byteAt_setIfInBounds,
        if_pos ⟨rfl, by omega⟩]
    rw [writeLE, readLE, hi, ih _ _ _ (by simp only [Array.size_setIfInBounds]; omega),
      UInt8.toNat_ofNat', bound, Nat.mod_mul]

@[simp]
theorem length_digitsLE (n v : Nat) : (digitsLE n v).length = n := by
  induction n generalizing v with
  | zero => rfl
  | succ n ih => simp [digitsLE, ih]

@[simp]
theorem size_setWord (b : Bytes) (i : Nat) (w : UInt32) : (setWord b i w).size = b.size :=
  size_writeLE b i 4 w.toNat

theorem word_setWord_self (b : Bytes) (i : Nat) (w : UInt32) (h : i + 4 ≤ b.size) :
    word (setWord b i w) i = w := by
  have hw : w.toNat < bound 4 := w.toNat_lt
  rw [word, setWord, readLE_writeLE_self b i 4 _ h, Nat.mod_eq_of_lt hw, UInt32.ofNat_toNat]

theorem word_setWord_of_disjoint (b : Bytes) (i j : Nat) (w : UInt32)
    (h : j + 4 ≤ i ∨ i + 4 ≤ j) : word (setWord b i w) j = word b j := by
  rw [word, setWord, readLE_writeLE_of_disjoint b i 4 _ j 4 h, word]

end Bytes

end EventPackets
