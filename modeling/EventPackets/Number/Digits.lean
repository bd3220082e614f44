/-!
# Decimal digits

Whole numbers written in ASCII decimal digits.

## Main definitions

* `Digits.ofNat`, `Digits.toNat?` : a number as its digits, and back; leading zeros are read.
* `Digits.natural?`, `Digits.integer?` : numbers with an optional sign in front.
* `Digits.byte?` : numbers below 256.

## Main results

* `Digits.toNat?_ofNat` : a number is read back from its digits.
-/

namespace EventPackets.Digits

/-- The digits of a number, without leading zeros. -/
def ofNat (n : Nat) : List Char :=
  Nat.toDigits 10 n

/-- The value of an ASCII digit. -/
def value? (c : Char) : Option Nat :=
  if '0' ≤ c ∧ c ≤ '9' then some (c.toNat - 48) else none

/-- The number that a run of digits continues, starting from `n`. -/
def foldFrom (n : Nat) : List Char → Option Nat
  | [] => some n
  | c :: cs =>
    match value? c with
    | some d => foldFrom (10 * n + d) cs
    | none => none

/-- The number written by one or more digits. -/
def toNat? : List Char → Option Nat
  | [] => none
  | cs => foldFrom 0 cs

/-- Digits, after a plus sign or none. -/
def natural? : List Char → Option Nat
  | '+' :: cs => toNat? cs
  | cs => toNat? cs

/-- Digits, after a plus sign or none, of a number that fits into a byte. -/
def byte? (cs : List Char) : Option Nat :=
  (natural? cs).filter fun n => n < 256

/-- Digits, after a plus sign, a minus sign or none. -/
def integer? : List Char → Option Int
  | '-' :: cs => (toNat? cs).map fun n => -(n : Int)
  | cs => (natural? cs).map fun n => (n : Int)

theorem foldFrom_append (n : Nat) (cs ds : List Char) :
    foldFrom n (cs ++ ds) = (foldFrom n cs).bind fun m => foldFrom m ds := by
  induction cs generalizing n with
  | nil => rfl
  | cons c cs ih =>
    simp only [List.cons_append, foldFrom]
    split
    · exact ih _
    · rfl

theorem value?_digitChar {d : Nat} (h : d < 10) : value? (Nat.digitChar d) = some d := by
  match d, h with
  | 0, _ | 1, _ | 2, _ | 3, _ | 4, _ | 5, _ | 6, _ | 7, _ | 8, _ | 9, _ => rfl

theorem ofNat_ne_nil (n : Nat) : ofNat n ≠ [] := by
  rw [ofNat, Nat.toDigits_eq_if (by decide)]
  split <;> simp

theorem foldFrom_ofNat (n : Nat) : foldFrom 0 (ofNat n) = some n := by
  induction n using Nat.strongRecOn with
  | _ n ih =>
    rw [ofNat, Nat.toDigits_eq_if (by decide)]
    split
    · rename_i h
      simp [foldFrom, value?_digitChar h]
    · rename_i h
      have hd : n % 10 < 10 := Nat.mod_lt _ (by decide)
      have hi := ih (n / 10) (by omega)
      rw [ofNat] at hi
      rw [foldFrom_append, hi]
      simp only [Option.bind_some, foldFrom, value?_digitChar hd]
      congr 1
      omega

theorem toNat?_ofNat (n : Nat) : toNat? (ofNat n) = some n := by
  obtain ⟨c, cs, h⟩ := List.exists_cons_of_ne_nil (ofNat_ne_nil n)
  have hf := foldFrom_ofNat n
  rw [h] at hf ⊢
  exact hf

end EventPackets.Digits
