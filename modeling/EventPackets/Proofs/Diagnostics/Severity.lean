import EventPackets.Diagnostics.Severity
import EventPackets.Proofs.Number.Digits
import EventPackets.Proofs.Text.Blank
import EventPackets.Proofs.Text.Letters

/-!
# Texts that name a severity

A severity is named by its number or by its name.  Both are compared in upper case, which changes
no digit and no sign, and a number too large for a byte is looked up among the names, where no
number stands.  So the two ways of reading never get into each other's way.

## Main definitions

* `Severity.names` : the names of a severity.

## Main results

* `Digits.natural?_map_toUpper` : upper case does not change numbers.
* `Severity.parse_eq_ok_iff` : the texts that name a severity.
* `Severity.severity_grammar` : every text names a severity or is refused as it was given.
-/

namespace EventPackets

variable {cs ds : List Char}

/-! ### Upper case -/

namespace Digits

/-- Only letters are changed by upper case, and they stay letters. -/
theorem toUpper_eq_self_or (c : Char) : c.toUpper = c ∨ c.isAlpha ∧ c.toUpper.isAlpha := by
  by_cases h : c.isLower
  · have halpha : c.isAlpha := by simp [Char.isAlpha, h]
    exact .inr ⟨halpha, c.isAlpha_toUpper_eq_isAlpha.trans halpha⟩
  · exact .inl (Char.toUpper_eq_of_not_isLower h)

theorem value?_of_isAlpha {c : Char} (h : c.isAlpha) : value? c = none := by
  rw [value?_eq, if_neg]
  simp only [Char.isAlpha, Char.isUpper, Char.isLower, Char.isDigit, UInt32.le_iff_toNat_le,
    Char.reduceVal, UInt32.reduceToNat, Bool.or_eq_true, Bool.and_eq_true, decide_eq_true_eq]
    at h ⊢
  omega

theorem value?_toUpper (c : Char) : value? c.toUpper = value? c := by
  obtain h | ⟨hc, hupper⟩ := toUpper_eq_self_or c
  · rw [h]
  · rw [value?_of_isAlpha hc, value?_of_isAlpha hupper]

theorem toUpper_eq_plus_iff {c : Char} : c.toUpper = '+' ↔ c = '+' := by
  obtain h | ⟨hc, hupper⟩ := toUpper_eq_self_or c
  · rw [h]
  · constructor
    · intro h
      rw [h] at hupper
      cases hupper
    · rintro rfl
      cases hc

theorem foldFrom_map_toUpper (n : Nat) (cs : List Char) :
    foldFrom n (cs.map Char.toUpper) = foldFrom n cs := by
  induction cs generalizing n with
  | nil => rfl
  | cons c cs ih =>
    rw [List.map_cons, foldFrom, foldFrom, value?_toUpper]
    cases value? c with
    | none => rfl
    | some d => exact ih _

theorem toNat?_map_toUpper (cs : List Char) : toNat? (cs.map Char.toUpper) = toNat? cs := by
  cases cs with
  | nil => rfl
  | cons c cs => exact foldFrom_map_toUpper 0 (c :: cs)

/-- Upper case does not change numbers. -/
theorem natural?_map_toUpper (cs : List Char) : natural? (cs.map Char.toUpper) = natural? cs := by
  cases cs with
  | nil => rfl
  | cons c cs =>
    by_cases hc : c = '+'
    · subst hc
      exact toNat?_map_toUpper cs
    · have hupper := mt toUpper_eq_plus_iff.mp hc
      have hnatural (d : Char) (ds : List Char) (hd : d ≠ '+') :
          natural? (d :: ds) = toNat? (d :: ds) := by
        unfold natural?
        split
        next h => exact absurd (List.head_eq_of_cons_eq h) hd
        next => rfl
      rw [List.map_cons, hnatural _ _ hupper, hnatural _ _ hc, ← List.map_cons,
        toNat?_map_toUpper]

theorem byte?_map_toUpper (cs : List Char) : byte? (cs.map Char.toUpper) = byte? cs := by
  rw [byte?, natural?_map_toUpper, byte?]

end Digits

/-! ### Names -/

namespace Severity

variable {s : String} {v : Severity}

/-- The names of a severity. -/
def names : Severity → List String
  | warning => ["WARNING", "WARN"]
  | v => [v.name]

theorem ofName?_eq_some_iff : ofName? s = some v ↔ s ∈ v.names := by
  constructor
  · intro h
    unfold ofName? at h
    split at h <;> cases h <;> decide
  · intro h
    cases v with
    | warning =>
      simp only [names, List.mem_cons, List.not_mem_nil, or_false] at h
      rcases h with rfl | rfl <;> rfl
    | _ =>
      obtain rfl := List.mem_singleton.mp h
      rfl

/-- Names are written in upper case. -/
theorem map_toUpper_of_mem_names (h : s ∈ v.names) : s.toList.map Char.toUpper = s.toList := by
  have hall : ∀ t ∈ v.names, t.toList.map Char.toUpper = t.toList := by cases v <;> decide
  exact hall s h

/-- No name is a number. -/
theorem natural?_of_mem_names (h : s ∈ v.names) : Digits.natural? s.toList = none := by
  have hall : ∀ t ∈ v.names, Digits.natural? t.toList = none := by cases v <;> decide
  exact hall s h

theorem ofRank?_eq_some_iff {n : Nat} : ofRank? n = some v ↔ n = v.rank := by
  constructor
  · intro h
    unfold ofRank? at h
    split at h <;> cases h <;> rfl
  · rintro rfl
    exact ofRank?_rank v

/-- The ranks are the numbers up to seven. -/
theorem exists_rank_eq {n : Nat} (h : n ≤ 7) : ∃ v : Severity, v.rank = n := by
  interval_cases n
  exacts [⟨emergency, rfl⟩, ⟨alert, rfl⟩, ⟨critical, rfl⟩, ⟨error, rfl⟩, ⟨warning, rfl⟩,
    ⟨notice, rfl⟩, ⟨info, rfl⟩, ⟨debug, rfl⟩]

/-- A text writes no rank if every number that it writes is too large. -/
theorem forall_not_writes_rank_iff :
    (∀ v : Severity, ¬ Digits.Writes v.rank cs) ↔ ∀ n, Digits.Writes n cs → 7 < n := by
  constructor
  · intro h n hn
    by_contra hle
    obtain ⟨v, rfl⟩ := exists_rank_eq (Nat.not_lt.mp hle)
    exact h v hn
  · intro h v hv
    exact absurd (h _ hv) (Nat.not_lt.mpr (Nat.le_of_lt_succ v.rank_lt))

/-- A text is looked up among the names without regard to case. -/
theorem ofName?_map_toUpper_eq_some_iff :
    ofName? (String.ofList (cs.map Char.toUpper)) = some v ↔
      ∃ name ∈ v.names, Text.SameLetters cs name.toList := by
  rw [ofName?_eq_some_iff]
  constructor
  · intro h
    have hupper := map_toUpper_of_mem_names h
    rw [String.toList_ofList] at hupper
    refine ⟨_, h, Text.map_toUpper_eq_iff.mp ?_⟩
    rw [String.toList_ofList, hupper]
  · rintro ⟨name, hname, hletters⟩
    have hupper := Text.map_toUpper_eq_iff.mpr hletters
    rw [map_toUpper_of_mem_names hname] at hupper
    rwa [hupper, String.ofList_toList]

/-! ### Texts -/

theorem parse_eq_ok_iff_of_byte {n : Nat} (h : Digits.byte? (Text.trim s.toList) = some n) :
    parse s = .ok v ↔ n = v.rank := by
  rw [← Digits.byte?_map_toUpper] at h
  rw [← ofRank?_eq_some_iff, parse, h]
  dsimp only
  cases ofRank? n <;> simp

theorem parse_eq_ok_iff_of_not_byte (h : Digits.byte? (Text.trim s.toList) = none) :
    parse s = .ok v ↔ ∃ name ∈ v.names, Text.SameLetters (Text.trim s.toList) name.toList := by
  rw [← Digits.byte?_map_toUpper] at h
  rw [← ofName?_map_toUpper_eq_some_iff, parse, h]
  cases ofName? (String.ofList ((Text.trim s.toList).map Char.toUpper)) <;> simp

/-- The texts that name a severity: those that write its rank, and those that are one of its names
up to the case of letters. -/
theorem parse_eq_ok_iff :
    parse s = .ok v ↔ Digits.Writes v.rank (Text.trim s.toList) ∨
      ∃ name ∈ v.names, Text.SameLetters (Text.trim s.toList) name.toList := by
  cases hbyte : Digits.byte? (Text.trim s.toList) with
  | some n =>
    rw [parse_eq_ok_iff_of_byte hbyte]
    have hwrites := (Digits.byte?_eq_some_iff.mp hbyte).1
    constructor
    · rintro rfl
      exact .inl hwrites
    · rintro (hrank | ⟨name, hname, hletters⟩)
      · exact hwrites.unique hrank
      · have hnatural := Digits.natural?_eq_some_iff.mpr hwrites
        rw [← Digits.natural?_map_toUpper, Text.map_toUpper_eq_iff.mpr hletters,
          map_toUpper_of_mem_names hname, natural?_of_mem_names hname] at hnatural
        cases hnatural
  | none =>
    rw [parse_eq_ok_iff_of_not_byte hbyte, or_iff_right]
    intro hrank
    have hlt : v.rank < 256 := Nat.lt_trans v.rank_lt (by decide)
    rw [Digits.byte?_eq_some_iff.mpr ⟨hrank, hlt⟩] at hbyte
    cases hbyte

theorem parse_eq_error_iff {e : ParseError} :
    parse s = .error e ↔ e = ⟨s⟩ ∧ ∀ v, parse s ≠ .ok v := by
  unfold parse
  dsimp only
  split
  next v _ => exact ⟨nofun, fun h => absurd rfl (h.2 v)⟩
  next => exact ⟨fun h => ⟨(Except.error.inj h).symm, nofun⟩, fun h => congrArg _ h.1.symm⟩

/-- A text names a severity if and only if it is, without the blanks around it, the digits of a
number up to seven after a plus sign or none, which is then its rank, or one of its names in any
case.  Every other text, also a number of any length above seven, is refused with an error that
shows the text as it was given. -/
theorem severity_grammar (s : String) :
    (∀ core, Text.trim s.toList = core ↔ Text.IsCore s.toList core) ∧
    (∀ v, parse s = .ok v ↔ Digits.Writes v.rank (Text.trim s.toList) ∨
      ∃ name ∈ v.names, Text.SameLetters (Text.trim s.toList) name.toList) ∧
    (∀ n, Digits.Writes n (Text.trim s.toList) → n ≤ 7 →
      ∃ v : Severity, v.rank = n ∧ parse s = .ok v) ∧
    (∀ e, parse s = .error e ↔ e = ⟨s⟩ ∧
      (∀ n, Digits.Writes n (Text.trim s.toList) → 7 < n) ∧
      ∀ v : Severity, ∀ name ∈ v.names, ¬ Text.SameLetters (Text.trim s.toList) name.toList) ∧
    ParseError.message ⟨s⟩ = "Unknown log level: " ++ s := by
  refine ⟨fun core => Text.trim_eq_iff, fun v => parse_eq_ok_iff, fun n hn hle => ?_,
    fun e => ?_, rfl⟩
  · obtain ⟨v, rfl⟩ := exists_rank_eq hle
    exact ⟨v, rfl, parse_eq_ok_iff.mpr (.inl hn)⟩
  · rw [parse_eq_error_iff, ← forall_not_writes_rank_iff]
    simp only [ne_eq, parse_eq_ok_iff, not_or, not_exists, not_and, forall_and]

end Severity

end EventPackets
