import EventPackets.Text.Basic

/-!
# Splitting what has been put together

Parts that do not contain the separator come out of a text as they went in, whether the separator
stands between them or after each of them.  Words come out of a text in columns, however many spaces
stand before them.

## Main definitions

* `Text.words` : what stands between the spaces of a text.
* `Text.IsWord` : a text that is one word.

## Main results

* `Text.splitAt_intercalate` : parts with the separator between them.
* `Text.splitAt_eq_iff` : the parts of a text as the only ones of their kind.
* `Text.splitAt_flatMap` : parts with the separator after each of them.
* `Text.words_columns` : words that stand at the right end of their columns.
-/

namespace EventPackets.Text

variable {sep : Char} {part : List Char}

theorem splitAt_of_not_mem (h : sep ∉ part) : splitAt sep part = [part] := by
  induction part with
  | nil => rfl
  | cons c cs ih =>
    rw [List.mem_cons, not_or] at h
    rw [splitAt, if_neg (Ne.symm h.1), ih h.2]

/-- A separator ends the parts before it. -/
theorem splitAt_append_cons (cs rest : List Char) :
    splitAt sep (cs ++ sep :: rest) = splitAt sep cs ++ splitAt sep rest := by
  induction cs with
  | nil => exact if_pos rfl
  | cons c cs ih =>
    obtain ⟨part, parts, hsplit⟩ := List.exists_cons_of_ne_nil (splitAt_ne_nil sep cs)
    by_cases hc : c = sep
    · rw [List.cons_append, splitAt, if_pos hc, ih, splitAt, if_pos hc, List.cons_append]
    · rw [List.cons_append, splitAt, if_neg hc, ih, splitAt, if_neg hc, hsplit]
      rfl

/-- The first part ends at the first separator. -/
theorem splitAt_append (h : sep ∉ part) (rest : List Char) :
    splitAt sep (part ++ sep :: rest) = part :: splitAt sep rest := by
  rw [splitAt_append_cons, splitAt_of_not_mem h, List.singleton_append]

/-- Parts with the separator between them. -/
theorem splitAt_intercalate {parts : List (List Char)} (hne : parts ≠ [])
    (h : ∀ part ∈ parts, sep ∉ part) : splitAt sep ([sep].intercalate parts) = parts := by
  induction parts with
  | nil => exact absurd rfl hne
  | cons p ps ih =>
    rw [List.forall_mem_cons] at h
    cases ps with
    | nil => rw [List.intercalate_singleton, splitAt_of_not_mem h.1]
    | cons q qs =>
      rw [List.intercalate_cons_cons, List.append_assoc, List.singleton_append,
        splitAt_append h.1, ih (List.cons_ne_nil q qs) h.2]

theorem not_mem_of_mem_splitAt {cs : List Char} (h : part ∈ splitAt sep cs) : sep ∉ part := by
  induction cs generalizing part with
  | nil =>
    obtain rfl := List.mem_singleton.mp h
    exact List.not_mem_nil
  | cons c cs ih =>
    obtain ⟨first, rest, hsplit⟩ := List.exists_cons_of_ne_nil (splitAt_ne_nil sep cs)
    rw [hsplit] at ih
    by_cases hc : c = sep
    · rw [splitAt, if_pos hc, hsplit, List.mem_cons] at h
      obtain rfl | h := h
      · exact List.not_mem_nil
      · exact ih h
    · rw [splitAt, if_neg hc, hsplit, List.mem_cons] at h
      obtain rfl | h := h
      · rw [List.mem_cons, not_or]
        exact ⟨Ne.symm hc, ih List.mem_cons_self⟩
      · exact ih (List.mem_cons_of_mem first h)

/-- The parts of a text are the only ones that do not contain the separator and give the text with
the separator between them. -/
theorem splitAt_eq_iff {cs : List Char} {parts : List (List Char)} :
    splitAt sep cs = parts ↔
      parts ≠ [] ∧ (∀ part ∈ parts, sep ∉ part) ∧ [sep].intercalate parts = cs := by
  constructor
  · rintro rfl
    exact ⟨splitAt_ne_nil sep cs, fun _ => not_mem_of_mem_splitAt, intercalate_splitAt sep cs⟩
  · rintro ⟨hne, hparts, rfl⟩
    exact splitAt_intercalate hne hparts

/-- Parts with the separator after each of them; nothing stands after the last one. -/
theorem splitAt_flatMap {parts : List (List Char)} (h : ∀ part ∈ parts, sep ∉ part) :
    splitAt sep (parts.flatMap fun part => part ++ [sep]) = parts ++ [[]] := by
  induction parts with
  | nil => rfl
  | cons p ps ih =>
    rw [List.forall_mem_cons] at h
    rw [List.flatMap_cons, List.append_assoc, List.singleton_append, splitAt_append h.1, ih h.2,
      List.cons_append]

/-- What stands neither in the parts nor between them. -/
theorem not_mem_intercalate {c : Char} {parts : List (List Char)} (hsep : c ≠ sep)
    (h : ∀ part ∈ parts, c ∉ part) : c ∉ [sep].intercalate parts := by
  induction parts with
  | nil => exact List.not_mem_nil
  | cons p ps ih =>
    rw [List.forall_mem_cons] at h
    cases ps with
    | nil =>
      rw [List.intercalate_singleton]
      exact h.1
    | cons q qs =>
      rw [List.intercalate_cons_cons, List.mem_append, List.mem_append, List.mem_singleton]
      exact not_or.mpr ⟨not_or.mpr ⟨h.1, hsep⟩, ih h.2⟩

/-! ### Words -/

/-- The words of a text: what stands between its spaces. -/
def words (cs : List Char) : List (List Char) :=
  (splitAt ' ' cs).filter fun part => !part.isEmpty

/-- A text that is one word. -/
structure IsWord (cs : List Char) : Prop where
  ne_nil : cs ≠ []
  space_not_mem : ' ' ∉ cs

/-- A space ends the words before it. -/
theorem words_append_cons (cs rest : List Char) :
    words (cs ++ ' ' :: rest) = words cs ++ words rest := by
  rw [words, splitAt_append_cons, List.filter_append]
  rfl

theorem words_replicate_append (n : Nat) (cs : List Char) :
    words (List.replicate n ' ' ++ cs) = words cs := by
  induction n with
  | zero => rfl
  | succ n ih => exact (words_append_cons [] (List.replicate n ' ' ++ cs)).trans ih

theorem IsWord.words_eq (h : IsWord part) : words part = [part] := by
  rw [words, splitAt_of_not_mem h.space_not_mem]
  refine List.filter_cons_of_pos ?_
  rw [Bool.not_eq_true', List.isEmpty_eq_false_iff]
  exact h.ne_nil

theorem toList_padLeft (width : Nat) (s : String) :
    (padLeft width s).toList = List.replicate (width - s.length) ' ' ++ s.toList := by
  rw [padLeft, String.toList_append, String.toList_ofList]

/-- Words that stand at the right end of their columns. -/
theorem words_columns {widths : List Nat} {cells : List String}
    (hlength : cells.length ≤ widths.length) (h : ∀ cell ∈ cells, IsWord cell.toList) :
    words ([' '].intercalate ((List.zipWith padLeft widths cells).map String.toList)) =
      cells.map String.toList := by
  induction cells generalizing widths with
  | nil =>
    rw [List.zipWith_nil_right]
    rfl
  | cons cell cells ih =>
    obtain ⟨width, widths, rfl⟩ := List.exists_cons_of_length_pos (Nat.lt_of_lt_of_le
      (Nat.zero_lt_succ _) hlength)
    rw [List.forall_mem_cons] at h
    have hcell : words (padLeft width cell).toList = [cell.toList] := by
      rw [toList_padLeft, words_replicate_append, h.1.words_eq]
    have hrest := ih (Nat.le_of_succ_le_succ hlength) h.2
    cases cells with
    | nil =>
      rw [List.zipWith_cons_cons, List.zipWith_nil_right, List.map_singleton,
        List.intercalate_singleton, hcell, List.map_singleton]
    | cons next cells =>
      obtain ⟨width', widths, rfl⟩ := List.exists_cons_of_length_pos (Nat.lt_of_lt_of_le
        (Nat.zero_lt_succ _) (Nat.le_of_succ_le_succ hlength))
      rw [List.zipWith_cons_cons, List.map_cons] at hrest
      rw [List.zipWith_cons_cons, List.zipWith_cons_cons, List.map_cons, List.map_cons,
        List.intercalate_cons_cons, List.append_assoc, List.singleton_append, words_append_cons,
        hcell, hrest]
      rfl

end EventPackets.Text
