import EventPackets.Text.Basic

/-!
# Texts and the blanks around them

A text is some blanks, a core that neither starts nor ends with one, and some blanks again.  The
core is the same however the text is taken apart, and trimming finds it.

## Main definitions

* `Text.whiteSpace` : the code points that are white space.
* `Text.IsCore` : what is left of a text without the white space around it.

## Main results

* `Text.isBlank_iff` : the blanks are the white space.
* `Text.trim_eq_iff` : what a text is trimmed to.
-/

namespace EventPackets.Text

variable {c : Char} {cs core front : List Char}

/-- The code points with the Unicode property White_Space. -/
def whiteSpace : List Nat :=
  [0x09, 0x0A, 0x0B, 0x0C, 0x0D, 0x20, 0x85, 0xA0, 0x1680, 0x2000, 0x2001, 0x2002, 0x2003, 0x2004,
    0x2005, 0x2006, 0x2007, 0x2008, 0x2009, 0x200A, 0x2028, 0x2029, 0x202F, 0x205F, 0x3000]

/-- A character that is white space. -/
def IsWhite (c : Char) : Prop :=
  c.toNat ∈ whiteSpace

theorem isBlank_iff : isBlank c ↔ IsWhite c := by
  simp only [isBlank, inRanges, blankRanges, List.any_cons, List.any_nil, Bool.or_false,
    Bool.or_eq_true, Bool.and_eq_true, decide_eq_true_eq, IsWhite, whiteSpace, List.mem_cons,
    List.not_mem_nil, or_false]
  omega

/-- `core` is what is left of `cs` without the white space around it. -/
structure IsCore (cs core : List Char) : Prop where
  exists_white : ∃ front back, cs = front ++ core ++ back ∧ (∀ c ∈ front, IsWhite c) ∧
    ∀ c ∈ back, IsWhite c
  head : ∀ c ∈ core.head?, ¬ IsWhite c
  last : ∀ c ∈ core.getLast?, ¬ IsWhite c

/-- Blanks are dropped up to the first character that is none. -/
theorem dropWhile_isBlank_append (hfront : ∀ c ∈ front, isBlank c)
    (hcs : ∀ c ∈ cs.head?, ¬ isBlank c) : (front ++ cs).dropWhile isBlank = cs := by
  rw [List.dropWhile_append_of_pos hfront]
  cases cs with
  | nil => rfl
  | cons c cs => exact List.dropWhile_cons_of_neg (hcs c rfl)

theorem exists_append_dropWhile_isBlank (cs : List Char) :
    ∃ front, cs = front ++ cs.dropWhile isBlank ∧ (∀ c ∈ front, isBlank c) ∧
      ∀ c ∈ (cs.dropWhile isBlank).head?, ¬ isBlank c := by
  refine ⟨cs.takeWhile isBlank, List.takeWhile_append_dropWhile.symm,
    List.all_eq_true.mp List.all_takeWhile, fun c hc => ?_⟩
  have hnot := List.head?_dropWhile_not isBlank cs
  rw [Option.mem_def.mp hc] at hnot
  exact Bool.eq_false_iff.mp hnot

theorem isCore_trim (cs : List Char) : IsCore cs (trim cs) := by
  have hmem {ds : List Char} (h : ∀ c ∈ ds, isBlank c) : ∀ c ∈ ds, IsWhite c :=
    fun c hc => isBlank_iff.mp (h c hc)
  obtain ⟨front, hcs, hfront, hhead⟩ := exists_append_dropWhile_isBlank cs
  obtain ⟨back, hreverse, hback, hlast⟩ :=
    exists_append_dropWhile_isBlank (cs.dropWhile isBlank).reverse
  have hrest : cs.dropWhile isBlank = trim cs ++ back.reverse := by
    rw [trim, ← List.reverse_append, ← hreverse, List.reverse_reverse]
  refine ⟨⟨front, back.reverse, ?_, hmem hfront, fun c hc =>
    hmem hback c (List.mem_reverse.mp hc)⟩, fun c hc => mt isBlank_iff.mpr (hhead c ?_),
    fun c hc => mt isBlank_iff.mpr (hlast c ?_)⟩
  · rw [List.append_assoc, ← hrest, ← hcs]
  · rw [hrest, List.head?_append, Option.mem_def.mp hc]
    rfl
  · rwa [trim, List.getLast?_reverse] at hc

theorem IsCore.trim_eq (h : IsCore cs core) : trim cs = core := by
  obtain ⟨front, back, rfl, hfrontWhite, hbackWhite⟩ := h.exists_white
  have hfront : ∀ c ∈ front, isBlank c := fun c hc => isBlank_iff.mpr (hfrontWhite c hc)
  have hback : ∀ c ∈ back, isBlank c := fun c hc => isBlank_iff.mpr (hbackWhite c hc)
  have hreverse : ∀ c ∈ back.reverse, isBlank c := fun c hc => hback c (List.mem_reverse.mp hc)
  cases core with
  | nil =>
    have hboth : ∀ c ∈ front ++ back, isBlank c := List.forall_mem_append.mpr ⟨hfront, hback⟩
    have hnone : (front ++ back ++ []).dropWhile isBlank = [] :=
      dropWhile_isBlank_append hboth nofun
    rw [List.append_nil] at hnone
    rw [trim, List.append_nil, hnone]
    rfl
  | cons c core =>
    have hlast : ∀ d ∈ (c :: core).reverse.head?, ¬ isBlank d := by
      rw [List.head?_reverse]
      exact fun d hd => mt isBlank_iff.mp (h.last d hd)
    have hhead : ∀ d ∈ (c :: core ++ back).head?, ¬ isBlank d :=
      fun d hd => mt isBlank_iff.mp (h.head d hd)
    rw [trim, List.append_assoc, dropWhile_isBlank_append hfront hhead, List.reverse_append,
      dropWhile_isBlank_append hreverse hlast, List.reverse_reverse]

/-- Trimming leaves the core of a text. -/
theorem trim_eq_iff : trim cs = core ↔ IsCore cs core :=
  ⟨fun h => h ▸ isCore_trim cs, IsCore.trim_eq⟩

end EventPackets.Text
