import EventPackets.Text.Basic
import EventPackets.Text.CaseTable

/-!
# Lower case

The lower-case form of a text, for every script.

A character has a lower-case form of its own, except that the capital sigma becomes the final
sigma at the end of a word, and that the capital I with a dot becomes two characters.

## Main definitions

* `Text.lowerChar` : the lower-case form of a character outside any word.
* `Text.lowercase` : the lower-case form of a text.

## Main results

* `Text.lowerChar_of_ascii` : on ASCII this is the familiar map.
-/

namespace EventPackets.Text

/-- Whether the run holds the character. -/
def CaseRun.holds (r : CaseRun) (c : Char) : Bool :=
  r.first ≤ c.toNat && c.toNat ≤ r.last && (c.toNat - r.first) % r.step == 0

/-- The lower-case form of a character that stands in some run. -/
def lowerByRun? (c : Char) : Option Char :=
  (lowerRuns.find? fun r => r.holds c).map fun r =>
    Char.ofNat ((c.toNat : Int) + r.shift).toNat

/-- The lower-case form of a character outside any word. -/
def lowerChar (c : Char) : List Char :=
  if c.toNat < 0x80 then [c.toLower]
  else if c = 'İ' then ['i', '\u0307']
  else [(lowerByRun? c).getD c]

/-- Whether the first character that matters for case has a case. -/
def startsCased (cs : List Char) : Bool :=
  match cs.dropWhile (inRanges caseIgnorableRanges) with
  | [] => false
  | c :: _ => inRanges casedRanges c

/-- The lower-case form of the text `cs` that follows the text `before`, whose characters are
given backwards.  A capital sigma is final if a cased letter stands before it and none stands
after it. -/
def lowercaseAfter (before : List Char) : List Char → List Char
  | [] => []
  | c :: cs =>
    let low :=
      if c = 'Σ' then if startsCased before && !startsCased cs then ['ς'] else ['σ']
      else lowerChar c
    low ++ lowercaseAfter (c :: before) cs

/-- The lower-case form of a text. -/
def lowercase (cs : List Char) : List Char :=
  lowercaseAfter [] cs

theorem lowerChar_of_ascii {c : Char} (h : c.toNat < 0x80) : lowerChar c = [c.toLower] :=
  if_pos h

/-- On ASCII texts, lower-casing goes character by character. -/
theorem lowercaseAfter_of_ascii {before cs : List Char} (h : ∀ c ∈ cs, c.toNat < 0x80) :
    lowercaseAfter before cs = cs.map Char.toLower := by
  induction cs generalizing before with
  | nil => rfl
  | cons c cs ih =>
    have hc : c.toNat < 0x80 := h c (by simp)
    have hs : c ≠ 'Σ' := by
      intro e
      subst e
      exact absurd hc (by decide)
    rw [lowercaseAfter, if_neg hs, lowerChar_of_ascii hc,
      ih (fun d hd => h d (by simp [hd]))]
    rfl

end EventPackets.Text
