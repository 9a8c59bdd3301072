import SourcePatch.Unicode.CharSet

/-!
# Blank text

A text is blank when it holds nothing but white space; the empty text is blank.
-/

namespace SourcePatch

/-- Whether `c` has the Unicode property `White_Space`. -/
def isWhite (c : Char) : Bool := CharSet.whiteSpace.contains c

/-- Whether nothing is left of `s` once white space is taken away. -/
def isBlank (s : String) : Bool := s.toList.all isWhite

theorem isBlank_eq_false_iff {s : String} :
    isBlank s = false ↔ ∃ c ∈ s.toList, isWhite c = false := by
  simp [isBlank]

theorem toList_ne_nil_of_isBlank {s : String} (h : isBlank s = false) : s.toList ≠ [] := by
  obtain ⟨c, hc, -⟩ := isBlank_eq_false_iff.1 h
  exact List.ne_nil_of_mem hc

end SourcePatch
