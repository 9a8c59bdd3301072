import SourcePatch.Proofs.Path
import SourcePatch.Text.Blank
import SourcePatch.Tree.Guard

/-!
# Targets by how they are written

How a target is written is tested twice: when a set is checked, and when its path is made. Both
tests accept what has no slash in front and nowhere `..` between slashes.

## Main statements

* `Root.checkComponents_iff`: the two tests agree.
* `Path.isTreeRelative_ofString_iff`: what they accept, as a text.
-/

namespace SourcePatch

/-- To cut at every slash is to split a list there. -/
theorem splitSlashes_eq_splitOn (cs : List Char) : splitSlashes cs = cs.splitOn '/' := by
  induction cs with
  | nil => rfl
  | cons c cs ih =>
    rw [splitSlashes, ih, List.splitOn_cons_eq_if_modifyHead]
    by_cases hc : c = '/'
    · simp [hc]
    · obtain ⟨segment, more, hsplit⟩ := List.exists_cons_of_ne_nil (List.splitOn_ne_nil '/' cs)
      simp [hc, hsplit]

theorem splitSlashes_ne_nil (cs : List Char) : splitSlashes cs ≠ [] := by
  rw [splitSlashes_eq_splitOn]
  exact List.splitOn_ne_nil '/' cs

namespace Path

variable {p : Path} {leads : Bool} {names : List String}

theorem segments_ofString_ne_nil (s : String) : (ofString s).segments ≠ [] := by
  simpa [ofString] using splitSlashes_ne_nil s.toList

theorem parent_mem_componentsFrom_iff :
    Component.parent ∈ componentsFrom leads names ↔ ".." ∈ names := by
  induction names generalizing leads with
  | nil => simp [componentsFrom]
  | cons name names ih =>
    rw [componentsFrom]
    split
    · next hidle =>
      have hne : name ≠ ".." := by
        rintro rfl
        simp [isIdle] at hidle
      simp [ih, hne.symm]
    · rw [List.mem_cons, List.mem_cons, ih, eq_comm, componentOf_eq_parent_iff, eq_comm]

theorem root_not_mem_componentsFrom : Component.root ∉ componentsFrom leads names := by
  induction names generalizing leads with
  | nil => simp [componentsFrom]
  | cons name names ih =>
    rw [componentsFrom]
    split
    · exact ih
    · rw [List.mem_cons, not_or]
      refine ⟨?_, ih⟩
      unfold componentOf
      split
      · simp
      · split <;> simp

theorem root_mem_components_iff : Component.root ∈ p.components ↔ p.isAbsolute = true := by
  cases habs : p.isAbsolute <;> simp [components, habs, root_not_mem_componentsFrom]

theorem parent_mem_components_iff : Component.parent ∈ p.components ↔ ".." ∈ p.segments := by
  cases habs : p.isAbsolute <;> simp [components, habs, parent_mem_componentsFrom_iff]

/-- A path stays below wherever it starts if it is not absolute and nowhere goes up. -/
theorem isTreeRelative_iff :
    p.isTreeRelative = true ↔ p.isAbsolute = false ∧ ".." ∉ p.segments := by
  rw [← Bool.not_eq_true, ← root_mem_components_iff, ← parent_mem_components_iff, isTreeRelative,
    List.all_eq_true]
  constructor
  · intro h
    exact ⟨fun hmem => by simpa using h _ hmem, fun hmem => by simpa using h _ hmem⟩
  · rintro ⟨hroot, hparent⟩ c hc
    cases c with
    | root => exact absurd hc hroot
    | parent => exact absurd hc hparent
    | current | normal => rfl

theorem isAbsolute_ofString_iff {s : String} :
    (ofString s).isAbsolute = true ↔ s.toList.head? = some '/' := by
  rw [isAbsolute_iff, ofString]
  cases hs : s.toList with
  | nil => simp [splitSlashes]
  | cons c cs =>
    rw [splitSlashes]
    by_cases hc : c = '/'
    · simp [hc, splitSlashes_ne_nil]
    · obtain ⟨segment, more, hsplit⟩ := List.exists_cons_of_ne_nil (splitSlashes_ne_nil cs)
      simp [hc, hsplit]

theorem parent_mem_segments_ofString_iff {s : String} :
    ".." ∈ (ofString s).segments ↔ ['.', '.'] ∈ s.toList.splitOn '/' := by
  rw [ofString, splitSlashes_eq_splitOn]
  exact List.mem_map_of_injective (a := ['.', '.']) (fun _ _ => String.ofList_inj.1)

/-- The texts of such paths do not start with a slash, and have nowhere `..` between slashes. -/
theorem isTreeRelative_ofString_iff {s : String} : (ofString s).isTreeRelative = true ↔
    s.toList.head? ≠ some '/' ∧ ['.', '.'] ∉ s.toList.splitOn '/' := by
  rw [isTreeRelative_iff, ← Bool.not_eq_true, isAbsolute_ofString_iff,
    parent_mem_segments_ofString_iff]

theorem isEmpty_ofString_of_not_isBlank {s : String} (h : isBlank s = false) :
    (ofString s).isEmpty = false := by
  obtain ⟨c, cs, hs⟩ := List.exists_cons_of_ne_nil (toList_ne_nil_of_isBlank h)
  rw [isEmpty, ofString, hs, splitSlashes]
  by_cases hc : c = '/'
  · simp [hc, splitSlashes_ne_nil]
  · obtain ⟨segment, more, hsplit⟩ := List.exists_cons_of_ne_nil (splitSlashes_ne_nil cs)
    simp [hc, hsplit]

end Path

namespace Root

theorem checkComponents_eq_ok_iff {p : Path} {cs : List Component} :
    checkComponents p cs = .ok () ↔ .parent ∉ cs ∧ .root ∉ cs := by
  induction cs with
  | nil => simp [checkComponents]
  | cons c cs ih => cases c <;> simp [checkComponents, ih]

/-- A target is accepted when its path is made if it is when it is checked. -/
theorem checkComponents_iff {target : Path} :
    checkComponents target target.components = .ok () ↔ target.isTreeRelative = true := by
  rw [checkComponents_eq_ok_iff, Path.isTreeRelative_iff, Path.parent_mem_components_iff,
    Path.root_mem_components_iff, and_comm, Bool.not_eq_true]

end Root

end SourcePatch
