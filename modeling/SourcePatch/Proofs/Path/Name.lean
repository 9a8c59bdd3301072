import Mathlib.Data.String.Basic
import SourcePatch.Proofs.Path

/-!
# The last name of a path

A name has an extension if a dot stands in it that is not its first character. Paths that differ
only in their last name are ordered as these names are.

## Main definitions

* `Path.Before`: the order of paths.

## Main statements

* `Path.splitName_eq_some_iff`: the names with a given extension.
* `Path.before_join`: the order of paths with the same parent.
-/

namespace SourcePatch

/-! ## Extensions -/

namespace Path

variable {p : Path} {name extension : String}

theorem splitName_of_stem {stem : String} (hext : '.' ∉ extension.toList) (hstem : stem ≠ "") :
    (splitName (stem ++ "." ++ extension)).2 = some extension := by
  have hreverse : (stem ++ "." ++ extension).toList.reverse =
      extension.toList.reverse ++ '.' :: stem.toList.reverse := by simp
  have hsuffix : ∀ c ∈ extension.toList.reverse, (c != '.') = true := by
    intro c hc
    rw [bne_iff_ne]
    rintro rfl
    exact hext (List.mem_reverse.1 hc)
  obtain ⟨c, rest, hc⟩ := List.exists_cons_of_ne_nil (l := stem.toList.reverse) (by simpa)
  rw [splitName, hreverse, List.takeWhile_append_of_pos hsuffix,
    List.dropWhile_append_of_pos hsuffix, hc]
  simp

/-- A name has an extension if that stands behind its last dot, and something before the dot. -/
theorem splitName_eq_some_iff (hext : '.' ∉ extension.toList) :
    (splitName name).2 = some extension ↔ ∃ stem, stem ≠ "" ∧ name = stem ++ "." ++ extension := by
  constructor
  · intro h
    have hparts := List.takeWhile_append_dropWhile (p := (· != '.')) (l := name.toList.reverse)
    unfold splitName at h
    dsimp only at h
    split at h
    · next dot c stem hdrop =>
      obtain rfl : dot = '.' := by
        have hne : name.toList.reverse.dropWhile (· != '.') ≠ [] := by simp [hdrop]
        have hhead := List.head_dropWhile_not (· != '.') hne
        simpa [hdrop] using hhead
      have htext : name.toList = (c :: stem).reverse ++ '.' :: extension.toList :=
        calc name.toList = name.toList.reverse.reverse := (List.reverse_reverse _).symm
          _ = (name.toList.reverse.takeWhile (· != '.') ++ '.' :: c :: stem).reverse := by
            rw [← hdrop, hparts]
          _ = (c :: stem).reverse ++ '.' :: extension.toList := by
            rw [← Option.some.inj h]
            simp
      exact ⟨.ofList (c :: stem).reverse, by simp, String.toList_injective (by simp [htext])⟩
    · cases h
  · rintro ⟨stem, hstem, rfl⟩
    exact splitName_of_stem hext hstem

end Path

/-! ## The order of paths -/

/-- The kinds of components in their order. -/
def Component.rank : Component → Nat
  | root => 0
  | current => 1
  | parent => 2
  | normal _ => 3

/-- The order of components; names come last, and have an order among themselves. -/
def Component.Before : Component → Component → Prop
  | normal name, normal other => name < other
  | c, c' => c.rank < c'.rank

namespace Path

variable {p : Path} {name : String}

/-- The order of paths is that of their components. -/
def Before (p q : Path) : Prop := List.Lex Component.Before p.components q.components

theorem componentsFrom_concat (leads : Bool) (names : List String)
    (h : ¬ isIdle false name = true) :
    componentsFrom leads (names ++ [name]) = componentsFrom leads names ++ [componentOf name] := by
  cases names with
  | nil =>
    have hleads : ¬ isIdle leads name = true := by
      simp only [isIdle] at h ⊢
      grind
    simp [componentsFrom, hleads]
  | cons first names =>
    rw [List.cons_append, componentsFrom, componentsFrom, componentsFrom_append]
    split <;> simp [componentsFrom, h]

theorem componentsFrom_concat_empty (leads : Bool) (names : List String) :
    componentsFrom leads (names ++ [""]) = componentsFrom leads names := by
  cases names with
  | nil => rfl
  | cons first names =>
    rw [List.cons_append, componentsFrom, componentsFrom, componentsFrom_append]
    simp [componentsFrom, isIdle]

theorem isAbsolute_concat_iff {names : List String} :
    (Path.mk (names ++ [name])).isAbsolute = true ↔ ∃ rest, names = "" :: rest := by
  rw [isAbsolute_iff]
  cases names <;> simp

/-- Behind a path that may end with a slash, a name that moves is one more component. -/
theorem components_concat (names : List String) (h : ¬ isIdle false name = true) :
    (Path.mk (names ++ [name])).components =
      (Path.mk (names ++ [""])).components ++ [componentOf name] := by
  have habs : (Path.mk (names ++ [name])).isAbsolute = (Path.mk (names ++ [""])).isAbsolute :=
    Bool.eq_iff_iff.2 (isAbsolute_concat_iff.trans isAbsolute_concat_iff.symm)
  rw [components, components, habs]
  dsimp only
  rw [componentsFrom_concat _ _ h, componentsFrom_concat _ _ h, componentsFrom_concat_empty,
    componentsFrom_concat_empty]
  split <;> rfl

/-- The paths in one directory come in the order of their names. -/
theorem before_join {other : String} (hname : ¬ isIdle false name = true)
    (hother : ¬ isIdle false other = true) (h : (componentOf name).Before (componentOf other)) :
    (p.join ⟨[name]⟩).Before (p.join ⟨[other]⟩) := by
  have hjoin : ∃ names, ∀ s, p.join ⟨[s]⟩ = ⟨names ++ [s]⟩ := by
    unfold join
    split
    · next hslash => exact ⟨p.segments.dropLast, fun s => by simp [isAbsolute]⟩
    · next hslash => exact ⟨p.segments, fun s => by simp [isAbsolute]⟩
  obtain ⟨names, hnames⟩ := hjoin
  rw [Before, hnames, hnames, components_concat names hname, components_concat names hother]
  exact List.Lex.append_left _ (.rel h) _

end Path

end SourcePatch
