import SourcePatch.Proofs.Disk.Straight
import SourcePatch.Proofs.Tree.Target

/-!
# Roots that are there

The root of a tree is found by following a path, so it is something other than a link. A target that
does not move is the root, but written as a directory is. It can never be read: a directory has no
bytes, and a file is no directory.

## Main definitions

* `Root.Stands`: the root of a tree is there, and is no link.

## Main statements

* `Root.stands_of_ofPath`: the root that a path leads to stands.
* `Root.Stands.not_read_of_idle`: a target that does not move cannot be read.
-/

namespace SourcePatch

/-- A way ends at something other than a link. -/
theorem Disk.not_link_of_travel {d : Disk} (hd : d.WellFormed) {links m : Nat} {here l : Location}
    {names : List String} (h : d.travel links here names = .ok (l, m))
    (hh : ∀ target, d.node? here ≠ some (.link target)) (target : Path) :
    d.node? l ≠ some (.link target) := by
  induction links, here, names, h using travel_ok_induction with
  | nil => exact hh target
  | idle links here name rest hdir hi _ ih => exact ih hh
  | up links here rest hdir _ ih => exact ih (by simp [hd.dropLast (l := here) (by simp [hdir])])
  | link links here name rest target' hdir ho hn _ ih =>
    refine ih ?_
    unfold linkStart
    split
    · simp
    · exact hh
  | enter links here name rest n hdir ho hn hl _ ih =>
    exact ih fun target' hlink => hl target' (Option.some.inj (hn.symm.trans hlink))

namespace Root

variable {r : Root} {d : Disk} {target : Path}

/-- The root of a tree is there, and is no link. -/
structure Stands (r : Root) (d : Disk) : Prop where
  wellFormed : d.WellFormed
  root : d.node? r.location ≠ none
  notLink : ∀ target, d.node? r.location ≠ some (.link target)
  ordinary : ∀ name ∈ r.location, Disk.Ordinary name

theorem canonicalize_of_ofPath {p : Path} (h : ofPath d p = .ok r) :
    d.canonicalize p = .ok r.location := by
  unfold ofPath at h
  cases hc : d.canonicalize p with
  | error err => rw [hc] at h; cases h
  | ok l => rw [hc] at h; cases h; rfl

/-- The root that a path leads to stands. -/
theorem stands_of_ofPath (hd : d.WellFormed) (h : ofPath d r.path = .ok r) : r.Stands d := by
  obtain ⟨hl, hn⟩ := Disk.locate_of_canonicalize (canonicalize_of_ofPath h)
  have habs : r.path.isAbsolute = true := Path.isAbsolute_ofNames _
  obtain ⟨-, m, ht⟩ := Disk.locate_eq_ok_iff.1 hl
  rw [Disk.startOf_of_absolute habs] at ht
  exact ⟨hd, hn, Disk.not_link_of_travel hd ht (by simp), Disk.ordinary_of_travel ht (by simp)⟩

namespace Stands

variable (h : r.Stands d)
include h

theorem travel_location :
    d.travel Disk.linkLimit [] r.location = .ok (r.location, Disk.linkLimit) := by
  obtain ⟨n, hn⟩ := Option.ne_none_iff_exists'.1 h.root
  have hnot : ∀ target, n ≠ .link target := by
    rintro target rfl
    exact h.notLink target hn
  exact Disk.travel_of_location h.wellFormed h.ordinary hn hnot

/-- A target that does not move is the root, written as a directory, and cannot be read. -/
theorem not_read_of_idle (hrel : target.isAbsolute = false) (ht : target.segments ≠ [])
    (hidle : Path.moving target.segments = []) (c : Option ByteArray) :
    readBytes d (r.path.join target) ≠ .ok c := by
  intro hread
  have habs := isAbsolute_join (r := r) hrel ht
  have hcheck := Disk.checkPath_of_readBytes habs hread
  have hlocate : d.locate (r.path.join target) =
      (d.travel Disk.linkLimit r.location target.segments).map Prod.fst := by
    rw [Disk.locate_eq, hcheck, Disk.startOf_of_absolute habs,
      Disk.travel_root (segments_join hrel h.ordinary), Disk.travel_append, h.travel_location]
    rfl
  have hall : ∀ s ∈ target.segments, Path.isIdle false s = true := by
    simpa [Path.moving, List.filter_eq_nil_iff] using hidle
  rw [Disk.readBytes_eq, hlocate] at hread
  by_cases hdir : d.node? r.location = some .directory
  · rw [Disk.travel_all_idle hdir hall] at hread
    simp [Except.map, hdir] at hread
  · obtain ⟨s, rest, hseg⟩ := List.exists_cons_of_ne_nil ht
    rw [hseg, Disk.travel_of_not_directory hdir] at hread
    simp [Except.map] at hread

end Stands

end Root

end SourcePatch
