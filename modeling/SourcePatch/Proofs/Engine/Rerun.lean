import SourcePatch.Proofs.Engine.Commit

/-!
# Patches that run again

A patch that leaves the disk as it is does so however often it runs. One that wrote over a file
finds its own text there when it runs again, if it is let to it.

## Main definitions

* `Root.HoldsEntry`: the entry that a path names lies in the tree.
* `Patch.rerun`: the disk after a number of runs.
* `Overwrites`: how a run ends that writes over a file.
-/

namespace SourcePatch

/-- The entry that a path names lies in the tree. Where that entry leads, if it is a link, does not
matter. -/
def Root.HoldsEntry (r : Root) (d : Disk) (p : Path) : Prop :=
  ∃ l, d.locateEntry p = .ok ⟨some l, false⟩ ∧ r.Contains l

/-- A disk on which a patch was carried out `n` times. -/
def Patch.rerun (p : Patch) (r : Root) : Nat → Disk → Disk
  | 0, d => d
  | n + 1, d => p.rerun r n (p.carryOut r d).2

namespace Patch

variable {p : Patch} {r : Root} {d d₁ : Disk}

theorem rerun_of_fixed {res : Except EngineError PatchResult} (h : p.carryOut r d = (res, d))
    (n : Nat) : p.rerun r n d = d := by
  induction n with
  | zero => rfl
  | succ n ih => rw [rerun, h, ih]

/-- A run that leaves the disk as it is always ends alike. -/
theorem carryOut_rerun {res : Except EngineError PatchResult} (h : p.carryOut r d = (res, d))
    (n : Nat) : (p.carryOut r (p.rerun r n d)).1 = res := by
  rw [rerun_of_fixed h, h]

end Patch

/-! ## Writes over a file that is there -/

/-- The text `new` was put over the file that an accepted target names, at its entry `l`. -/
structure Overwrites (r : Root) (d : Disk) (target file : Path) (l : Location) (new : String)
    (d₁ : Disk) : Prop where
  accepted : r.resolve d target = .ok file
  entry : d.locateEntry file = .ok ⟨some l, false⟩
  not_directory : d.node? l ≠ some .directory
  readable : ∃ old, readBytes d file = .ok (some old)
  put : ∃ mode, d₁ = d.put l (.file new.toUTF8 mode)

namespace Overwrites

variable {r : Root} {d d₁ : Disk} {target file : Path} {l : Location} {new : String}
  (h : Overwrites r d target file l new d₁)
include h

theorem holdsEntry_iff : r.HoldsEntry d file ↔ r.Contains l := by
  refine ⟨?_, fun hin => ⟨l, h.entry, hin⟩⟩
  rintro ⟨l', hl', hin⟩
  rw [h.entry] at hl'
  cases hl'
  exact hin

theorem readBytes_again : readBytes d₁ file = .ok (some new.toUTF8) := by
  obtain ⟨old, hread⟩ := h.readable
  obtain ⟨mode, rfl⟩ := h.put
  exact Disk.readBytes_put _ mode h.entry h.not_directory hread

/-- A target that was written is accepted again exactly if its entry lies in the tree. -/
theorem resolve_again : r.resolve d₁ target =
    if r.Contains l then .ok file else .error (.outsideTree (.ofNames l) r.path) := by
  obtain ⟨old, hread⟩ := h.readable
  obtain ⟨mode, rfl⟩ := h.put
  have hn := Disk.node?_put_self (d := d) (Disk.ne_nil_of_node? h.not_directory)
    (.file new.toUTF8 mode)
  have hl := Disk.locateEntry_put (n := .file new.toUTF8 mode) h.not_directory
    (Disk.not_linkToDirectory_of_readBytes h.entry hread) h.entry
  exact Root.resolve_of_locate h.accepted (Disk.locate_of_locateEntry hl hn (by simp)) hn

end Overwrites

/-- A write to a file that is still what was read puts the new text at the target's entry. -/
theorem overwrites_of_commit {w : PlannedWrite} {r : Root} {d d₁ : Disk} {target : Path}
    {res : PatchResult} {old : ByteArray} (hf : r.resolve d target = .ok w.edit.file)
    (hread : readBytes d w.edit.file = .ok (some old))
    (hexp : w.edit.expected = .ofCurrent (some old)) (hne : old ≠ w.edit.newText.toUTF8)
    (h : (Plan.write w).commit r d = (.ok res, d₁)) :
    res = .applied w.edit.file ∧
      ∃ l, Overwrites r d target w.edit.file l w.edit.newText d₁ := by
  rw [PlannedWrite.commit_of_some hexp] at h
  have hm := hexp ▸ Verification.matchesCurrent_ofCurrent (some old)
  obtain ⟨err, he⟩ | ⟨l, mode, hl, hd, he⟩ :=
    Edit.applyIn_of_expected hread (by simpa using hne) hm
  · rw [he] at h; cases h
  · rw [he] at h
    cases h
    exact ⟨rfl, l, hf, hl, hd, ⟨old, hread⟩, mode, rfl⟩

end SourcePatch
