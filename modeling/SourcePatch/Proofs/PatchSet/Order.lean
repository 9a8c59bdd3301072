import Mathlib.Data.List.Pairwise
import SourcePatch.Proofs.PatchSet.Apart

/-!
# Patch sets in another order

In a tree without links the order of patches does not matter if their targets are apart: the tree is
the same in the end, and so are the reports. New directories may belong to several targets. Whoever
comes first makes them, and the others find them.

## Main statements

* `PatchSet.run_reordered`: a run, a run in another order, and runs of the patches alone.
-/

namespace SourcePatch

variable {r : Root} {d : Disk} {p : Patch} {patches patches' : List Patch} {options : RunOptions}

theorem Patch.run_id (p : Patch) (r : Root) (options : RunOptions) (d : Disk) :
    (p.run r options d).1.id = p.id := by
  unfold Patch.run
  cases p.plan r d with
  | error err => rfl
  | ok plan => cases options.dryRun <;> rfl

/-- Where no id is used more than once, a report is found by the id of its patch. -/
theorem find?_report (hids : (patches.map (·.id)).Nodup) (hp : p ∈ patches) :
    (patches.map fun p => (p.run r options d).1).find? (·.id == p.id) =
      some (p.run r options d).1 := by
  induction patches with
  | nil => cases hp
  | cons q rest ih =>
    rw [List.map_cons, List.nodup_cons] at hids
    rw [List.map_cons]
    cases hp with
    | head => exact List.find?_cons_of_pos (by simp [Patch.run_id])
    | tail _ hp =>
      have hne : q.id ≠ p.id := fun hsame =>
        hids.1 (hsame ▸ List.mem_map_of_mem (f := Patch.id) hp)
      rw [List.find?_cons_of_neg (by simpa [Patch.run_id] using hne)]
      exact ih hids.2 hp

theorem find?_report_of_not_mem {id : String} (h : ∀ p ∈ patches, p.id ≠ id) :
    (patches.map fun p => (p.run r options d).1).find? (·.id == id) = none := by
  simpa [List.find?_eq_none, Patch.run_id] using h

/-- In another order there are other reports, but the same for each id. -/
theorem find?_report_of_perm (hperm : patches'.Perm patches)
    (hids : (patches.map (·.id)).Nodup) (id : String) :
    (patches'.map fun p => (p.run r options d).1).find? (·.id == id) =
      (patches.map fun p => (p.run r options d).1).find? (·.id == id) := by
  by_cases h : ∃ p ∈ patches, p.id = id
  · obtain ⟨p, hp, rfl⟩ := h
    rw [find?_report hids hp,
      find?_report ((hperm.map _).nodup_iff.2 hids) (hperm.mem_iff.2 hp)]
  · have hnot : ∀ p ∈ patches, p.id ≠ id := fun p hp hid => h ⟨p, hp, hid⟩
    rw [find?_report_of_not_mem hnot,
      find?_report_of_not_mem fun p hp => hnot p (hperm.mem_iff.1 hp)]

/-- In another order a run leaves the same. -/
theorem node?_runPatches_of_perm (h : r.Linkless d) (hp : ∀ p ∈ patches, p.IsBelow r)
    (hapart : patches.Pairwise (Patch.Apart r)) (hperm : patches'.Perm patches) (k : Location) :
    (runPatches r options d patches').2.node? k = (runPatches r options d patches).2.node? k := by
  have hp' : ∀ p ∈ patches', p.IsBelow r := fun p hmem => hp p (hperm.mem_iff.1 hmem)
  have hapart' : patches'.Pairwise (Patch.Apart r) :=
    (hperm.pairwise_iff fun h => h.symm).2 hapart
  obtain ⟨hnone, hend⟩ | ⟨p, hmem, hk, hend⟩ := runPatches_changed h hp hapart options k
  · obtain ⟨-, hend'⟩ | ⟨q, hmem', hk', -⟩ := runPatches_changed h hp' hapart' options k
    · rw [hend, hend']
    · exact absurd (hnone q (hperm.mem_iff.1 hmem')) hk'
  · obtain ⟨hnone', -⟩ | ⟨q, hmem', hk', hend'⟩ := runPatches_changed h hp' hapart' options k
    · exact absurd (hnone' p (hperm.mem_iff.2 hmem)) hk
    · rw [hend, hend']
      by_cases hpq : p = q
      · rw [hpq]
      -- two patches that change one place have made the same directory
      have hq := hp' q hmem'
      have hdiff := hapart.forall hmem (hperm.mem_iff.1 hmem') hpq
      obtain ⟨c, hmakes⟩ := Patch.makes_run (hp p hmem) h options
      obtain ⟨c', hmakes'⟩ := Patch.makes_run hq h options
      exact hmakes.agree hmakes' (hdiff.not_isPrefix (hp p hmem).isAbsolute hq.isAbsolute)
        (hdiff.symm.not_isPrefix hq.isAbsolute (hp p hmem).isAbsolute) hk hk'

/-- Patches with targets apart do not get in each other's way: in another order the tree in the end
and the reports are the same, and each patch has done what it does alone. -/
theorem PatchSet.run_reordered {s : PatchSet} (hd : d.Sound)
    (hroot : Root.ofPath d r.path = .ok r)
    (hlinks : ∀ l target, r.Contains l → d.node? l ≠ some (.link target))
    (hvalid : s.validate = .ok ()) (hshort : ∀ p ∈ s.patches, p.IsShort)
    (hapart : s.patches.Pairwise (Patch.Apart r)) (hperm : patches.Perm s.patches)
    (options : RunOptions) :
    (∀ l, (PatchSet.run { s with patches } r options d).2.node? l =
      (s.run r options d).2.node? l) ∧
    (∀ id, (PatchSet.run { s with patches } r options d).1.find? (·.id == id) =
      (s.run r options d).1.find? (·.id == id)) ∧
    ∀ p ∈ options.chosen s.patches,
      (s.run r options d).1.find? (·.id == p.id) = some (p.run r options d).1 ∧
      readBytes (s.run r options d).2 (p.path r) = readBytes (p.run r options d).2 (p.path r) := by
  have h := Root.linkless_of_ofPath hd hroot hlinks
  have hids : ((options.chosen s.patches).map (·.id)).Nodup :=
    (nodup_ids_of_validate hvalid).sublist (List.filter_sublist.map _)
  have hperm' : (options.chosen patches).Perm (options.chosen s.patches) := hperm.filter _
  have hvalid' : ∀ p ∈ options.chosen s.patches, (Path.ofString p.file).isTreeRelative = true :=
    fun p hp => isTreeRelative_of_validate hvalid (List.mem_of_mem_filter hp)
  have hshort' : ∀ p ∈ options.chosen s.patches, p.IsShort := fun p hp =>
    hshort p (List.mem_of_mem_filter hp)
  have hchosen : (options.chosen s.patches).Pairwise (Patch.Apart r) := hapart.filter _
  have hreports := reports_of_apart h hvalid' hshort' hchosen options
  have hreports' := reports_of_apart h (fun p hp => hvalid' p (hperm'.mem_iff.1 hp))
    (fun p hp => hshort' p (hperm'.mem_iff.1 hp))
    ((hperm'.pairwise_iff fun h => h.symm).2 hchosen) options
  simp only [PatchSet.run_eq]
  refine ⟨?_, ?_, fun p hmem => ⟨?_, readBytes_of_apart h hvalid' hshort' hchosen options hmem⟩⟩
  · obtain hbelow | ⟨p, hone, -⟩ := Patch.alone_or_below h hvalid' hshort' hchosen
    · exact node?_runPatches_of_perm h hbelow hchosen hperm'
    · -- one patch only, with the root itself as its target
      rw [hone] at hperm' ⊢
      rw [List.perm_singleton.1 hperm']
      exact fun _ => rfl
  · rw [hreports, hreports']
    exact find?_report_of_perm hperm' hids
  · rw [hreports]
    exact find?_report hids hmem

/-- A patch that writes a file beside that of `deepPatch`. -/
def besidePatch : Patch := ⟨"beside", "n/h", none, .author "c"⟩

/-- Both need one new directory, and either of them can make it. -/
theorem run_reordered_of_deep :
    (∀ l, (PatchSet.run ⟨PatchSet.emptyMetadata, [besidePatch, deepPatch]⟩ ⟨["tree"]⟩
        ⟨false, false, []⟩ (.oneFile "a")).2.node? l =
      (PatchSet.run ⟨PatchSet.emptyMetadata, [deepPatch, besidePatch]⟩ ⟨["tree"]⟩
        ⟨false, false, []⟩ (.oneFile "a")).2.node? l) ∧
    ∀ p ∈ [deepPatch, besidePatch],
      readBytes (PatchSet.run ⟨PatchSet.emptyMetadata, [deepPatch, besidePatch]⟩ ⟨["tree"]⟩
        ⟨false, false, []⟩ (.oneFile "a")).2 (p.path ⟨["tree"]⟩) =
      readBytes (p.run ⟨["tree"]⟩ ⟨false, false, []⟩ (.oneFile "a")).2 (p.path ⟨["tree"]⟩) := by
  obtain ⟨hsame, -, halone⟩ := PatchSet.run_reordered
    (s := ⟨PatchSet.emptyMetadata, [deepPatch, besidePatch]⟩) (r := ⟨["tree"]⟩)
    (by decide) (by rfl)
    (fun l target _ => Disk.node?_oneFile_ne_link "a" l target) (by rfl) (by decide) (by decide)
    (.swap deepPatch besidePatch []) ⟨false, false, []⟩
  exact ⟨hsame, fun p hp => (halone p hp).2⟩

end SourcePatch
