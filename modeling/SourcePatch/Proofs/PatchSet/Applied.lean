import SourcePatch.Proofs.Engine.Failure
import SourcePatch.Proofs.PatchSet.Apart

/-!
# Patches that were applied

In a tree without links a patch that succeeds leaves nothing to do for itself, and a run of patches
with targets apart nothing for any of them. What a patch finds in its own new text is the reason not
to write it again: the text itself, what rules leave as it is, or the marker.

## Main definitions

* `Patch.HasSafeMarker`: a marker that line endings cannot take apart.
* `Patch.Skips`: a patch has nothing to do.

## Main statements

* `Patch.skips_of_carryOut`: a patch that succeeds has nothing to do afterwards.
* `skips_of_runPatches`: nor has any patch of a run that all succeed in.
-/

namespace SourcePatch

variable {r : Root} {d d₁ : Disk} {p : Patch} {patches : List Patch} {options : RunOptions}
  {w : PlannedWrite}

namespace Patch

/-- The fragment of an append contains its marker, which has no line ending in it. -/
def HasSafeMarker (p : Patch) : Prop :=
  ∀ marker fragment, p.operation = .appendGuarded marker fragment →
    Literal.occursIn marker fragment = true ∧ '\n' ∉ marker.toList

/-- A patch has nothing to do. -/
def Skips (p : Patch) (r : Root) (d : Disk) : Prop := ∃ res, p.plan r d = .ok (.skip res)

theorem HasSafeMarker.markerSurvives (h : p.HasSafeMarker) (r : Root) (d : Disk) :
    p.MarkerSurvives r d := by
  intro marker fragment text hop _ _
  refine .inr (.inl ?_)
  rintro ⟨before, c, after, heq, -⟩
  exact (h marker fragment hop).2 (by simp [heq])

/-- A patch that finds what it has written has nothing to do. -/
theorem skips_of_written (h : p.plan r d = .ok (.write w)) (hmarker : p.HasSafeMarker)
    (hf : r.resolve d₁ (.ofString p.file) = .ok w.edit.file)
    (hread : readBytes d₁ w.edit.file = .ok (some w.edit.newText.toUTF8)) : p.Skips r d₁ := by
  unfold Skips
  cases hop : p.operation with
  | author content =>
    rw [plan_author hop] at h
    obtain ⟨hnew, -⟩ := planAuthor_write h
    refine ⟨.unchanged w.edit.file, ?_⟩
    rw [plan_author hop, planAuthor_of_read hf hread, hnew, authorBytes, if_pos rfl]
  | transform rules marker =>
    rw [plan_transform hop, bind_eq_ok] at h
    obtain ⟨s, hs, h⟩ := h
    obtain ⟨hfix, -⟩ := planTransform_write h
    obtain ⟨reason, hskip⟩ := transformText_of_fixed hfix marker w.edit.file
    refine ⟨.skippedNoOp w.edit.file reason, ?_⟩
    rw [plan_transform hop, hs, Except.bind, planTransform_of_text hf hread, hskip]
  | appendGuarded marker fragment =>
    have hin := occursIn_newText h (hmarker.markerSurvives r d)
      (fun _ _ hop' => (hmarker _ _ hop').1) hop
    refine ⟨.skippedPresent w.edit.file, ?_⟩
    rw [plan_append hop, planAppend_of_text hf hread, appendText, if_pos hin]

/-- A patch that succeeds has nothing to do afterwards. -/
theorem skips_of_carryOut (hp : p.IsBelow r) (h : r.Linkless d) (hmarker : p.HasSafeMarker)
    {res : PatchResult} (hok : (p.carryOut r d).1 = .ok res) : p.Skips r (p.carryOut r d).2 := by
  cases hplan : p.plan r d with
  | error err =>
    rw [carryOut_of_error hplan] at hok
    cases hok
  | ok plan =>
    cases plan with
    | skip res =>
      rw [carryOut_of_skip hplan]
      exact ⟨res, hplan⟩
    | write w =>
      have h₁ := linkless_carryOut hp h
      have hf := hp.resolve h₁
      rw [← edit_file_eq hplan] at hf
      refine skips_of_written hplan hmarker hf ?_
      rw [carryOut_of_write hplan, commit_eq_prepare] at hok ⊢
      rcases hprep : w.prepare r d with ⟨_ | _, d₁⟩
      · rw [hprep] at hok
        cases hok
      · rw [hprep] at hok
        exact Edit.readBytes_of_applyIn (Prod.ext hok rfl)

end Patch

/-! ## Whole runs -/

section

variable (h : r.Linkless d) (hvalid : ∀ p ∈ patches, (Path.ofString p.file).isTreeRelative = true)
  (hshort : ∀ p ∈ patches, p.IsShort) (hmarkers : ∀ p ∈ patches, p.HasSafeMarker)
  (hapart : patches.Pairwise (Patch.Apart r)) (hwet : options.dryRun = false)
include h hvalid hshort hmarkers hapart hwet

/-- After a run that all patches succeed in, none of them has anything to do. -/
theorem skips_of_runPatches
    (hok : ∀ report ∈ (runPatches r options d patches).1, ∃ res, report.result = .ok res)
    (hp : p ∈ patches) : p.Skips r (runPatches r options d patches).2 := by
  obtain hbelow | ⟨q, rfl, hidle⟩ := Patch.alone_or_below h hvalid hshort hapart
  · obtain ⟨res, hres⟩ : ∃ res, (p.run r options d).1.result = .ok res := by
      rw [runPatches_apart h hbelow hapart] at hok
      exact hok _ (List.mem_map_of_mem hp)
    rw [(Patch.run_of_wet hwet).1] at hres
    have hsame := sameAlong_of_mem h hbelow hapart options hp
    rw [(Patch.run_of_wet hwet).2] at hsame
    obtain ⟨res', hskip⟩ := Patch.skips_of_carryOut (hbelow p hp) h (hmarkers p hp) hres
    exact ⟨res', ((hbelow p hp).plan_eq (Patch.linkless_carryOut (hbelow p hp) h) hsame
      (linkless_runPatches h hbelow)).trans hskip⟩
  · rw [List.mem_singleton] at hp
    subst hp
    obtain ⟨res, hres⟩ := hok (p.run r options d).1 (by simp [runPatches_cons])
    rw [(Patch.run_of_wet hwet).1] at hres
    cases hplan : p.plan r d with
    | ok plan => exact absurd hplan (Patch.plan_ne_ok_of_idle h.stands hidle plan)
    | error err =>
      rw [Patch.carryOut_of_error hplan] at hres
      cases hres

end

end SourcePatch
