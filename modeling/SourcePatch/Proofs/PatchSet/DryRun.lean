import SourcePatch.Proofs.Engine.Failure
import SourcePatch.Proofs.PatchSet.Apart
import SourcePatch.Proofs.PatchSet.Validation

/-!
# Dry runs

A dry run plans every patch on the tree as it is, and a run on what the patches before have left. In
a tree without links this makes no difference if the targets are apart. So a dry run tells what the
run will report, save for what only shows when a plan is carried out.

## Main definitions

* `Patch.Predicted`: what the report of a dry run says of the report of the run.
* `Patch.Captured`: the change that a report shows is the one that was made.

## Main statements

* `PatchSet.run_predicted`: a dry run predicts the run.
-/

namespace SourcePatch

variable {r : Root} {d : Disk} {p : Patch} {w : PlannedWrite}

namespace Patch

/-- Two reports of one patch are the same, unless the plan that the first one tells of cannot be
carried out, and the second one says why. So what is said to be applied does not end as unchanged or
skipped. -/
structure Predicted (p : Patch) (r : Root) (d : Disk) (dry real : PatchReport) : Prop where
  id : dry.id = p.id ∧ real.id = p.id
  kind : dry.kind = p.operation.kind ∧ real.kind = p.operation.kind
  change : real.change = dry.change
  result : real.result = dry.result ∨ ∃ w e, p.plan r d = .ok (.write w) ∧
    dry.result = .ok (.applied w.edit.file) ∧ real.result = .error e ∧
    ((Plan.write w).commit r d).1 = .error e ∧ w.Uncommitted e

/-- A patch that was applied shows what its target held before and holds now. -/
def Captured (p : Patch) (r : Root) (before after : Disk) (report : PatchReport) : Prop :=
  ∀ file, report.result = .ok (.applied file) → file = p.path r ∧ ∃ old text,
    readBytes before file = .ok old ∧ readBytes after file = .ok (some text.toUTF8) ∧
      report.change = some ⟨file, (old.map Decoding.lossy).getD "", text⟩

section

variable (hfragment : ∀ marker fragment, p.operation = .appendGuarded marker fragment →
  isBlank fragment = false)
include hfragment

/-- No patch writes what is there already, if there is something in what it appends. -/
theorem not_read_newText (h : p.plan r d = .ok (.write w)) :
    readBytes d w.edit.file ≠ .ok (some w.edit.newText.toUTF8) := by
  cases hop : p.operation with
  | author content =>
    rw [plan_author hop] at h
    obtain ⟨hnew, hne⟩ := planAuthor_write h
    rwa [hnew]
  | transform rules marker =>
    rw [plan_transform hop, bind_eq_ok] at h
    obtain ⟨s, -, h⟩ := h
    obtain ⟨hfix, text, hread, hne⟩ := planTransform_write h
    intro hsame
    rw [hread, Except.ok.injEq, Option.some.injEq] at hsame
    exact hne (toUTF8_injective hsame ▸ hfix)
  | appendGuarded marker fragment =>
    rw [plan_append hop] at h
    obtain ⟨text, hread, -, hnew⟩ := planAppend_write h
    have hne := toList_ne_nil_of_isBlank (hfragment marker fragment hop)
    intro hsame
    rw [hread, Except.ok.injEq, Option.some.injEq, hnew] at hsame
    exact joinFragment_ne hne text (toUTF8_injective hsame).symm

variable (h : r.Stands d)
include h

/-- A plan that is carried out where it was made puts its text there, or says why not. -/
theorem commit_cases (hplan : p.plan r d = .ok (.write w)) :
    (∃ e, ((Plan.write w).commit r d).1 = .error e ∧ w.Uncommitted e) ∨
      ((Plan.write w).commit r d).1 = .ok (.applied w.edit.file) ∧
        readBytes ((Plan.write w).commit r d).2 w.edit.file =
          .ok (some w.edit.newText.toUTF8) := by
  obtain ⟨current, hf, hread, hexp, -⟩ := plan_write hplan
  have hnew : current ≠ some w.edit.newText.toUTF8 := by
    rintro rfl
    exact not_read_newText hfragment hplan hread
  obtain ⟨e, herr, -⟩ | hdone := commit_refines h.wellFormed hf
    (Path.segments_ofString_ne_nil p.file) hread hexp hnew
  · exact .inl ⟨e, herr, commit_eq_error h hplan herr⟩
  · exact .inr hdone

/-- On one tree a dry run predicts the run. -/
theorem predicted (capture : Bool) (only : List String) :
    p.Predicted r d (p.run r ⟨true, capture, only⟩ d).1 (p.run r ⟨false, capture, only⟩ d).1 := by
  unfold Patch.run
  cases hplan : p.plan r d with
  | error e => exact ⟨⟨rfl, rfl⟩, ⟨rfl, rfl⟩, rfl, .inl rfl⟩
  | ok plan =>
    cases plan with
    | skip res => exact ⟨⟨rfl, rfl⟩, ⟨rfl, rfl⟩, rfl, .inl rfl⟩
    | write w =>
      refine ⟨⟨rfl, rfl⟩, ⟨rfl, rfl⟩, rfl, ?_⟩
      obtain ⟨e, herr, hwhy⟩ | ⟨hdone, -⟩ := commit_cases hfragment h hplan
      · exact .inr ⟨w, e, hplan, rfl, herr, herr, hwhy⟩
      · exact .inl hdone

/-- A patch that is applied shows what it has changed. -/
theorem captured (only : List String) :
    p.Captured r d (p.run r ⟨false, true, only⟩ d).2 (p.run r ⟨false, true, only⟩ d).1 := by
  intro file happlied
  rw [run_eq_of_wet p r rfl] at happlied ⊢
  cases hplan : p.plan r d with
  | error e =>
    rw [carryOut_of_error hplan] at happlied
    cases happlied
  | ok plan =>
    cases plan with
    | skip res =>
      rw [carryOut_of_skip hplan] at happlied
      cases happlied
      exact absurd hplan (p.plan_ne_skip_applied r d file)
    | write w =>
      rw [carryOut_of_write hplan] at happlied ⊢
      obtain ⟨current, -, hread, -⟩ := plan_write hplan
      obtain ⟨e, herr, -⟩ | ⟨hdone, hnew⟩ := commit_cases hfragment h hplan
      · rw [herr] at happlied
        cases happlied
      · rw [hdone] at happlied
        cases happlied
        refine ⟨edit_file_eq hplan, current, w.edit.newText, hread, hnew, ?_⟩
        rw [← previous_eq hplan hread]
        rfl

end

end Patch

/-! ## Whole runs -/

/-- In a tree without links and with targets apart, the reports of a dry run are those of the run,
one by one, and there is one for each patch that was chosen. Only what was to be applied may fail,
when its plan is carried out. The same changes are captured. Where a patch was applied, the change
shows what the target held before the run, and what it holds in the end. -/
theorem PatchSet.run_predicted {s : PatchSet} (hd : d.Sound)
    (hroot : Root.ofPath d r.path = .ok r)
    (hlinks : ∀ l target, r.Contains l → d.node? l ≠ some (.link target))
    (hvalid : s.validate = .ok ()) (hshort : ∀ p ∈ s.patches, p.IsShort)
    (hapart : s.patches.Pairwise (Patch.Apart r)) (capture : Bool) (only : List String) :
    (s.run r ⟨true, capture, only⟩ d).1.length = (s.run r ⟨false, capture, only⟩ d).1.length ∧
    (s.run r ⟨false, capture, only⟩ d).1.length =
      (RunOptions.chosen ⟨false, capture, only⟩ s.patches).length ∧
    ∀ (i : Nat) (p : Patch), (RunOptions.chosen ⟨false, capture, only⟩ s.patches)[i]? = some p →
      ∃ dry real, (s.run r ⟨true, capture, only⟩ d).1[i]? = some dry ∧
        (s.run r ⟨false, capture, only⟩ d).1[i]? = some real ∧ p.Predicted r d dry real ∧
        (capture = true → p.Captured r d (s.run r ⟨false, capture, only⟩ d).2 real) := by
  have h := Root.linkless_of_ofPath hd hroot hlinks
  have hreports : ∀ options : RunOptions, (s.run r options d).1 =
      (options.chosen s.patches).map fun p => (p.run r options d).1 := fun options =>
    reports_of_apart h (fun p hp => isTreeRelative_of_validate hvalid (List.mem_of_mem_filter hp))
      (fun p hp => hshort p (List.mem_of_mem_filter hp)) (hapart.filter _) options
  -- both runs report each patch as it is alone, so it is enough to compare its two reports
  refine ⟨by rw [hreports, hreports, List.length_map, List.length_map]; rfl,
    length_runPatches r _ d _, fun i p hi => ?_⟩
  have hmem := List.mem_of_getElem? hi
  have hfragment : ∀ marker fragment, p.operation = .appendGuarded marker fragment →
      isBlank fragment = false := fun _ _ hop =>
    (fragment_of_validate hvalid (List.mem_of_mem_filter hmem) hop).1
  refine ⟨_, _, ?_, ?_, Patch.predicted hfragment h.stands capture only, ?_⟩
  · rw [hreports, List.getElem?_map]
    exact congrArg _ hi
  · rw [hreports, List.getElem?_map]
    exact congrArg _ hi
  · -- what the patch leaves alone is there in the end
    rintro rfl file happlied
    obtain ⟨hfile, old, text, hold, hnew, hchange⟩ :=
      Patch.captured hfragment h.stands only file happlied
    refine ⟨hfile, old, text, hold, ?_, hchange⟩
    rw [hfile] at hnew ⊢
    exact (readBytes_of_apart h
      (fun p hp => isTreeRelative_of_validate hvalid (List.mem_of_mem_filter hp))
      (fun p hp => hshort p (List.mem_of_mem_filter hp)) (hapart.filter _) _ hmem).trans hnew

/-- A patch that runs rules, one that makes a file, and one that cannot, as its file is named as a
directory is. -/
def mixedSet : PatchSet := ⟨PatchSet.emptyMetadata, [letterPatch "a" "b", deepPatch, slashPatch]⟩

/-- All three are said to be applied. The last one fails when its plan is carried out, and the first
one shows what it has changed. -/
theorem run_predicted_of_mixed :
    (mixedSet.run ⟨["tree"]⟩ ⟨true, true, []⟩ (.oneFile "a")).1.map (·.result) =
      [.ok (.applied ⟨["", "tree", "f"]⟩), .ok (.applied ⟨["", "tree", "n", "g"]⟩),
        .ok (.applied ⟨["", "tree", "n", "x", ""]⟩)] ∧
    (∃ real, (mixedSet.run ⟨["tree"]⟩ ⟨false, true, []⟩ (.oneFile "a")).1[2]? = some real ∧
      real.result = .error (.edit (.io .notADirectory)) ∧
      ∃ w e, real.result = .error e ∧ PlannedWrite.Uncommitted w e) ∧
    ∃ real, (mixedSet.run ⟨["tree"]⟩ ⟨false, true, []⟩ (.oneFile "a")).1[0]? = some real ∧
      real.change = some ⟨⟨["", "tree", "f"]⟩, "a", "b"⟩ ∧
      (letterPatch "a" "b").Captured ⟨["tree"]⟩ (.oneFile "a")
        (mixedSet.run ⟨["tree"]⟩ ⟨false, true, []⟩ (.oneFile "a")).2 real := by
  have hdry : (mixedSet.run ⟨["tree"]⟩ ⟨true, true, []⟩ (.oneFile "a")).1.map (·.result) =
      [.ok (.applied ⟨["", "tree", "f"]⟩), .ok (.applied ⟨["", "tree", "n", "g"]⟩),
        .ok (.applied ⟨["", "tree", "n", "x", ""]⟩)] := by rfl
  have hreal : (mixedSet.run ⟨["tree"]⟩ ⟨false, true, []⟩ (.oneFile "a")).1 =
      [⟨"ab", "rewrite", .ok (.applied ⟨["", "tree", "f"]⟩),
          some ⟨⟨["", "tree", "f"]⟩, "a", "b"⟩⟩,
        ⟨"deep", "author", .ok (.applied ⟨["", "tree", "n", "g"]⟩),
          some ⟨⟨["", "tree", "n", "g"]⟩, "", "b"⟩⟩,
        ⟨"slash", "author", .error (.edit (.io .notADirectory)),
          some ⟨⟨["", "tree", "n", "x", ""]⟩, "", "b"⟩⟩] := by rfl
  obtain ⟨-, -, hpredicted⟩ := PatchSet.run_predicted (s := mixedSet) (r := ⟨["tree"]⟩)
    (d := .oneFile "a") (by decide) (by rfl)
    (fun l target _ => Disk.node?_oneFile_ne_link "a" l target) (by rfl) (by decide) (by decide)
    true []
  obtain ⟨dry, real, hdry₂, hreal₂, hp₂, -⟩ := hpredicted 2 slashPatch rfl
  obtain ⟨-, real₀, -, hreal₀, -, hcaptured⟩ := hpredicted 0 (letterPatch "a" "b") rfl
  rw [hreal] at hreal₀ hreal₂
  cases hreal₂
  cases hreal₀
  refine ⟨hdry, ⟨_, by rw [hreal]; rfl, rfl, ?_⟩, _, by rw [hreal]; rfl, rfl, hcaptured rfl⟩
  obtain hsame | ⟨w, e, -, -, herr, -, hwhy⟩ := hp₂.result
  · have hlast := congrArg (·[2]?) hdry
    rw [List.getElem?_map, hdry₂, Option.map_some, ← hsame] at hlast
    cases hlast
  · exact ⟨w, e, herr, hwhy⟩

end SourcePatch
