import SourcePatch.Proofs.Engine.Beside
import SourcePatch.Proofs.PatchSet.RunAgain
import SourcePatch.Proofs.Tree.Standing

/-!
# Patches that fail

A patch that fails leaves at most directories behind. The patches after it run as they would without
it, unless the target of one notices these directories.

## Main statements

* `Root.Beside.runPatches`: runs on trees side by side.
* `PatchSet.run_without`: a run with and without a patch that fails.
* `PatchSet.run_without_differs`: that the directories may be noticed.
-/

namespace SourcePatch

variable {r : Root} {d d' : Disk} {p : Patch} {options : RunOptions}

namespace Root.Beside

variable (h : r.Beside d d')
include h

/-- One patch of a run. -/
theorem run (options : RunOptions) (hnot : ¬ d.Notices d' (p.path r)) :
    r.Abreast (p.run r options d) (p.run r options d') := by
  unfold Patch.run
  rw [h.plan_eq hnot]
  cases hplan : p.plan r d with
  | error err => exact ⟨rfl, h⟩
  | ok plan =>
    dsimp only
    cases options.dryRun with
    | true => exact ⟨rfl, h⟩
    | false =>
      have hcommit : r.Abreast (plan.commit r d) (plan.commit r d') := by
        cases plan with
        | skip res => exact ⟨rfl, h⟩
        | write w => exact h.commit hnot hplan
      exact ⟨congrArg (fun res => PatchReport.mk _ _ res _) hcommit.1, hcommit.2⟩

/-- Runs on both disks give the same reports, if no patch notices where they differ when its turn
comes. -/
theorem runPatches {patches : List Patch}
    (hnot : ∀ mid q tail, patches = mid ++ q :: tail →
      ¬ (runPatches r options d mid).2.Notices (runPatches r options d' mid).2 (q.path r)) :
    r.Abreast (runPatches r options d patches) (runPatches r options d' patches) := by
  induction patches generalizing d d' with
  | nil => exact ⟨rfl, h⟩
  | cons q rest ih =>
    obtain ⟨hreport, hdisks⟩ := h.run options (hnot [] q rest rfl)
    obtain ⟨hreports, hafter⟩ := ih hdisks fun mid q' tail hsplit =>
      hnot (q :: mid) q' tail (by rw [hsplit]; rfl)
    rw [runPatches_cons, runPatches_cons, hreport, hreports]
    exact ⟨rfl, hafter⟩

end Root.Beside

namespace RunOptions

theorem chosen_append (options : RunOptions) (before after : List Patch) :
    options.chosen (before ++ after) = options.chosen before ++ options.chosen after :=
  List.filter_append ..

theorem chosen_cons (h : Selection.includes options.only p.id = true) (rest : List Patch) :
    options.chosen (p :: rest) = p :: options.chosen rest :=
  List.filter_cons_of_pos h

/-- What holds of every patch that is included, and of those included before it, holds in the list
of those that are included. -/
theorem forall_chosen {patches : List Patch} {P : List Patch → Patch → Prop}
    (h : ∀ mid q tail, patches = mid ++ q :: tail → Selection.includes options.only q.id = true →
      P (options.chosen mid) q) (mid : List Patch) (q : Patch) (tail : List Patch)
    (hsplit : options.chosen patches = mid ++ q :: tail) : P mid q := by
  obtain ⟨mid₁, rest, hpatches, rfl, hrest⟩ := List.filter_eq_append_iff.1 hsplit
  obtain ⟨mid₂, tail₂, rfl, hskip, hq, -⟩ := List.filter_eq_cons_iff.1 hrest
  have hmid : options.chosen (mid₁ ++ mid₂) = options.chosen mid₁ := by
    have hnone : options.chosen mid₂ = [] := List.filter_eq_nil_iff.2 hskip
    rw [chosen_append, hnone, List.append_nil]
  have hholds := h (mid₁ ++ mid₂) q tail₂ (by rw [hpatches, List.append_assoc]) hq
  rwa [hmid] at hholds

end RunOptions

/-! ## What a failed patch leaves -/

namespace Patch

variable {err : EngineError}

/-- A failed patch leaves the disk as it was, or as it was prepared for a write. -/
theorem run_of_error (h : (p.run r options d).1.result = .error err) :
    (p.run r options d).2 = d ∨ options.dryRun = false ∧
      ∃ w, p.plan r d = .ok (.write w) ∧ (p.run r options d).2 = (w.prepare r d).2 := by
  cases hdry : options.dryRun with
  | true => exact .inl (run_of_dry hdry)
  | false =>
    obtain ⟨hresult, hdisk⟩ := run_of_wet (p := p) (r := r) (d := d) hdry
    rw [hresult] at h
    rw [hdisk]
    obtain ⟨res, -, hrun⟩ | ⟨w, hplan, ⟨res, -, hrun⟩ | ⟨d₁, current, e, mode, -, -, -, -, hrun⟩⟩ :=
      p.carryOut_cases r d
    · exact .inl (by rw [hrun])
    · exact .inr ⟨rfl, w, hplan, by rw [hrun]⟩
    · rw [hrun] at h
      cases h

/-- A failed patch has at most made directories in the tree. -/
theorem beside_run (hd : d.Sound) (hroot : d.node? r.location ≠ none)
    (hr : ∀ name ∈ r.location, Disk.Ordinary name) (h : (p.run r options d).1.result = .error err) :
    r.Beside d (p.run r options d).2 := by
  refine ⟨hd, sound_run hd, fun l => ?_, hroot, hr⟩
  obtain hsame | ⟨-, w, hplan, hleft⟩ := run_of_error h
  · exact .inl (by rw [hsame])
  · rw [hleft]
    refine ((prepared_prepare hd.wellFormed hplan).gains l).imp_right ?_
    rintro ⟨hfree, hnew, -⟩
    refine ⟨hfree, hnew, ?_⟩
    obtain ⟨current, hf, hread, hexp, -⟩ := plan_write hplan
    cases current with
    | some bytes =>
      rw [prepare_of_some hexp, hfree] at hnew
      cases hnew
    | none =>
      have ht := Path.segments_ofString_ne_nil p.file
      exact (contains_of_prepare hf ht hd.wellFormed hread hexp).1 l (by rw [hfree, hnew]; simp)

/-- A patch that writes no whole file leaves nothing if it fails. -/
theorem run_eq_of_error (hd : d.WellFormed) (h : (p.run r options d).1.result = .error err)
    (hop : options.dryRun = true ∨ ∀ content, p.operation ≠ .author content) :
    (p.run r options d).2 = d := by
  obtain hsame | ⟨hwet, w, hplan, hleft⟩ := run_of_error h
  · exact hsame
  · rw [hleft]
    obtain hsame | ⟨content, hauthor⟩ := (prepared_prepare hd hplan).author
    · exact hsame
    · exact absurd hauthor (hop.resolve_left (by simp [hwet]) content)

end Patch

namespace PatchSet

/-- A run with a patch that fails and a run without it give the same reports for all other patches
and leave the same files. This is so for every patch that writes no whole file. For one that does it
is so if the patches behind it do not notice the directories that it has made. -/
theorem run_without {s : PatchSet} {pre post : List Patch} (hd : d.Sound)
    (hroot : Root.ofPath d r.path = .ok r) (hpatches : s.patches = pre ++ p :: post)
    (hin : Selection.includes options.only p.id = true) :
    ∃ before report after, (s.run r options d).1 = before ++ report :: after ∧
      before.length = (options.chosen pre).length ∧
      ∀ err, report.result = .error err →
        ((options.dryRun = true ∨ ∀ content, p.operation ≠ .author content) →
          run { s with patches := pre ++ post } r options d =
            (before ++ after, (s.run r options d).2)) ∧
        ((∀ mid q tail, post = mid ++ q :: tail → Selection.includes options.only q.id = true →
          ¬ (run { s with patches := pre ++ mid } r options d).2.Notices
            (run { s with patches := pre ++ p :: mid } r options d).2 (q.path r)) →
          (run { s with patches := pre ++ post } r options d).1 = before ++ after ∧
            (run { s with patches := pre ++ post } r options d).2.GainsDirectories
              (s.run r options d).2) := by
  -- both runs have the part before the patch in common
  have hrun : ∀ patches, run { s with patches := pre ++ patches } r options d =
      ((runPatches r options d (options.chosen pre)).1 ++
          (runPatches r options (runPatches r options d (options.chosen pre)).2
            (options.chosen patches)).1,
        (runPatches r options (runPatches r options d (options.chosen pre)).2
          (options.chosen patches)).2) := by
    intro patches
    rw [run_eq, RunOptions.chosen_append, runPatches_append]
  have hset : s = { s with patches := pre ++ p :: post } := by rw [← hpatches]
  have hd₀ := sound_runPatches r options hd (options.chosen pre)
  have hstands := Root.stands_of_ofPath hd.wellFormed hroot
  have hpers := persists_runPatches r options hd.wellFormed (options.chosen pre)
  have hroot₀ := hpers.entry _ hstands.root
  have hlen := length_runPatches r options d (options.chosen pre)
  rw [hset, hrun, RunOptions.chosen_cons hin, runPatches_cons]
  simp only [hrun, RunOptions.chosen_cons hin, runPatches_cons]
  generalize (runPatches r options d (options.chosen pre)).2 = d₀ at hd₀ hroot₀
  refine ⟨_, _, _, rfl, hlen, fun err herr => ⟨fun hop => ?_, fun hnot => ?_⟩⟩
  · rw [Patch.run_eq_of_error hd₀.wellFormed herr hop]
  · obtain ⟨hreports, hdisks⟩ := (Patch.beside_run hd₀ hroot₀ hstands.ordinary herr).runPatches
      (RunOptions.forall_chosen hnot)
    exact ⟨by rw [hreports], hdisks.gainsDirectories⟩

end PatchSet

/-- A patch whose file is named as a directory is. Its directory is made, and then it fails. -/
def slashPatch : Patch := ⟨"slash", "n/x/", none, .author "b"⟩

/-- A file in the directory that was left behind is made as it is without it. -/
theorem run_without_of_deep :
    (PatchSet.run ⟨PatchSet.emptyMetadata, [slashPatch, deepPatch]⟩ ⟨["tree"]⟩ ⟨false, false, []⟩
        (.oneFile "a")).1 =
      ⟨"slash", "author", .error (.edit (.io .notADirectory)), none⟩ ::
        (PatchSet.run ⟨PatchSet.emptyMetadata, [deepPatch]⟩ ⟨["tree"]⟩ ⟨false, false, []⟩
          (.oneFile "a")).1 := by
  have hrun : (PatchSet.run ⟨PatchSet.emptyMetadata, [slashPatch, deepPatch]⟩ ⟨["tree"]⟩
      ⟨false, false, []⟩ (.oneFile "a")).1 =
      [⟨"slash", "author", .error (.edit (.io .notADirectory)), none⟩,
        ⟨"deep", "author", .ok (.applied ⟨["", "tree", "n", "g"]⟩), none⟩] := by rfl
  have hleft : (PatchSet.run ⟨PatchSet.emptyMetadata, [slashPatch]⟩ ⟨["tree"]⟩ ⟨false, false, []⟩
      (.oneFile "a")).2 = (Disk.oneFile "a").put ["tree", "n"] .directory := by rfl
  have hmissing : ((Disk.oneFile "a").put ["tree", "n"] .directory).locate
      (deepPatch.path ⟨["tree"]⟩) = .error .noSuchFile := by rfl
  have hnot : ¬ (Disk.oneFile "a").Notices ((Disk.oneFile "a").put ["tree", "n"] .directory)
      (deepPatch.path ⟨["tree"]⟩) := by
    rintro (hl | ⟨-, hlong⟩ | ⟨segments, e, target, -, -, hlink, -⟩)
    · rw [hmissing] at hl
      cases hl
    · rw [hmissing] at hlong
      cases hlong
    · have he : e ≠ [] := by
        rintro rfl
        cases hlink
      have hmem := Disk.mem_entries_of_node? he hlink
      simp [Disk.oneFile] at hmem
  obtain ⟨before, report, after, hsplit, hlen, hfail⟩ := @PatchSet.run_without ⟨["tree"]⟩
    (.oneFile "a") slashPatch ⟨false, false, []⟩
    ⟨PatchSet.emptyMetadata, [slashPatch, deepPatch]⟩ [] [deepPatch]
    (by decide) (by rfl) rfl (by rfl)
  obtain rfl := List.eq_nil_of_length_eq_zero hlen
  rw [hrun] at hsplit ⊢
  cases hsplit
  obtain ⟨hsame, -⟩ := (hfail _ rfl).2 fun mid q tail hone _ => by
    obtain _ | ⟨first, mid⟩ := mid
    · cases hone
      exact hleft ▸ hnot
    · simp at hone
  exact congrArg _ hsame.symm

/-- The directory that was left behind is where a later patch wants a file. -/
theorem run_without_differs :
    ¬ ∀ (s : PatchSet) (pre post : List Patch) (p : Patch) (r : Root) (options : RunOptions)
      (d : Disk) (before after : List PatchReport) (report : PatchReport) (err : EngineError),
      d.Sound → Root.ofPath d r.path = .ok r → s.validate = .ok () →
      s.patches = pre ++ p :: post → Selection.includes options.only p.id = true →
      (s.run r options d).1 = before ++ report :: after →
      before.length = (options.chosen pre).length → report.result = .error err →
      (PatchSet.run { s with patches := pre ++ post } r options d).1 = before ++ after := by
  intro hall
  have hrun : (PatchSet.run ⟨PatchSet.emptyMetadata, [slashPatch, ⟨"file", "n", none, .author "b"⟩]⟩
      ⟨["tree"]⟩ ⟨false, false, []⟩ (.oneFile "a")).1 =
      [⟨"slash", "author", .error (.edit (.io .notADirectory)), none⟩,
        ⟨"file", "author", .error (.edit (.io .isADirectory)), none⟩] := by rfl
  have hwithout : (PatchSet.run ⟨PatchSet.emptyMetadata, [⟨"file", "n", none, .author "b"⟩]⟩
      ⟨["tree"]⟩ ⟨false, false, []⟩ (.oneFile "a")).1 =
      [⟨"file", "author", .ok (.applied ⟨["", "tree", "n"]⟩), none⟩] := by rfl
  have hsame := hall ⟨PatchSet.emptyMetadata, [slashPatch, ⟨"file", "n", none, .author "b"⟩]⟩ []
    [⟨"file", "n", none, .author "b"⟩] slashPatch ⟨["tree"]⟩ ⟨false, false, []⟩ (.oneFile "a")
    [] _ _ _ (by decide) (by rfl) (by rfl) rfl (by rfl) hrun rfl rfl
  rw [List.nil_append, hwithout] at hsame
  cases hsame

end SourcePatch
