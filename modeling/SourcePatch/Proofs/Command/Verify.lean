import SourcePatch.Command.Basic
import SourcePatch.Proofs.Command.Prepared
import SourcePatch.Proofs.PatchSet.Applied
import SourcePatch.Proofs.PatchSet.Order
import SourcePatch.Proofs.Report.Tally

/-!
# Applying, and then verifying

A command works on several sets as on one list of patches. If none of them fails when they are
applied, then none has anything to do afterwards. So the tree is found to reflect them all, and
nothing is applied a second time.

## Main definitions

* `Command.patchesOf`: the patches of several sets, in order.

## Main statements

* `Command.runSets_eq`, `Command.checkSets_eq`: several sets as one list of patches.
* `Command.verify_after_apply`: the tree reflects what was applied.
-/

namespace SourcePatch

/-! ## Tallies -/

namespace Summary

variable {reports : List PatchReport}

theorem failed_ofReports : (ofReports reports).failed = 0 ↔
    ∀ report ∈ reports, ∃ res, report.result = .ok res := by
  rw [failed_eq_countP, List.countP_eq_zero]
  refine forall₂_congr fun report _ => ?_
  cases report.result <;> simp [Except.isOk, Except.toBool]

theorem applied_ofReports : (ofReports reports).applied = 0 ↔
    ∀ report ∈ reports, ∀ file, report.result ≠ .ok (.applied file) := by
  rw [applied_eq_countP, List.countP_eq_zero]
  refine forall₂_congr fun report _ => ?_
  rcases report.result with e | _ | _ | _ | _ | _ <;> simp [Except.toOption]

/-- A run exits with 0 if no patch failed. -/
theorem exitCode_eq_zero_iff :
    (ofReports reports).exitCode = 0 ↔ ∀ report ∈ reports, ∃ res, report.result = .ok res := by
  rw [← failed_ofReports, exitCode]
  generalize (ofReports reports).failed = n
  cases n <;> simp

/-- A tree reflects patches of which none failed and none would be applied. -/
theorem mismatches_eq_zero_iff : Command.mismatches (ofReports reports) = 0 ↔
    ∀ report ∈ reports, ∃ res, report.result = .ok res ∧ ∀ file, res ≠ .applied file := by
  rw [Command.mismatches, Nat.add_eq_zero_iff, applied_ofReports, failed_ofReports, ← forall₂_and]
  refine forall₂_congr fun report _ => ?_
  cases report.result <;> simp

end Summary

variable {r : Root} {d : Disk} {p : Patch} {patches : List Patch} {options : RunOptions}

/-! ## Runs that change nothing -/

/-- Where no patch changes anything, each is reported as it is alone. -/
theorem reports_of_fixed (h : ∀ p ∈ patches, (p.run r options d).2 = d) :
    (runPatches r options d patches).1 = patches.map fun p => (p.run r options d).1 := by
  induction patches with
  | nil => rfl
  | cons p rest ih =>
    rw [runPatches_cons, h p (by simp), ih fun q hq => h q (by simp [hq]), List.map_cons]

theorem PatchSet.status_eq (s : PatchSet) (r : Root) (d : Disk) :
    s.status r d = s.patches.map fun p => (p.run r ⟨true, false, []⟩ d).1 := by
  rw [status, run_eq, reports_of_fixed fun p _ => Patch.run_of_dry rfl, RunOptions.chosen]
  simp [Selection.includes]

/-- A patch that has nothing to do is not reported as applied, and changes nothing. -/
theorem Patch.run_of_skips (h : p.Skips r d) (options : RunOptions) :
    (∃ res, (p.run r options d).1.result = .ok res ∧ ∀ file, res ≠ .applied file) ∧
      (p.run r options d).2 = d := by
  obtain ⟨res, hskip⟩ := h
  have hnot : ∀ file, res ≠ .applied file := by
    rintro file rfl
    exact p.plan_ne_skip_applied r d file hskip
  unfold Patch.run
  rw [hskip]
  cases options.dryRun with
  | true => exact ⟨⟨res, rfl, hnot⟩, rfl⟩
  | false => exact ⟨⟨res, rfl, hnot⟩, rfl⟩

/-- Where the first of some patches succeeds, its target was accepted, so that there is a tree. -/
theorem linkless_of_reports (hd : d.Sound) (hroot : d.node? r.location ≠ none)
    (hlinks : ∀ l target, r.Contains l → d.node? l ≠ some (.link target))
    (hwet : options.dryRun = false)
    (hok : ∀ report ∈ (runPatches r options d patches).1, ∃ res, report.result = .ok res)
    (hne : patches ≠ []) : r.Linkless d := by
  obtain ⟨p, rest, rfl⟩ := List.exists_cons_of_ne_nil hne
  obtain ⟨res, hres⟩ := hok (p.run r options d).1 (by simp [runPatches_cons])
  rw [(Patch.run_of_wet hwet).1] at hres
  cases hplan : p.plan r d with
  | ok plan => exact Root.linkless_of_plan hd hroot hlinks hplan
  | error err =>
    rw [Patch.carryOut_of_error hplan] at hres
    cases hres

/-! ## Several sets -/

namespace Command

variable {sets : List LoadedSet}

/-- The patches of several sets. -/
def patchesOf (sets : List LoadedSet) : List Patch := sets.flatMap (·.set.patches)

/-- Several sets are run as one list of patches. -/
theorem runSets_eq (r : Root) (options : RunOptions) (d : Disk) (sets : List LoadedSet) :
    allReports (runSets r options d sets).1 =
        (runPatches r options d (options.chosen (patchesOf sets))).1 ∧
      (runSets r options d sets).2 =
        (runPatches r options d (options.chosen (patchesOf sets))).2 := by
  induction sets generalizing d with
  | nil => exact ⟨rfl, rfl⟩
  | cons s rest ih =>
    obtain ⟨hreports, hdisk⟩ := ih (s.set.run r options d).2
    rw [patchesOf, List.flatMap_cons, RunOptions.chosen_append, runPatches_append]
    refine ⟨?_, hdisk⟩
    rw [runSets, allReports, List.flatMap_cons]
    exact congrArg (_ ++ ·) hreports

/-- Several sets are checked patch by patch. -/
theorem checkSets_eq (r : Root) (only : List String) (d : Disk) (sets : List LoadedSet) :
    (checkSets r only d sets).flatMap Prod.snd =
      ((patchesOf sets).filter fun p => Selection.includes only p.id).map fun p =>
        (p.run r ⟨true, false, []⟩ d).1 := by
  rw [checkSets, patchesOf, List.flatMap_map, List.filter_flatMap, List.map_flatMap]
  refine List.flatMap_congr fun s _ => ?_
  dsimp only
  rw [PatchSet.status_eq, List.filter_map]
  refine congrArg (List.map _) (List.filter_congr fun p _ => ?_)
  simp [Patch.run_id]

/-! ## Commands -/

variable {tree : TreeOptions} {warnings : List Printed}

theorem run_apply (h : prepare d tree = .ok (sets, r, warnings)) (dryRun showDiff : Bool)
    (format : OutputFormat) (warns : Bool) :
    ∃ options : RunOptions, options.dryRun = dryRun ∧ options.only = tree.only ∧
      ((Command.apply tree dryRun showDiff format).run warns d).exitCode =
        (Summary.ofReports (allReports (runSets r options d sets).1)).exitCode ∧
      ((Command.apply tree dryRun showDiff format).run warns d).disk =
        (runSets r options d sets).2 :=
  ⟨⟨dryRun, showDiff && format == .text, tree.only⟩, rfl, rfl, by simp [run, h], by simp [run, h]⟩

/-- A run that applies nothing says so. -/
theorem printed_apply (h : prepare d tree = .ok (sets, r, warnings)) (showDiff warns : Bool)
    (hzero : (Summary.ofReports
      (allReports (runSets r ⟨false, showDiff, tree.only⟩ d sets).1)).applied = 0) :
    countLine 0 "applied" ∈ ((Command.apply tree false showDiff .text).run warns d).printed := by
  simp [run, h, applyText, applySummary, hzero]

theorem run_verify (h : prepare d tree = .ok (sets, r, warnings)) (warns : Bool)
    (hzero : mismatches (.ofReports ((checkSets r tree.only d sets).flatMap Prod.snd)) = 0) :
    ((Command.verify tree).run warns d).exitCode = 0 ∧
      countLine 0 "mismatch" ∈ ((Command.verify tree).run warns d).printed := by
  simp [run, h, verifySummary, hzero]

/-- After patches of several sets were applied and none failed, the tree reflects all of them, and
nothing is applied a second time. -/
theorem verify_after_apply {tree' : TreeOptions} {warnings' : List Printed} {showDiff warns : Bool}
    {format : OutputFormat} {o : Outcome} (hd : d.Sound)
    (hlinks : ∀ l target, r.Contains l → d.node? l ≠ some (.link target))
    (hshort : ∀ p ∈ patchesOf sets, p.IsShort)
    (hapart : (patchesOf sets).Pairwise (Patch.Apart r))
    (hmarkers : ∀ p ∈ patchesOf sets, ∀ marker fragment,
      p.operation = .appendGuarded marker fragment → '\n' ∉ marker.toList)
    (hprep : prepare d tree = .ok (sets, r, warnings))
    (happly : (Command.apply tree false showDiff format).run warns d = o) (hok : o.exitCode = 0)
    (honly : tree'.only = tree.only)
    (hprep' : prepare o.disk tree' = .ok (sets, r, warnings')) :
    (∀ warns', ((Command.verify tree').run warns' o.disk).exitCode = 0 ∧
      countLine 0 "mismatch" ∈ ((Command.verify tree').run warns' o.disk).printed) ∧
    (∀ changes, ∀ report ∈ allReports (runSets r ⟨false, changes, tree.only⟩ o.disk sets).1,
      ∀ file, report.result ≠ .ok (.applied file)) ∧
    ∀ showDiff' warns', countLine 0 "applied" ∈
      ((Command.apply tree' false showDiff' .text).run warns' o.disk).printed := by
  have hvalid := validate_of_prepare hprep
  have hset : ∀ p ∈ patchesOf sets, ∃ s ∈ sets, p ∈ s.set.patches := fun p hp => by
    simpa [patchesOf] using hp
  have hrel : ∀ p ∈ patchesOf sets, (Path.ofString p.file).isTreeRelative = true := fun p hp => by
    obtain ⟨s, hs, hp⟩ := hset p hp
    exact PatchSet.isTreeRelative_of_validate (hvalid s hs) hp
  have hsafe : ∀ p ∈ patchesOf sets, p.HasSafeMarker := fun p hp marker fragment hop => by
    obtain ⟨s, hs, hp'⟩ := hset p hp
    exact ⟨PatchSet.occursIn_of_validate (hvalid s hs) hp' hop, hmarkers p hp _ _ hop⟩
  obtain ⟨options, hwet, hsel, hexit, hdisk⟩ := run_apply hprep false showDiff format warns
  rw [happly] at hexit hdisk
  obtain ⟨hreports, hafter⟩ := runSets_eq r options d sets
  rw [hok, eq_comm, hreports, Summary.exitCode_eq_zero_iff] at hexit
  -- none of the chosen patches has anything left to do
  have hskips : ∀ p ∈ (patchesOf sets).filter fun p => Selection.includes tree.only p.id,
      p.Skips r o.disk := by
    rw [hdisk, hafter, ← hsel]
    intro p hp
    have h := linkless_of_reports hd (node?_of_prepare hprep) hlinks hwet hexit
      (List.ne_nil_of_mem hp)
    exact skips_of_runPatches h (fun p hp => hrel p (List.mem_of_mem_filter hp))
      (fun p hp => hshort p (List.mem_of_mem_filter hp))
      (fun p hp => hsafe p (List.mem_of_mem_filter hp)) (hapart.filter _) hwet hexit hp
  have hagain : ∀ changes,
      ∀ report ∈ allReports (runSets r ⟨false, changes, tree.only⟩ o.disk sets).1,
        ∀ file, report.result ≠ .ok (.applied file) := by
    intro changes report hreport file happlied
    rw [(runSets_eq r _ o.disk sets).1, RunOptions.chosen,
      reports_of_fixed fun p hp => (Patch.run_of_skips (hskips p hp) _).2, List.mem_map] at hreport
    obtain ⟨p, hp, rfl⟩ := hreport
    obtain ⟨⟨res, hres, hnot⟩, -⟩ := Patch.run_of_skips (hskips p hp) ⟨false, changes, tree.only⟩
    rw [hres] at happlied
    cases happlied
    exact hnot file rfl
  refine ⟨fun warns' => run_verify hprep' warns' ?_, hagain, fun showDiff' warns' => ?_⟩
  · rw [Summary.mismatches_eq_zero_iff, checkSets_eq, honly, List.forall_mem_map]
    exact fun p hp => (Patch.run_of_skips (hskips p hp) _).1
  · refine printed_apply hprep' showDiff' warns' (Summary.applied_ofReports.2 ?_)
    rw [honly]
    exact hagain showDiff'

end Command

/-- A patch set file, as it is loaded. -/
theorem Command.loadSets_of_text {file : Path} {text : String} {s : PatchSet}
    (hread : d.read file = .ok text.toUTF8) (hparse : PatchSet.parse text = .ok s) :
    loadSets d [file] = .ok [⟨nameOf file s, s⟩] := by
  have hload : loadNamed d file = .ok ⟨nameOf file s, s⟩ := by
    rw [loadNamed, PatchSet.loadFile, PatchSet.readFile, hread]
    simp only [bind, Except.bind, fromUTF8?_toUTF8, PatchSet.load, hparse, Except.mapError]
    rfl
  rw [loadSets, List.isEmpty_cons, if_neg Bool.false_ne_true]
  dsimp only
  rw [List.mapM_cons, hload, List.mapM_nil]
  rfl

/-- A set of two patches, one for a new file and one for a file that is there. -/
def twoPatchText : String :=
  "[[patches]]\nid=\"deep\"\nfile=\"n/g\"\n" ++
    "operation.type=\"author\"\noperation.content=\"b\"\n" ++
    "[[patches]]\nid=\"tail\"\nfile=\"f\"\n" ++
    "operation.type=\"append-guarded\"\noperation.marker=\"m\"\noperation.fragment=\"m\"\n"

def tailPatch : Patch := ⟨"tail", "f", none, .appendGuarded "m" "m"⟩

def twoPatchSet : LoadedSet := ⟨"set", ⟨PatchSet.emptyMetadata, [deepPatch, tailPatch]⟩⟩

theorem parse_twoPatchText : PatchSet.parse twoPatchText = .ok twoPatchSet.set := by
  decide +kernel

/-- A tree with one file, and a patch set beside it. -/
def Disk.besideSet : Disk where
  entries := [
    (["tree"], .directory), (["tree", "f"], .file "a".toUTF8 0o644),
    (["set.toml"], .file twoPatchText.toUTF8 0o644)]
  workingDirectory := []

/-- The same after both patches were applied. -/
def Disk.besideSetAfter : Disk where
  entries := [
    (["tree", "f"], .file "a\nm".toUTF8 0o644), (["tree", "n", "g"], .file "b".toUTF8 0o644),
    (["tree", "n"], .directory), (["tree"], .directory),
    (["set.toml"], .file twoPatchText.toUTF8 0o644)]
  workingDirectory := []

def setOptions : TreeOptions where
  root := some (.ofString "tree")
  marker := some (.ofString "f")
  patchFiles := [.ofString "set.toml"]
  only := []

/-- Both patches are applied, and verified afterwards. -/
theorem verify_after_apply_of_two :
    ((Command.apply setOptions false false .text).run false .besideSet).exitCode = 0 ∧
    ((Command.apply setOptions false false .text).run false .besideSet).disk = .besideSetAfter ∧
    ((Command.verify setOptions).run false .besideSetAfter).exitCode = 0 := by
  have hprep : Command.prepare .besideSet setOptions = .ok ([twoPatchSet], ⟨["tree"]⟩, []) := by
    rw [Command.prepare, setOptions, Command.loadSets_of_text (by rfl) parse_twoPatchText]
    rfl
  have hprep' : Command.prepare .besideSetAfter setOptions =
      .ok ([twoPatchSet], ⟨["tree"]⟩, []) := by
    rw [Command.prepare, setOptions, Command.loadSets_of_text (by rfl) parse_twoPatchText]
    rfl
  have hok : ((Command.apply setOptions false false .text).run false .besideSet).exitCode = 0 := by
    rw [Command.run, hprep]
    rfl
  have hdisk : ((Command.apply setOptions false false .text).run false .besideSet).disk =
      .besideSetAfter := by
    rw [Command.run, hprep]
    rfl
  have hlinks : ∀ l target, Root.Contains ⟨["tree"]⟩ l →
      Disk.besideSet.node? l ≠ some (.link target) := fun l target _ =>
    Disk.node?_ne_link (by simp [Disk.besideSet]) l target
  have hmarkers : ∀ p ∈ Command.patchesOf [twoPatchSet], ∀ marker fragment,
      p.operation = .appendGuarded marker fragment → '\n' ∉ marker.toList := by
    intro p hp marker fragment hop
    obtain rfl | rfl : p = deepPatch ∨ p = tailPatch := by
      simpa [Command.patchesOf, twoPatchSet] using hp
    · cases hop
    · cases hop
      decide
  obtain ⟨hverify, -⟩ := Command.verify_after_apply (by decide) hlinks
    (by decide) (by decide) hmarkers hprep rfl hok rfl (hdisk ▸ hprep')
  rw [hdisk] at hverify
  exact ⟨hok, hdisk, (hverify false).1⟩

end SourcePatch
