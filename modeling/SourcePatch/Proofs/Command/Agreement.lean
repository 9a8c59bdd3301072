import SourcePatch.Proofs.Command.Verify

/-!
# What the commands that change nothing agree on

A dry run and the status choose patches and then plan them; verifying plans all patches and then
chooses reports. On one tree all of them come to the same reports. They show and count these in ways
of their own, which agree as well: what verifying takes for a mismatch is pending or failed in the
status.

## Main definitions

* `PatchReport.withoutChange`: a report without the texts that a dry run can show.

## Main statements

* `Command.runSets_of_dry`: sets that are run dry are run one by one on the same disk.
* `Command.StatusGroup.perm`: each report is shown in one group.
* `Command.dry_commands_agree`: the reports, the tree and the exit codes of the three commands.
-/

namespace SourcePatch

variable {r : Root} {d : Disk} {reports : List PatchReport}

/-! ## Reports -/

/-- A report without the change that it shows. -/
def PatchReport.withoutChange (report : PatchReport) : PatchReport := { report with change := none }

theorem Summary.ofReports_withoutChange :
    ofReports (reports.map PatchReport.withoutChange) = ofReports reports :=
  List.foldl_map

/-- A dry run reports a patch as the status does, whatever else it shows. -/
theorem Patch.withoutChange_run (p : Patch) (r : Root) (captures : Bool) (only : List String)
    (d : Disk) : (p.run r ⟨true, captures, only⟩ d).1.withoutChange =
      (p.run r ⟨true, false, only⟩ d).1 := by
  unfold Patch.run
  cases p.plan r d <;> rfl

theorem PatchSet.run_of_dry {options : RunOptions} (h : options.dryRun = true) (s : PatchSet) :
    s.run r options d = ((options.chosen s.patches).map fun p => (p.run r options d).1, d) := by
  rw [run_eq, ← reports_of_fixed fun p _ => Patch.run_of_dry h]
  exact Prod.ext rfl (runPatches_of_dry h _)

namespace Command

variable {sets : List LoadedSet} {options : RunOptions} {only : List String}

/-! ## Sets -/

/-- Where nothing is changed, each set is run on the same disk. -/
theorem runSets_of_dry (h : options.dryRun = true) (sets : List LoadedSet) :
    runSets r options d sets = (sets.map fun s => ⟨s.name, (s.set.run r options d).1⟩, d) := by
  induction sets with
  | nil => rfl
  | cons s rest ih =>
    have hdisk : (s.set.run r options d).2 = d := by rw [PatchSet.run_of_dry h]
    rw [runSets, List.map_cons]
    dsimp only
    rw [hdisk, ih]

/-- To plan all patches and choose among the reports is to choose patches and plan these. -/
theorem map_snd_checkSets (r : Root) (only : List String) (d : Disk) (sets : List LoadedSet) :
    (checkSets r only d sets).map Prod.snd =
      (runSets r ⟨true, false, only⟩ d sets).1.map (·.reports) := by
  rw [runSets_of_dry rfl, checkSets, List.map_map, List.map_map]
  refine List.map_congr_left ?_
  intro s _
  simp only [Function.comp_apply]
  rw [PatchSet.run_of_dry rfl, PatchSet.status_eq, List.filter_map, RunOptions.chosen]
  -- what else is chosen makes no difference to one patch
  have hsame (p : Patch) : p.run r ⟨true, false, []⟩ d = p.run r ⟨true, false, only⟩ d := rfl
  simp [hsame, Patch.run_id, Function.comp_def]

theorem withoutChange_runSets (r : Root) (captures : Bool) (only : List String) (d : Disk)
    (sets : List LoadedSet) :
    ((runSets r ⟨true, captures, only⟩ d sets).1.map fun s =>
        (s.name, s.reports.map PatchReport.withoutChange)) =
      (runSets r ⟨true, false, only⟩ d sets).1.map fun s => (s.name, s.reports) := by
  rw [runSets_of_dry rfl, runSets_of_dry rfl, List.map_map, List.map_map]
  refine List.map_congr_left ?_
  intro s _
  simp only [Function.comp_apply]
  rw [PatchSet.run_of_dry rfl, PatchSet.run_of_dry rfl]
  simp [RunOptions.chosen, Patch.withoutChange_run, Function.comp_def]

theorem flatMap_snd_checkSets (r : Root) (only : List String) (d : Disk) (sets : List LoadedSet) :
    (checkSets r only d sets).flatMap Prod.snd =
      allReports (runSets r ⟨true, false, only⟩ d sets).1 := by
  rw [allReports, List.flatMap_def, map_snd_checkSets, List.flatMap_def]

theorem ofReports_runSets (r : Root) (captures : Bool) (only : List String) (d : Disk)
    (sets : List LoadedSet) :
    Summary.ofReports (allReports (runSets r ⟨true, captures, only⟩ d sets).1) =
      Summary.ofReports (allReports (runSets r ⟨true, false, only⟩ d sets).1) := by
  have hsame := congrArg (List.flatMap Prod.snd) (withoutChange_runSets r captures only d sets)
  simp only [List.flatMap_map] at hsame
  rw [← Summary.ofReports_withoutChange, allReports, List.map_flatMap, hsame, allReports]

/-! ## Groups -/

/-- Where every member has one of several keys, the members by their keys are all members. -/
theorem perm_flatMap_filter {α β : Type} [DecidableEq β] (key : α → β) {keys : List β}
    (hkeys : keys.Nodup) {xs : List α} (hxs : ∀ x ∈ xs, key x ∈ keys) :
    (keys.flatMap fun k => xs.filter fun x => key x == k).Perm xs := by
  induction keys generalizing xs with
  | nil =>
    obtain rfl : xs = [] := List.eq_nil_iff_forall_not_mem.2 fun x hx => by simpa using hxs x hx
    rfl
  | cons k keys ih =>
    obtain ⟨hk, hkeys⟩ := List.nodup_cons.1 hkeys
    have hothers : ∀ k' ∈ keys, (xs.filter fun x => key x == k') =
        (xs.filter fun x => !(key x == k)).filter fun x => key x == k' := by
      intro k' hk'
      rw [List.filter_filter]
      refine List.filter_congr ?_
      intro x _
      have hne : k' ≠ k := fun heq => hk (heq ▸ hk')
      by_cases hx : key x = k' <;> simp [hx, hne]
    rw [List.flatMap_cons, List.flatMap_congr hothers]
    refine (List.Perm.append_left _ (ih hkeys ?_)).trans (List.filter_append_perm _ _)
    intro x hx
    have := hxs x (List.mem_of_mem_filter hx)
    have := List.of_mem_filter hx
    grind

namespace StatusGroup

/-- Each report is shown in one group. -/
theorem perm (reports : List PatchReport) :
    (all.flatMap fun g => reports.filter fun report => ofReport report == g).Perm reports := by
  refine perm_flatMap_filter ofReport (by decide) ?_
  intro report _
  cases ofReport report <;> decide

theorem ofReport_eq_failed_iff {report : PatchReport} :
    ofReport report = failed ↔ ∀ res, report.result ≠ .ok res := by
  unfold ofReport
  split <;> simp_all

theorem ofReport_eq_pending_iff {report : PatchReport} :
    ofReport report = pending ↔ ∃ file, report.result = .ok (.applied file) := by
  unfold ofReport
  split <;> simp_all

end StatusGroup

theorem groupLines_eq_nil_iff {g : StatusGroup} :
    groupLines reports g = [] ↔ ∀ report ∈ reports, StatusGroup.ofReport report ≠ g := by
  have hmembers : groupLines reports g = [] ↔
      (reports.filter fun report => StatusGroup.ofReport report == g) = [] := by
    unfold groupLines
    split <;> simp_all
  simp [hmembers, List.filter_eq_nil_iff]

/-- Nothing failed if nothing is shown as failed. -/
theorem exitCode_eq_zero_iff_groupLines :
    (Summary.ofReports reports).exitCode = 0 ↔ groupLines reports .failed = [] := by
  rw [Summary.exitCode_eq_zero_iff, groupLines_eq_nil_iff]
  refine forall₂_congr fun report _ => ?_
  rw [Ne, StatusGroup.ofReport_eq_failed_iff]
  simp

/-- The tree reflects all patches if nothing is shown as pending or failed. -/
theorem mismatches_eq_zero_iff_groupLines :
    mismatches (Summary.ofReports reports) = 0 ↔
      groupLines reports .pending = [] ∧ groupLines reports .failed = [] := by
  rw [Summary.mismatches_eq_zero_iff, groupLines_eq_nil_iff, groupLines_eq_nil_iff, ← forall₂_and]
  refine forall₂_congr fun report _ => ?_
  rw [Ne, Ne, StatusGroup.ofReport_eq_failed_iff, StatusGroup.ofReport_eq_pending_iff]
  cases report.result <;> simp

/-! ## Commands -/

variable {tree : TreeOptions} {warnings : List Printed}

/-- A dry run, once its tree is found. -/
theorem run_dry (hprep : prepare d tree = .ok (sets, r, warnings)) (showDiff : Bool)
    (format : OutputFormat) (warns : Bool) :
    (Command.apply tree true showDiff format).run warns d =
      let dry := (runSets r ⟨true, showDiff && format == .text, tree.only⟩ d sets).1
      ⟨(Summary.ofReports (allReports dry)).exitCode, ifWarns warns warnings ++ match format with
        | .text => applyText warns true r dry
        | .json => applyJson warns true r dry, d⟩ := by
  have hdisk (captures : Bool) : (runSets r ⟨true, captures, tree.only⟩ d sets).2 = d :=
    congrArg Prod.snd (runSets_of_dry rfl sets)
  rw [run, hprep]
  cases format <;> exact congrArg (Outcome.mk _ _) (hdisk _)

/-- The status, once its tree is found. -/
theorem run_status (hprep : prepare d tree = .ok (sets, r, warnings)) (warns : Bool) :
    (Command.status tree).run warns d =
      let reports := allReports (runSets r ⟨true, false, tree.only⟩ d sets).1
      ⟨(Summary.ofReports reports).exitCode,
        ifWarns warns (warnings ++ reports.flatMap reportWarnings) ++ statusLines r reports,
        d⟩ := by
  rw [run, hprep]

/-- What verifying counts is what the status counts. -/
theorem run_verify_counts (hprep : prepare d tree = .ok (sets, r, warnings)) (warns : Bool) :
    let reports := allReports (runSets r ⟨true, false, tree.only⟩ d sets).1
    ∃ before, (Command.verify tree).run warns d =
      ⟨if 0 < mismatches (.ofReports reports) then 1 else 0,
        before ++ verifySummary (.ofReports reports), d⟩ := by
  rw [run, hprep]
  dsimp only
  rw [flatMap_snd_checkSets]
  exact ⟨_, rfl⟩

/-- Verifying, the status and a dry run come to the same reports, set by set, and leave the tree as
it is. The status shows each report in one of its groups. Verifying succeeds if nothing is shown as
pending or failed, and the other two if nothing is shown as failed. -/
theorem dry_commands_agree (hprep : prepare d tree = .ok (sets, r, warnings)) (showDiff : Bool)
    (format : OutputFormat) (warns : Bool) :
    let dry := runSets r ⟨true, showDiff && format == .text, tree.only⟩ d sets
    let shown := runSets r ⟨true, false, tree.only⟩ d sets
    let reports := allReports shown.1
    let applied := (Command.apply tree true showDiff format).run warns d
    let status := (Command.status tree).run warns d
    let verified := (Command.verify tree).run warns d
    ((checkSets r tree.only d sets).map Prod.snd = shown.1.map (·.reports) ∧
      (dry.1.map fun s => (s.name, s.reports.map PatchReport.withoutChange)) =
        shown.1.map fun s => (s.name, s.reports)) ∧
    ((∃ before, verified.printed = before ++ verifySummary (.ofReports reports)) ∧
      ∃ before, applied.printed = before ++ match format with
        | .text => applySummary (.ofReports reports)
        | .json => [resultLine (RunReport.text
            ⟨r.path.text, true, reportLines dry.1, .ofReports reports⟩)]) ∧
    (applied.disk = d ∧ status.disk = d ∧ verified.disk = d) ∧
    (status.printed =
        ifWarns warns (warnings ++ reports.flatMap reportWarnings) ++ statusLines r reports ∧
      (StatusGroup.all.flatMap fun g =>
        reports.filter fun report => StatusGroup.ofReport report == g).Perm reports) ∧
    (verified.exitCode = 0 ↔
      groupLines reports .pending = [] ∧ groupLines reports .failed = []) ∧
    (status.exitCode = 0 ↔ groupLines reports .failed = []) ∧
    (applied.exitCode = 0 ↔ groupLines reports .failed = []) := by
  intro dry shown reports applied status verified
  have htally : Summary.ofReports (allReports dry.1) = Summary.ofReports reports :=
    ofReports_runSets r _ tree.only d sets
  have hzero (n : Nat) : (if 0 < n then 1 else 0) = 0 ↔ n = 0 := by
    split <;> omega
  have happlied := run_dry hprep showDiff format warns
  have hstatus := run_status hprep warns
  obtain ⟨before, hverified⟩ := run_verify_counts hprep warns
  refine ⟨⟨map_snd_checkSets r tree.only d sets, withoutChange_runSets r _ tree.only d sets⟩,
    ⟨⟨before, congrArg Outcome.printed hverified⟩, ?_⟩,
    ⟨congrArg Outcome.disk happlied, congrArg Outcome.disk hstatus,
      congrArg Outcome.disk hverified⟩,
    ⟨congrArg Outcome.printed hstatus, StatusGroup.perm reports⟩, ?_, ?_, ?_⟩
  · rw [← htally, congrArg Outcome.printed happlied]
    cases format <;> exact ⟨_, (List.append_assoc _ _ _).symm⟩
  · rw [← mismatches_eq_zero_iff_groupLines, congrArg Outcome.exitCode hverified]
    exact hzero _
  · rw [← exitCode_eq_zero_iff_groupLines, congrArg Outcome.exitCode hstatus]
  · rw [← exitCode_eq_zero_iff_groupLines, ← htally, congrArg Outcome.exitCode happlied]

end Command

/-- Only the second of two patches is chosen. -/
def tailOptions : TreeOptions := { setOptions with only := ["tail"] }

theorem prepare_tailOptions :
    Command.prepare .besideSet tailOptions = .ok ([twoPatchSet], ⟨["tree"]⟩, []) := by
  rw [Command.prepare, tailOptions, setOptions,
    Command.loadSets_of_text (by rfl) parse_twoPatchText]
  rfl

/-- Where the chosen patch has not been applied, verifying fails, and the others do not. -/
theorem dry_commands_agree_of_tail :
    Command.prepare .besideSet tailOptions = .ok ([twoPatchSet], ⟨["tree"]⟩, []) ∧
    ((Command.verify tailOptions).run false .besideSet).exitCode ≠ 0 ∧
    ((Command.status tailOptions).run false .besideSet).exitCode = 0 ∧
    ((Command.apply tailOptions true true .text).run false .besideSet).exitCode = 0 := by
  obtain ⟨-, -, -, -, hverify, hstatus, happly⟩ :=
    Command.dry_commands_agree prepare_tailOptions true .text false
  refine ⟨prepare_tailOptions, ?_, hstatus.2 (by rfl), happly.2 (by rfl)⟩
  intro hzero
  have hpending := (hverify.1 hzero).1
  revert hpending
  rw [Command.groupLines_eq_nil_iff]
  decide

end SourcePatch
