import SourcePatch.Proofs.Command.Agreement

/-!
# Every report is accounted for

Reports are counted by the tally of a run, named by the status of their lines, and taken as settled
or not. All of these agree on every report, so the numbers that a command prints add up to the
reports that it looked at.

## Main statements

* `Command.tally_accounts`: what a tally says of its reports.
-/

namespace SourcePatch

namespace Command

variable {sets : List LoadedSet} {r : Root} {d : Disk} {tree : TreeOptions}
  {warnings : List Printed}

/-- What verifying prints of a tally leaves nothing out. -/
theorem verify_numbers (s : Summary) :
    s.settled + s.noMatch + (s.applied + s.failed) + s.skippedMissing = s.total := by
  simp only [Summary.settled, Summary.total]
  omega

/-- Verifying ends with the tally of the reports that it looked at. -/
theorem run_verify_summary (hprep : prepare d tree = .ok (sets, r, warnings)) (warns : Bool) :
    ∃ before, ((Command.verify tree).run warns d).printed = before ++
      verifySummary (.ofReports ((checkSets r tree.only d sets).flatMap Prod.snd)) := by
  rw [run, hprep]
  exact ⟨_, rfl⟩

/-- Every counter of a tally counts the reports that are shown with its status, and each report has
one of these. The reports that count as settled or as without a match are those that are settled,
and the exit code tells whether a patch failed. Tallies of several lists add up, whatever the order
of their reports. What verifying prints adds up to the reports that it looked at. -/
theorem tally_accounts (reports : List PatchReport) :
    let tally := Summary.ofReports reports
    (∀ set, ∀ c ∈ Summary.counters, c.2 tally =
      reports.countP fun report => (ReportLine.ofReport set report).status == c.1) ∧
    (∀ set, ∀ report ∈ reports,
      (ReportLine.ofReport set report).status ∈ Summary.counters.map Prod.fst) ∧
    tally.total = reports.length ∧
    tally.settled + tally.noMatch =
      reports.countP (fun report => report.result.toOption.any PatchResult.isSettled) ∧
    (tally.exitCode = 1 ↔ ∃ report ∈ reports, ∃ e, report.result = .error e) ∧
    (tally.exitCode = 0 ↔ ∀ report ∈ reports, ∃ result, report.result = .ok result) ∧
    (∀ more, Summary.ofReports (reports ++ more) = tally + Summary.ofReports more) ∧
    (∀ reordered, reports.Perm reordered → Summary.ofReports reordered = tally) ∧
    ∀ d tree sets r warnings warns, prepare d tree = .ok (sets, r, warnings) →
      let examined := (checkSets r tree.only d sets).flatMap Prod.snd
      let s := Summary.ofReports examined
      (∃ before, ((Command.verify tree).run warns d).printed = before ++
        [blankLine, resultLine "Summary:", countLine s.settled "verified",
          countLine s.noMatch "unconfirmed", countLine (s.applied + s.failed) "mismatch",
          countLine s.skippedMissing "skipped"]) ∧
      s.settled + s.noMatch + (s.applied + s.failed) + s.skippedMissing = examined.length := by
  intro tally
  refine ⟨fun set => Summary.counter_ofReports set reports,
    fun set report _ => ReportLine.status_mem_counters set report,
    Summary.total_ofReports reports, Summary.settled_ofReports reports, ?_,
    Summary.exitCode_eq_zero_iff, Summary.ofReports_append reports,
    fun reordered hperm => (Summary.ofReports_of_perm hperm).symm, ?_⟩
  · have hcode : tally.exitCode = 1 ↔ ¬ tally.exitCode = 0 := by
      rw [Summary.exitCode]
      split <;> simp
    rw [hcode, Summary.exitCode_eq_zero_iff]
    simp only [not_forall, exists_prop]
    refine exists_congr fun report => and_congr_right fun _ => ?_
    cases report.result <;> simp
  · intro d tree sets r warnings warns hprep
    refine ⟨run_verify_summary hprep warns, ?_⟩
    rw [verify_numbers, Summary.total_ofReports]

end Command

/-- A patch that was applied, one without a match, and one that failed. -/
def mixedReports : List PatchReport := [
  ⟨"one", "author", .ok (.applied (.ofString "f")), none⟩,
  ⟨"two", "rewrite", .ok (.skippedNoOp (.ofString "g") .noRuleMatched), none⟩,
  ⟨"three", "rewrite", .error (.rule .emptyRuleSet), none⟩]

/-- Three reports that come to three different counters, and a run of verifying that looks at one
patch, which has not been applied. -/
theorem tally_accounts_of_mixed :
    let tally := Summary.ofReports mixedReports
    (tally.applied = 1 ∧ tally.noMatch = 1 ∧ tally.failed = 1 ∧ tally.exitCode = 1) ∧
    (mixedReports.Perm mixedReports.reverse ∧
      Summary.ofReports mixedReports.reverse = tally) ∧
    Command.prepare .besideSet tailOptions = .ok ([twoPatchSet], ⟨["tree"]⟩, []) ∧
    ∃ before, ((Command.verify tailOptions).run false .besideSet).printed = before ++
      [Command.blankLine, Command.resultLine "Summary:", Command.countLine 0 "verified",
        Command.countLine 0 "unconfirmed", Command.countLine 1 "mismatch",
        Command.countLine 0 "skipped"] := by
  have hperm := (List.reverse_perm mixedReports).symm
  obtain ⟨-, -, -, -, hexit, -, -, hreordered, hverify⟩ := Command.tally_accounts mixedReports
  obtain ⟨hprinted, -⟩ := hverify .besideSet tailOptions _ _ _ false prepare_tailOptions
  have hfailed : ∃ report ∈ mixedReports, ∃ e, report.result = .error e :=
    ⟨⟨"three", "rewrite", .error (.rule .emptyRuleSet), none⟩, by simp [mixedReports], _, rfl⟩
  exact ⟨⟨rfl, rfl, rfl, hexit.2 hfailed⟩, ⟨hperm, hreordered _ hperm⟩, prepare_tailOptions,
    hprinted⟩

end SourcePatch
