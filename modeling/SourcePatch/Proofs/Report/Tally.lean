import Mathlib.Algebra.BigOperators.Group.List.Basic
import SourcePatch.Report.Run

/-!
# Tallies as sums

A tally adds up, counter by counter, what single reports count for. So it does not matter in which
order reports come, and whatever is a sum of counters counts the reports that it counts one by one.

## Main definitions

* `Summary.one`: what a single outcome counts for.
* `Summary.counters`: the counters of a tally, by the status in which a line shows what they count.

## Main statements

* `Summary.ofReports_eq_sum`: a tally is a sum over its reports.
* `Summary.eq_countP`: a sum of counters counts reports.
-/

namespace SourcePatch

namespace Summary

/-! ## Adding tallies -/

instance : Add Summary where
  add s t := ⟨s.applied + t.applied, s.unchanged + t.unchanged,
    s.skippedMissing + t.skippedMissing, s.skippedPresent + t.skippedPresent,
    s.skippedNoOp + t.skippedNoOp, s.noMatch + t.noMatch, s.failed + t.failed⟩

instance : Zero Summary := ⟨empty⟩

theorem add_def (s t : Summary) : s + t = ⟨s.applied + t.applied, s.unchanged + t.unchanged,
    s.skippedMissing + t.skippedMissing, s.skippedPresent + t.skippedPresent,
    s.skippedNoOp + t.skippedNoOp, s.noMatch + t.noMatch, s.failed + t.failed⟩ := rfl

theorem zero_def : (0 : Summary) = ⟨0, 0, 0, 0, 0, 0, 0⟩ := rfl

instance : AddCommMonoid Summary where
  add_assoc s t u := by simp only [add_def, Nat.add_assoc]
  zero_add s := by simp only [add_def, zero_def, Nat.zero_add]
  add_zero s := by simp only [add_def, zero_def, Nat.add_zero]
  add_comm s t := by simp only [add_def, Nat.add_comm]
  nsmul := nsmulRec

/-- What a single outcome counts for. -/
def one (outcome : Except EngineError PatchResult) : Summary := empty.record outcome

theorem record_eq_add (s : Summary) (outcome : Except EngineError PatchResult) :
    s.record outcome = s + one outcome := by
  rcases outcome with e | _ | _ | _ | _ | ⟨_, _ | _ | _⟩ <;> rfl

variable {reports : List PatchReport}

/-- A tally is the sum of what its reports count for. -/
theorem ofReports_eq_sum (reports : List PatchReport) :
    ofReports reports = (reports.map fun report => one report.result).sum := by
  have hfoldl (s : Summary) : reports.foldl (fun s report => s.record report.result) s =
      s + (reports.map fun report => one report.result).sum := by
    induction reports generalizing s with
    | nil => exact (add_zero s).symm
    | cons report rest ih =>
      rw [List.foldl_cons, ih, record_eq_add, List.map_cons, List.sum_cons, add_assoc]
  exact (hfoldl 0).trans (zero_add _)

theorem ofReports_append (reports more : List PatchReport) :
    ofReports (reports ++ more) = ofReports reports + ofReports more := by
  rw [ofReports_eq_sum, List.map_append, List.sum_append, ← ofReports_eq_sum, ← ofReports_eq_sum]

theorem ofReports_of_perm {more : List PatchReport} (h : reports.Perm more) :
    ofReports reports = ofReports more := by
  rw [ofReports_eq_sum, ofReports_eq_sum, (h.map _).sum_eq]

/-! ## What tallies count -/

/-- A sum of counters counts the reports that it counts one by one. -/
theorem eq_countP {c : Summary → Nat} {p : PatchReport → Bool}
    (hadd : ∀ s t, c (s + t) = c s + c t)
    (hone : ∀ report, c (one report.result) = if p report then 1 else 0)
    (reports : List PatchReport) : c (ofReports reports) = reports.countP p := by
  have hzero : c 0 = 0 := by
    have h := hadd 0 0
    rw [add_zero] at h
    omega
  rw [ofReports_eq_sum]
  induction reports with
  | nil => exact hzero
  | cons report rest ih =>
    rw [List.map_cons, List.sum_cons, hadd, ih, hone, List.countP_cons, Nat.add_comm]

/-- The counters of a tally, by the status in which a line shows what they count. -/
def counters : List (String × (Summary → Nat)) :=
  [("applied", applied), ("unchanged", unchanged), ("skipped-missing", skippedMissing),
    ("skipped-present", skippedPresent), ("skipped-noop", skippedNoOp), ("no-match", noMatch),
    ("failed", failed)]

end Summary

theorem ReportLine.status_ofReport (set : String) (report : PatchReport) :
    (ofReport set report).status = match report.result with
      | .ok result => result.label
      | .error _ => "failed" := by
  rw [ofReport]
  cases report.result <;> rfl

/-- The status of a line is one of those for which there is a counter. -/
theorem ReportLine.status_mem_counters (set : String) (report : PatchReport) :
    (ofReport set report).status ∈ Summary.counters.map Prod.fst := by
  rw [status_ofReport]
  rcases report.result with e | _ | _ | _ | _ | ⟨_, _ | _ | _⟩ <;>
    simp [Summary.counters, PatchResult.label]

namespace Summary

theorem one_counters (set : String) (report : PatchReport) :
    ∀ c ∈ counters, c.2 (one report.result) =
      if (ReportLine.ofReport set report).status == c.1 then 1 else 0 := by
  rw [ReportLine.status_ofReport]
  simp only [counters, List.forall_mem_cons]
  rcases report.result with e | _ | _ | _ | _ | ⟨_, _ | _ | _⟩ <;>
    exact ⟨rfl, rfl, rfl, rfl, rfl, rfl, rfl, List.forall_mem_nil _⟩

/-- Each counter counts the reports that are shown with its status. -/
theorem counter_ofReports (set : String) (reports : List PatchReport) :
    ∀ c ∈ counters, c.2 (ofReports reports) =
      reports.countP fun report => (ReportLine.ofReport set report).status == c.1 := by
  intro c hc
  refine eq_countP (fun s t => ?_) (fun report => one_counters set report c hc) reports
  simp only [counters, List.mem_cons, List.not_mem_nil, or_false] at hc
  obtain rfl | rfl | rfl | rfl | rfl | rfl | rfl := hc <;> rfl

theorem total_ofReports (reports : List PatchReport) :
    (ofReports reports).total = reports.length := by
  rw [← List.countP_true]
  refine eq_countP (fun s t => ?_) (fun report => ?_) reports
  · simp only [total, add_def]
    omega
  · rcases report.result with e | _ | _ | _ | _ | ⟨_, _ | _ | _⟩ <;> rfl

/-- A patch that is settled is counted as such, or else no rule of it matched. -/
theorem settled_ofReports (reports : List PatchReport) :
    (ofReports reports).settled + (ofReports reports).noMatch =
      reports.countP fun report => report.result.toOption.any PatchResult.isSettled := by
  refine eq_countP (c := fun s => s.settled + s.noMatch) (fun s t => ?_) (fun report => ?_)
    reports
  · simp only [settled, add_def]
    omega
  · rcases report.result with e | _ | _ | _ | _ | ⟨_, _ | _ | _⟩ <;> rfl

theorem applied_eq_countP (reports : List PatchReport) : (ofReports reports).applied =
    reports.countP fun report => report.result.toOption.any fun res => res matches .applied _ := by
  refine eq_countP (fun _ _ => rfl) (fun report => ?_) reports
  rcases report.result with e | _ | _ | _ | _ | ⟨_, _ | _ | _⟩ <;> rfl

theorem failed_eq_countP (reports : List PatchReport) :
    (ofReports reports).failed = reports.countP fun report => !report.result.isOk := by
  refine eq_countP (fun _ _ => rfl) (fun report => ?_) reports
  rcases report.result with e | _ | _ | _ | _ | ⟨_, _ | _ | _⟩ <;> rfl

end Summary

end SourcePatch
