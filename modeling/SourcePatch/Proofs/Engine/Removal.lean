import SourcePatch.Proofs.Engine.Effect
import SourcePatch.Proofs.Engine.SecondRun
import SourcePatch.Proofs.Rule.Removal

/-!
# Rules that remove, run over a file

Rules that put less in place than they take away leave nothing in a file of what they look for. So
they never find something and still change nothing, on the first run or on a later one.

## Main statements

* `removal_again`: nothing is left after a run, and what later runs report.
-/

namespace SourcePatch

section

variable {p : Patch} {rules : List Rule} {marker : Option String} {r : Root} {d d₁ : Disk}
  {res : PatchResult}

theorem noMatchReason_ne_unchanged (marker : Option String) (text : String) :
    noMatchReason marker text ≠ .unchanged := by
  unfold noMatchReason
  repeat' split
  all_goals simp

/-- Rules find nothing in a text of which nothing is left that they look for. -/
theorem transformText_of_absent {s : RuleSet} {text : String}
    (h : (s.presentIn text).isEmpty = true) (marker : Option String) (file : Path) :
    transformText s marker file text =
      .ok (.skip (.skippedNoOp file (noMatchReason marker text))) := if_pos h

/-- After rules that remove have run over a file, nothing of what they look for is left in it. No
later run finds something and changes nothing. Each of them reports that no rule found anything,
unless the first one wrote to an entry outside the tree. -/
theorem removal_again (hp : p.operation = .transform rules marker)
    (hremoves : ∀ rule ∈ rules, rule.Removes) (h : p.carryOut r d = (.ok res, d₁))
    (hfound : ∀ file, res ≠ .skippedMissing file) :
    ∃ text, readText d₁ (p.path r) = .ok (some text) ∧
      (∀ rule ∈ rules, ¬ rule.target.OccursIn text.toList) ∧
      (res = .applied (p.path r) ∨
        res = .skippedNoOp (p.path r) (noMatchReason marker text)) ∧
      (∀ n file, (p.carryOut r (p.rerun r n d₁)).1 ≠ .ok (.skippedNoOp file .unchanged)) ∧
      ((∀ n, (p.carryOut r (p.rerun r n d₁)).1 =
          .ok (.skippedNoOp (p.path r) (noMatchReason marker text))) ↔
        ∀ file, res = .applied file → r.HoldsEntry d file) := by
  obtain ⟨file, rfl, -⟩ | ⟨s, file, text, hc, hfix, hf, hread, hcases⟩ := transform_ran hp h
  · exact absurd rfl (hfound file)
  obtain rfl : file = p.path r := (Root.resolve_eq_ok_iff.1 hf).2.2.2
  obtain ⟨hnone, habsent⟩ := RuleSet.absent_of_fixed hc hremoves hfix
  have hskip := transformText_of_absent hnone marker (p.path r)
  have hreason := noMatchReason_ne_unchanged marker text
  refine ⟨text, readText_of_readBytes hread, habsent, ?_⟩
  obtain ⟨reason, rfl, rfl, htext⟩ | ⟨l, rfl, hover⟩ := hcases
  · rw [hskip] at htext
    cases htext
    refine ⟨.inr rfl, fun n file => ?_, fun _ => nofun, fun _ n => ?_⟩
    · rw [Patch.carryOut_rerun h]
      simpa using fun _ => hreason
    · rw [Patch.carryOut_rerun h]
  · have hplan := plan_second hp hc hover
    refine ⟨.inl rfl, ?_⟩
    by_cases hin : r.Contains l
    · rw [if_pos hin, hskip] at hplan
      have hrun := Patch.carryOut_of_skip hplan
      refine ⟨fun n file => ?_, fun _ file hfile => ?_, fun _ n => ?_⟩
      · rw [Patch.carryOut_rerun hrun]
        simpa using fun _ => hreason
      · cases hfile
        exact hover.holdsEntry_iff.2 hin
      · rw [Patch.carryOut_rerun hrun]
    · rw [if_neg hin] at hplan
      have hrun := Patch.carryOut_of_error hplan
      refine ⟨fun n file => ?_, fun hall => ?_, fun hheld => ?_⟩
      · rw [Patch.carryOut_rerun hrun]
        simp
      · have hfirst := (Patch.carryOut_rerun hrun 0).symm.trans (hall 0)
        cases hfirst
      · exact absurd (hover.holdsEntry_iff.1 (hheld _ rfl)) hin

end

/-- A literal and a block, of which nothing is to be left. -/
def removalRules : List Rule :=
  [⟨"word", .literal "abc", "c"⟩, ⟨"block", .block "f \x7b" 0, ""⟩]

def removalPatch : Patch := ⟨"remove", "f", none, .transform removalRules (some "c")⟩

def removalSet : RuleSet :=
  ⟨[⟨"word", .literal "abc" "c"⟩, ⟨"block", .verbatim (.ofBlock "f \x7b" 0) ""⟩]⟩

theorem compile_removalRules : RuleSet.compile removalRules = .ok removalSet := by
  have hblock : Rule.compile ⟨"block", .block "f \x7b" 0, ""⟩ =
      .ok ⟨"block", .verbatim (.ofBlock "f \x7b" 0) ""⟩ :=
    (Rule.compile_block rfl (by decide)).trans
      (if_neg (by rw [Regex.TooLarge, Regex.blockForm_eq]; decide))
  simp only [RuleSet.compile, removalRules, List.mapM_cons, List.mapM_nil, hblock]
  rfl

/-- What the first rule leaves is not what it looks for, and the second one takes the block out
between two characters. -/
theorem removal_again_of_block :
    let d := Disk.oneFile "abc\nf \x7b\n\x7dc"
    let d₁ := d.put ["tree", "f"] (.file "cc".toUTF8 0o644)
    removalPatch.carryOut ⟨["tree"]⟩ d = (.ok (.applied ⟨["", "tree", "f"]⟩), d₁) ∧
      (∀ rule ∈ removalRules, rule.Removes) ∧
      (∀ rule ∈ removalRules, ¬ rule.target.OccursIn "cc".toList) ∧
      ∀ n, (removalPatch.carryOut ⟨["tree"]⟩ (removalPatch.rerun ⟨["tree"]⟩ n d₁)).1 =
        .ok (.skippedNoOp ⟨["", "tree", "f"]⟩ .alreadyApplied) := by
  intro d d₁
  have hfirst : removalSet.apply "abc\nf \x7b\n\x7dc" = "cc" := by rfl
  have hsecond : removalSet.apply "cc" = "cc" := by rfl
  have hplan : removalPatch.plan ⟨["tree"]⟩ d =
      .ok (.write ⟨.ofCurrent ⟨["", "tree", "f"]⟩ "cc" (some "abc\nf \x7b\n\x7dc"),
        some "abc\nf \x7b\n\x7dc"⟩) := by
    have htext := transformText_of_changed (by rw [hfirst]; simp) (by rw [hfirst, hsecond])
      (some "c") ⟨["", "tree", "f"]⟩
    rw [hfirst] at htext
    refine (removalPatch.plan_transform rfl ⟨["tree"]⟩ d).trans ?_
    rw [compile_removalRules]
    exact (planTransform_of_text (by rfl) (by rfl) _ _).trans htext
  have hrun : removalPatch.carryOut ⟨["tree"]⟩ d = (.ok (.applied ⟨["", "tree", "f"]⟩), d₁) :=
    (Patch.carryOut_of_write hplan).trans (by rfl)
  have hremoves : ∀ rule ∈ removalRules, rule.Removes := by
    simp [removalRules, Rule.Removes]
    decide
  have hin : Root.HoldsEntry ⟨["tree"]⟩ d ⟨["", "tree", "f"]⟩ := ⟨["tree", "f"], by rfl, by decide⟩
  obtain ⟨text, hread, habsent, -, -, hagain⟩ := removal_again rfl hremoves hrun (by simp)
  have htext : readText d₁ (removalPatch.path ⟨["tree"]⟩) = .ok (some "cc") := by rfl
  obtain rfl : "cc" = text := by simpa [htext] using hread
  exact ⟨hrun, hremoves, habsent, hagain.2 fun file hfile => by cases hfile; exact hin⟩

/-- A patch of a file that is named through a link. -/
def escapingRemoval : Patch :=
  ⟨"remove", "escape/f", none, .transform [⟨"rule", .literal "a", ""⟩] none⟩

/-- Rules that removed something through a link out of the tree are refused when they run again. -/
theorem removal_refused_again :
    ¬ ∀ (p : Patch) (rules : List Rule) (marker : Option String) (r : Root) (d d₁ : Disk)
      (res : PatchResult), d.WellFormed → Root.ofPath d r.path = .ok r →
      p.operation = .transform rules marker → (∀ rule ∈ rules, rule.Removes) →
      p.carryOut r d = (.ok res, d₁) → (∀ file, res ≠ .skippedMissing file) →
      ∃ file reason, (p.carryOut r d₁).1 = .ok (.skippedNoOp file reason) ∧
        reason ≠ .unchanged := by
  intro hall
  have hrun : escapingRemoval.carryOut ⟨["tree"]⟩ .outAndBack =
      (.ok (.applied ⟨["", "tree", "escape", "f"]⟩),
        Disk.outAndBack.put ["outside", "f"] (.file "".toUTF8 0o644)) := by rfl
  have hrefused : (escapingRemoval.carryOut ⟨["tree"]⟩
      (Disk.outAndBack.put ["outside", "f"] (.file "".toUTF8 0o644))).1 =
      .error (.safety (.outsideTree ⟨["", "outside", "f"]⟩ ⟨["", "tree"]⟩)) := by rfl
  obtain ⟨file, reason, hok, -⟩ := hall escapingRemoval _ _ ⟨["tree"]⟩ .outAndBack _ _ (by decide)
    (by rfl) rfl (by simp [Rule.Removes]; decide) hrun (by simp)
  rw [hrefused] at hok
  cases hok

end SourcePatch
