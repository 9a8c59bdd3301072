import SourcePatch.Proofs.Engine.Rerun

/-!
# Rules that run again

Rules that wrote a file have been tried on what they wrote, so on a second run they find nothing to
change. This needs the second run to reach them: a target that is written through a link in a place
outside the tree is a file in that place afterwards, and is refused from then on.

## Main definitions

* `PatchResult.RepeatedBy`: what a second run is to report.

## Main statements

* `transform_again`: when rules that ran can run again, and that nothing changes if they do.
-/

namespace SourcePatch

/-- What rules are to report when they run again after `first`. -/
def PatchResult.RepeatedBy (first again : PatchResult) : Prop :=
  match first with
  | skippedMissing file => again = skippedMissing file
  | _ => ∃ reason, again = skippedNoOp first.file reason

section

variable {p : Patch} {rules : List Rule} {marker : Option String} {r : Root} {d d₁ : Disk}
  {res : PatchResult}

/-- Rules that ran have found no file, left one as it is because they change nothing in it, or
written what they leave as it is. -/
theorem transform_ran (hp : p.operation = .transform rules marker)
    (h : p.carryOut r d = (.ok res, d₁)) :
    (∃ file, res = .skippedMissing file ∧ d₁ = d) ∨
    ∃ s file text, RuleSet.compile rules = .ok s ∧ s.apply text = text ∧
      r.resolve d (.ofString p.file) = .ok file ∧ readBytes d₁ file = .ok (some text.toUTF8) ∧
      ((∃ reason, res = .skippedNoOp file reason ∧ d₁ = d ∧
          transformText s marker file text = .ok (.skip res)) ∨
        ∃ l, res = .applied file ∧ Overwrites r d (.ofString p.file) file l text d₁) := by
  have hplan := p.plan_transform hp r d
  cases hc : RuleSet.compile rules with
  | error e =>
    rw [hc] at hplan
    rw [Patch.carryOut_of_error hplan] at h
    cases h
  | ok s =>
    rw [hc] at hplan
    change _ = planTransform r d (.ofString p.file) s marker at hplan
    cases hw : planTransform r d (.ofString p.file) s marker with
    | error e => rw [Patch.carryOut_of_error (hplan.trans hw)] at h; cases h
    | ok plan =>
      obtain ⟨file, hf, ⟨hread, rfl⟩ | ⟨text, hread, htext⟩⟩ := planTransform_eq_ok hw
      · rw [Patch.carryOut_of_skip (hplan.trans hw)] at h
        cases h
        exact .inl ⟨file, rfl, rfl⟩
      · obtain ⟨⟨reason, rfl⟩, hfix⟩ | ⟨hne, hfix, rfl⟩ := transformText_eq_ok htext
        · rw [Patch.carryOut_of_skip (hplan.trans hw)] at h
          cases h
          exact .inr ⟨s, file, text, rfl, hfix, hf, hread, .inl ⟨reason, rfl, rfl, htext⟩⟩
        · rw [Patch.carryOut_of_write (hplan.trans hw)] at h
          obtain ⟨rfl, l, hover⟩ := overwrites_of_commit
            (w := ⟨.ofCurrent file (s.apply text) (some text), some text⟩) hf hread rfl
            (fun hsame => hne (toUTF8_injective hsame).symm) h
          exact .inr ⟨s, file, _, rfl, hfix, hf, hover.readBytes_again, .inr ⟨l, rfl, hover⟩⟩

/-- Rules that ran have left the disk as it was, or written what they leave as it is. -/
theorem transform_first (hp : p.operation = .transform rules marker)
    (h : p.carryOut r d = (.ok res, d₁)) :
    (d₁ = d ∧ res.RepeatedBy res ∧ ∀ file, res ≠ .applied file) ∨
    ∃ s file l new, RuleSet.compile rules = .ok s ∧ s.apply new = new ∧ res = .applied file ∧
      Overwrites r d (.ofString p.file) file l new d₁ := by
  obtain ⟨file, rfl, rfl⟩ |
    ⟨s, file, text, hc, hfix, -, -, ⟨reason, rfl, rfl, -⟩ | ⟨l, rfl, hover⟩⟩ := transform_ran hp h
  · exact .inl ⟨rfl, rfl, by simp⟩
  · exact .inl ⟨rfl, ⟨reason, rfl⟩, by simp⟩
  · exact .inr ⟨s, file, l, text, hc, hfix, rfl, hover⟩

/-- Rules that run again are tried on what they wrote, if the target is accepted again. -/
theorem plan_second {s : RuleSet} {file : Path} {l : Location} {new : String}
    (hp : p.operation = .transform rules marker) (hc : RuleSet.compile rules = .ok s)
    (h : Overwrites r d (.ofString p.file) file l new d₁) :
    p.plan r d₁ = if r.Contains l then transformText s marker file new
      else .error (.safety (.outsideTree (.ofNames l) r.path)) := by
  have hplan := p.plan_transform hp r d₁
  rw [hc] at hplan
  have hf := h.resolve_again
  by_cases hin : r.Contains l
  · rw [if_pos hin] at hf ⊢
    exact hplan.trans (planTransform_of_text hf h.readBytes_again s marker)
  · rw [if_neg hin] at hf ⊢
    exact hplan.trans (planTransform_of_refused hf s marker)

/-- Rules find nothing to change in what they leave as it is, if the target is accepted again. -/
theorem transform_second {s : RuleSet} {file : Path} {l : Location} {new : String}
    (hp : p.operation = .transform rules marker) (hc : RuleSet.compile rules = .ok s)
    (hfix : s.apply new = new) (h : Overwrites r d (.ofString p.file) file l new d₁) :
    (r.Contains l ∧ ∃ reason, p.carryOut r d₁ = (.ok (.skippedNoOp file reason), d₁)) ∨
      ¬ r.Contains l ∧ ∃ err, p.carryOut r d₁ = (.error err, d₁) := by
  have hplan := plan_second hp hc h
  by_cases hin : r.Contains l
  · rw [if_pos hin] at hplan
    obtain ⟨reason, hskip⟩ := transformText_of_fixed hfix marker file
    exact .inl ⟨hin, reason, Patch.carryOut_of_skip (hplan.trans hskip)⟩
  · rw [if_neg hin] at hplan
    exact .inr ⟨hin, _, Patch.carryOut_of_error hplan⟩

/-- After rules ran, no later run changes anything. Each of them succeeds, without writing, unless
the first one wrote to an entry outside the tree. -/
theorem transform_again (hp : p.operation = .transform rules marker)
    (h : p.carryOut r d = (.ok res, d₁)) :
    (∀ n, p.rerun r n d₁ = d₁) ∧
    ((∀ n, ∃ again, (p.carryOut r (p.rerun r n d₁)).1 = .ok again ∧ res.RepeatedBy again) ↔
      ∀ file, res = .applied file → r.HoldsEntry d file) := by
  obtain ⟨rfl, hrep, hnot⟩ | ⟨s, file, l, new, hc, hnew, rfl, hover⟩ := transform_first hp h
  · have hfix := Patch.rerun_of_fixed h
    refine ⟨hfix, fun _ file hfile => absurd hfile (hnot file), fun _ n => ⟨res, ?_, hrep⟩⟩
    rw [hfix, h]
  · obtain ⟨hin, reason, hrun⟩ | ⟨hout, err, hrun⟩ := transform_second hp hc hnew hover
    · have hfix := Patch.rerun_of_fixed hrun
      refine ⟨hfix, fun _ f hf => ?_, fun _ n => ⟨.skippedNoOp file reason, ?_, reason, rfl⟩⟩
      · cases hf
        exact hover.holdsEntry_iff.2 hin
      · rw [hfix, hrun]
    · have hfix := Patch.rerun_of_fixed hrun
      refine ⟨hfix, fun hall => ?_, fun hheld => ?_⟩
      · obtain ⟨again, hok, -⟩ := hall 0
        rw [Patch.rerun, hrun] at hok
        cases hok
      · exact absurd (hover.holdsEntry_iff.1 (hheld file rfl)) hout

end

/-- Two rules that undo each other. -/
def swapPatch : Patch :=
  ⟨"swap", "f", none, .transform [⟨"down", .literal "c", "b"⟩, ⟨"up", .literal "b", "c"⟩] none⟩

/-- Both rules still find something in what they wrote, and yet they run again. -/
theorem transform_again_of_swap :
    swapPatch.carryOut ⟨["tree"]⟩ (.oneFile "b c") = (.ok (.applied ⟨["", "tree", "f"]⟩),
      (Disk.oneFile "b c").put ["tree", "f"] (.file "c c".toUTF8 0o644)) ∧
    (∀ n, swapPatch.rerun ⟨["tree"]⟩ n
        ((Disk.oneFile "b c").put ["tree", "f"] (.file "c c".toUTF8 0o644)) =
      (Disk.oneFile "b c").put ["tree", "f"] (.file "c c".toUTF8 0o644)) ∧
    ∀ n, ∃ reason, (swapPatch.carryOut ⟨["tree"]⟩ (swapPatch.rerun ⟨["tree"]⟩ n
        ((Disk.oneFile "b c").put ["tree", "f"] (.file "c c".toUTF8 0o644)))).1 =
      .ok (.skippedNoOp ⟨["", "tree", "f"]⟩ reason) := by
  have hrun : swapPatch.carryOut ⟨["tree"]⟩ (.oneFile "b c") =
      (.ok (.applied ⟨["", "tree", "f"]⟩),
        (Disk.oneFile "b c").put ["tree", "f"] (.file "c c".toUTF8 0o644)) := by rfl
  have hin : Root.HoldsEntry ⟨["tree"]⟩ (.oneFile "b c") ⟨["", "tree", "f"]⟩ :=
    ⟨["tree", "f"], by rfl, by decide⟩
  obtain ⟨hfix, hagain⟩ := transform_again (p := swapPatch) rfl hrun
  refine ⟨hrun, hfix, fun n => ?_⟩
  obtain ⟨again, hok, reason, rfl⟩ := hagain.2 (fun file hfile => by cases hfile; exact hin) n
  exact ⟨reason, hok⟩

/-- A patch of a file that is named through a link. -/
def escapingPatch : Patch :=
  ⟨"rewrite", "escape/f", none, .transform [⟨"rule", .literal "a", "b"⟩] none⟩

/-- Rules that wrote through a link out of the tree are refused when they run again. -/
theorem transform_refused_again :
    ¬ ∀ (p : Patch) (rules : List Rule) (marker : Option String) (r : Root) (d d₁ : Disk)
      (res : PatchResult), d.WellFormed → Root.ofPath d r.path = .ok r →
      p.operation = .transform rules marker → p.carryOut r d = (.ok res, d₁) →
      ∃ again, (p.carryOut r d₁).1 = .ok again ∧ res.RepeatedBy again := by
  intro hall
  have hrun : escapingPatch.carryOut ⟨["tree"]⟩ .outAndBack =
      (.ok (.applied ⟨["", "tree", "escape", "f"]⟩),
        Disk.outAndBack.put ["outside", "f"] (.file "b".toUTF8 0o644)) := by rfl
  have hrefused : (escapingPatch.carryOut ⟨["tree"]⟩
      (Disk.outAndBack.put ["outside", "f"] (.file "b".toUTF8 0o644))).1 =
      .error (.safety (.outsideTree ⟨["", "outside", "f"]⟩ ⟨["", "tree"]⟩)) := by rfl
  obtain ⟨again, hok, -⟩ :=
    hall escapingPatch _ _ ⟨["tree"]⟩ .outAndBack _ _ (by decide) (by rfl) rfl hrun
  rw [hrefused] at hok
  cases hok

end SourcePatch
