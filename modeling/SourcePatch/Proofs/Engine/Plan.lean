import SourcePatch.PatchSet.Run
import SourcePatch.Proofs.Edit.Replace
import SourcePatch.Proofs.Edit.Verification
import SourcePatch.Proofs.Rule.Set
import SourcePatch.Proofs.Tree.Target

/-!
# What plans are made of

A plan depends on a disk in two ways: on where the target may be, and on the bytes that are read
there. Each kind of patch makes of these bytes a write or a reason for none.

## Main definitions

* `Patch.carryOut`: a patch planned, and the plan carried out at once.
-/

namespace SourcePatch

/-- Plans a patch and carries the plan out on the same disk. -/
def Patch.carryOut (p : Patch) (r : Root) (d : Disk) : Except EngineError PatchResult × Disk :=
  commitPlan (p.plan r d) r d

namespace Patch

variable {p : Patch} {r : Root} {d : Disk}

theorem carryOut_of_skip {res : PatchResult} (h : p.plan r d = .ok (.skip res)) :
    p.carryOut r d = (.ok res, d) := by
  rw [carryOut, h]
  rfl

theorem carryOut_of_error {err : EngineError} (h : p.plan r d = .error err) :
    p.carryOut r d = (.error err, d) := by
  rw [carryOut, h]
  rfl

theorem carryOut_of_write {w : PlannedWrite} (h : p.plan r d = .ok (.write w)) :
    p.carryOut r d = (Plan.write w).commit r d := by
  rw [carryOut, h]
  rfl

end Patch

variable {r : Root} {d : Disk} {target : Path} {plan : Plan}

theorem bind_eq_ok {ε α β : Type} {x : Except ε α} {f : α → Except ε β} {b : β} :
    x.bind f = .ok b ↔ ∃ a, x = .ok a ∧ f a = .ok b := by
  cases x <;> simp [Except.bind]

/-! ## The three kinds -/

/-- What is written over a file that holds `current`. -/
def authorBytes (content : String) (file : Path) (current : Option ByteArray) : Plan :=
  if current = some content.toUTF8 then .skip (.unchanged file)
  else .write ⟨⟨file, content, .ofCurrent current⟩, current.map Decoding.lossy⟩

theorem planAuthor_eq (r : Root) (d : Disk) (target : Path) (content : String) :
    planAuthor r d target content =
      ((r.resolve d target).mapError .safety).bind fun file =>
        ((readBytes d file).mapError .edit).bind fun current =>
          .ok (authorBytes content file current) := by
  unfold planAuthor resolveTarget authorBytes
  cases r.resolve d target with
  | error e => rfl
  | ok file =>
    simp only [Except.mapError, bind, Except.bind]
    cases readBytes d file with
    | error e => rfl
    | ok current => dsimp only; split <;> rfl

theorem planAuthor_of_read {file : Path} {current : Option ByteArray}
    (h : r.resolve d target = .ok file) (hread : readBytes d file = .ok current)
    (content : String) :
    planAuthor r d target content = .ok (authorBytes content file current) := by
  rw [planAuthor_eq, h, Except.mapError, Except.bind, hread]
  rfl

/-- What rules make of a file that holds `text`. -/
def transformText (rules : RuleSet) (appliedMarker : Option String) (file : Path) (text : String) :
    Except EngineError Plan :=
  if (rules.presentIn text).isEmpty then
    .ok (.skip (.skippedNoOp file (noMatchReason appliedMarker text)))
  else if rules.apply text = text then .ok (.skip (.skippedNoOp file .unchanged))
  else ((rules.checkIdempotent (rules.apply text)).mapError .rule).bind fun _ =>
    .ok (.write ⟨.ofCurrent file (rules.apply text) (some text), some text⟩)

theorem planTransform_eq (r : Root) (d : Disk) (target : Path) (rules : RuleSet)
    (appliedMarker : Option String) :
    planTransform r d target rules appliedMarker =
      ((r.resolve d target).mapError .safety).bind fun file =>
        ((readText d file).mapError .edit).bind fun
          | none => .ok (.skip (.skippedMissing file))
          | some text => transformText rules appliedMarker file text := by
  unfold planTransform resolveTarget transformText
  cases r.resolve d target with
  | error e => rfl
  | ok file =>
    simp only [Except.mapError, bind, Except.bind]
    cases readText d file with
    | error e => rfl
    | ok text =>
      cases text with
      | none => rfl
      | some text =>
        dsimp only
        split
        · rfl
        · split <;> rfl

theorem planTransform_of_refused {err : SafetyError} (h : r.resolve d target = .error err)
    (rules : RuleSet) (appliedMarker : Option String) :
    planTransform r d target rules appliedMarker = .error (.safety err) := by
  rw [planTransform_eq, h]
  rfl

theorem planTransform_of_text {file : Path} {text : String} (h : r.resolve d target = .ok file)
    (ht : readBytes d file = .ok (some text.toUTF8)) (rules : RuleSet)
    (appliedMarker : Option String) :
    planTransform r d target rules appliedMarker =
      transformText rules appliedMarker file text := by
  rw [planTransform_eq, h, Except.mapError, Except.bind, readText_of_readBytes ht]
  rfl

/-- Rules write what they make of a text if a second pass leaves it as it is. -/
theorem transformText_of_changed {rules : RuleSet} {text : String} (hne : rules.apply text ≠ text)
    (htwice : rules.apply (rules.apply text) = rules.apply text) (appliedMarker : Option String)
    (file : Path) : transformText rules appliedMarker file text =
      .ok (.write ⟨.ofCurrent file (rules.apply text) (some text), some text⟩) := by
  have hpresent : ¬ (rules.presentIn text).isEmpty = true := fun hnone =>
    hne (RuleSet.apply_of_presentIn_isEmpty hnone)
  rw [transformText, if_neg hpresent, if_neg hne, RuleSet.checkIdempotent_eq_ok_iff.2 htwice]
  rfl

/-- What an append makes of a file that holds `text`. -/
def appendText (marker fragment : String) (file : Path) (text : String) : Plan :=
  if Literal.occursIn marker text then .skip (.skippedPresent file)
  else .write ⟨.ofCurrent file (joinFragment text fragment) (some text), some text⟩

theorem planAppend_eq (r : Root) (d : Disk) (target : Path) (marker fragment : String) :
    planAppend r d target marker fragment =
      ((r.resolve d target).mapError .safety).bind fun file =>
        ((readText d file).mapError .edit).bind fun
          | none => .ok (.skip (.skippedMissing file))
          | some text => .ok (appendText marker fragment file text) := by
  unfold planAppend resolveTarget appendText
  cases r.resolve d target with
  | error e => rfl
  | ok file =>
    simp only [Except.mapError, bind, Except.bind]
    cases readText d file with
    | error e => rfl
    | ok text =>
      cases text with
      | none => rfl
      | some text => dsimp only; split <;> rfl

theorem planAppend_of_refused {err : SafetyError} (h : r.resolve d target = .error err)
    (marker fragment : String) :
    planAppend r d target marker fragment = .error (.safety err) := by
  rw [planAppend_eq, h]
  rfl

theorem planAppend_of_text {file : Path} {text : String} (h : r.resolve d target = .ok file)
    (ht : readBytes d file = .ok (some text.toUTF8)) (marker fragment : String) :
    planAppend r d target marker fragment = .ok (appendText marker fragment file text) := by
  rw [planAppend_eq, h, Except.mapError, Except.bind, readText_of_readBytes ht]
  rfl

/-! ## From a patch to its kind -/

namespace Patch

variable {p : Patch}

theorem plan_author {content : String} (hp : p.operation = .author content) (r : Root) (d : Disk) :
    p.plan r d = planAuthor r d (.ofString p.file) content := by
  unfold plan
  rw [hp]

theorem plan_transform {rules : List Rule} {marker : Option String}
    (hp : p.operation = .transform rules marker) (r : Root) (d : Disk) :
    p.plan r d = ((RuleSet.compile rules).mapError .rule).bind fun rules =>
      planTransform r d (.ofString p.file) rules marker := by
  unfold plan
  rw [hp]
  dsimp only
  cases RuleSet.compile rules <;> rfl

theorem plan_append {marker fragment : String}
    (hp : p.operation = .appendGuarded marker fragment) (r : Root) (d : Disk) :
    p.plan r d = planAppend r d (.ofString p.file) marker fragment := by
  unfold plan
  rw [hp]

/-- Whatever its kind, a patch of a target that is refused has no plan. -/
theorem plan_of_refused {e : SafetyError} (h : r.resolve d (.ofString p.file) = .error e) :
    ∃ err, p.plan r d = .error err := by
  unfold plan
  split
  · exact ⟨_, by rw [planAuthor_eq, h]; rfl⟩
  · split
    · exact ⟨_, rfl⟩
    · exact ⟨_, planTransform_of_refused h _ _⟩
  · exact ⟨_, planAppend_of_refused h _ _⟩

end Patch

/-- A plan is made of where the target is and of the bytes that are read there. -/
theorem Patch.plan_congr {p : Patch} {d' : Disk}
    (hf : r.resolve d' (.ofString p.file) = r.resolve d (.ofString p.file))
    (hread : ∀ file, r.resolve d (.ofString p.file) = .ok file →
      readBytes d' file = readBytes d file) : p.plan r d' = p.plan r d := by
  have htext : ∀ file, r.resolve d (.ofString p.file) = .ok file →
      readText d' file = readText d file := fun file h => by rw [readText, readText, hread file h]
  unfold plan
  cases hres : r.resolve d (.ofString p.file) with
  | error err =>
    rw [hres] at hf
    split
    · rw [planAuthor_eq, planAuthor_eq, hf, hres]
      rfl
    · split
      · rfl
      · rw [planTransform_of_refused hf, planTransform_of_refused hres]
    · rw [planAppend_of_refused hf, planAppend_of_refused hres]
  | ok file =>
    rw [hres] at hf
    split
    · rw [planAuthor_eq, planAuthor_eq, hf, hres]
      simp only [Except.mapError, Except.bind, hread file hres]
    · split
      · rfl
      · rw [planTransform_eq, planTransform_eq, hf, hres]
        simp only [Except.mapError, Except.bind, htext file hres]
    · rw [planAppend_eq, planAppend_eq, hf, hres]
      simp only [Except.mapError, Except.bind, htext file hres]

/-! ## From a plan to what was read -/

theorem planAuthor_eq_ok {content : String} (h : planAuthor r d target content = .ok plan) :
    ∃ file current, r.resolve d target = .ok file ∧ readBytes d file = .ok current ∧
      plan = authorBytes content file current := by
  simp only [planAuthor_eq, bind_eq_ok, mapError_eq_ok] at h
  obtain ⟨file, hf, current, hc, hplan⟩ := h
  cases hplan
  exact ⟨file, current, hf, hc, rfl⟩

theorem planTransform_eq_ok {rules : RuleSet} {appliedMarker : Option String}
    (h : planTransform r d target rules appliedMarker = .ok plan) :
    ∃ file, r.resolve d target = .ok file ∧
      ((readBytes d file = .ok none ∧ plan = .skip (.skippedMissing file)) ∨
        ∃ text, readBytes d file = .ok (some text.toUTF8) ∧
          transformText rules appliedMarker file text = .ok plan) := by
  simp only [planTransform_eq, bind_eq_ok, mapError_eq_ok] at h
  obtain ⟨file, hf, text, ht, hplan⟩ := h
  have hread := readText_eq_ok ht
  refine ⟨file, hf, ?_⟩
  cases text with
  | none => cases hplan; exact .inl ⟨hread, rfl⟩
  | some text => exact .inr ⟨text, hread, hplan⟩

theorem planAppend_eq_ok {marker fragment : String}
    (h : planAppend r d target marker fragment = .ok plan) :
    ∃ file, r.resolve d target = .ok file ∧
      ((readBytes d file = .ok none ∧ plan = .skip (.skippedMissing file)) ∨
        ∃ text, readBytes d file = .ok (some text.toUTF8) ∧
          plan = appendText marker fragment file text) := by
  simp only [planAppend_eq, bind_eq_ok, mapError_eq_ok] at h
  obtain ⟨file, hf, text, ht, hplan⟩ := h
  have hread := readText_eq_ok ht
  refine ⟨file, hf, ?_⟩
  cases text with
  | none => cases hplan; exact .inl ⟨hread, rfl⟩
  | some text => cases hplan; exact .inr ⟨text, hread, rfl⟩

/-- Rules write only what a second pass leaves as it is. -/
theorem transformText_eq_ok {rules : RuleSet} {appliedMarker : Option String} {file : Path}
    {text : String} (h : transformText rules appliedMarker file text = .ok plan) :
    (∃ reason, plan = .skip (.skippedNoOp file reason)) ∧ rules.apply text = text ∨
      rules.apply text ≠ text ∧ rules.apply (rules.apply text) = rules.apply text ∧
        plan = .write ⟨.ofCurrent file (rules.apply text) (some text), some text⟩ := by
  unfold transformText at h
  split at h
  · next hnone =>
    cases h
    exact .inl ⟨⟨_, rfl⟩, RuleSet.apply_of_presentIn_isEmpty hnone⟩
  · split at h
    · next hfix =>
      cases h
      exact .inl ⟨⟨_, rfl⟩, hfix⟩
    · next hne =>
      simp only [bind_eq_ok, mapError_eq_ok] at h
      obtain ⟨u, hc, hplan⟩ := h
      cases hplan
      exact .inr ⟨hne, RuleSet.checkIdempotent_eq_ok_iff.1 hc, rfl⟩

theorem transformText_of_fixed {rules : RuleSet} {text : String} (h : rules.apply text = text)
    (appliedMarker : Option String) (file : Path) :
    ∃ reason, transformText rules appliedMarker file text =
      .ok (.skip (.skippedNoOp file reason)) := by
  by_cases hp : (rules.presentIn text).isEmpty = true
  · exact ⟨_, if_pos hp⟩
  · exact ⟨.unchanged, (if_neg hp).trans (if_pos h)⟩

/-- What is planned for the bytes that were read: nothing, or a write over them. Only whole files
are written where there was none. -/
theorem Patch.plan_eq_ok {p : Patch} (h : p.plan r d = .ok plan) :
    ∃ file current, r.resolve d (.ofString p.file) = .ok file ∧ readBytes d file = .ok current ∧
      ((∃ res, plan = .skip res ∧ ∀ file, res ≠ .applied file) ∨
      ∃ text, plan = .write ⟨⟨file, text, .ofCurrent current⟩, current.map Decoding.lossy⟩ ∧
        (current = none → ∃ content, p.operation = .author content)) := by
  unfold Patch.plan at h
  split at h
  · next content hop =>
    obtain ⟨file, current, hf, hc, rfl⟩ := planAuthor_eq_ok h
    refine ⟨file, current, hf, hc, ?_⟩
    unfold authorBytes
    split
    · exact .inl ⟨_, rfl, by simp⟩
    · exact .inr ⟨_, rfl, fun _ => ⟨content, hop⟩⟩
  · split at h
    · cases h
    · next s _ =>
      obtain ⟨file, hf, ⟨hread, rfl⟩ | ⟨text, hread, hplan⟩⟩ := planTransform_eq_ok h
      · exact ⟨file, _, hf, hread, .inl ⟨_, rfl, by simp⟩⟩
      · obtain ⟨⟨reason, rfl⟩, -⟩ | ⟨-, -, rfl⟩ := transformText_eq_ok hplan
        · exact ⟨file, _, hf, hread, .inl ⟨_, rfl, by simp⟩⟩
        · refine ⟨file, _, hf, hread, .inr ⟨s.apply text, ?_, by simp⟩⟩
          rw [Option.map_some, lossy_toUTF8]
          rfl
  · next marker fragment hop =>
    obtain ⟨file, hf, ⟨hread, rfl⟩ | ⟨text, hread, rfl⟩⟩ := planAppend_eq_ok h
    · exact ⟨file, _, hf, hread, .inl ⟨_, rfl, by simp⟩⟩
    · refine ⟨file, _, hf, hread, ?_⟩
      unfold appendText
      split
      · exact .inl ⟨_, rfl, by simp⟩
      · refine .inr ⟨joinFragment text fragment, ?_, by simp⟩
        rw [Option.map_some, lossy_toUTF8]
        rfl

/-- Every write is planned for the bytes that were read. -/
theorem Patch.plan_write {p : Patch} {w : PlannedWrite} (h : p.plan r d = .ok (.write w)) :
    ∃ current, r.resolve d (.ofString p.file) = .ok w.edit.file ∧
      readBytes d w.edit.file = .ok current ∧ w.edit.expected = .ofCurrent current ∧
      (current = none → ∃ content, p.operation = .author content) := by
  obtain ⟨file, current, hf, hc, ⟨res, hskip, -⟩ | ⟨text, hw, hnew⟩⟩ := plan_eq_ok h
  · cases hskip
  · cases hw
    exact ⟨current, hf, hc, rfl, hnew⟩

/-- What is shown of the target as it was is the text of these bytes. -/
theorem Patch.previous_eq {p : Patch} {w : PlannedWrite} {current : Option ByteArray}
    (h : p.plan r d = .ok (.write w)) (hread : readBytes d w.edit.file = .ok current) :
    w.previous = current.map Decoding.lossy := by
  obtain ⟨file, current', -, hread', ⟨res, hskip, -⟩ | ⟨text, hw, -⟩⟩ := plan_eq_ok h
  · cases hskip
  · cases hw
    cases hread.symm.trans hread'
    rfl

/-! ## What is written -/

section

variable {w : PlannedWrite}

theorem planAuthor_write {content : String} (h : planAuthor r d target content = .ok (.write w)) :
    w.edit.newText = content ∧ readBytes d w.edit.file ≠ .ok (some content.toUTF8) := by
  obtain ⟨file, current, -, hread, hw⟩ := planAuthor_eq_ok h
  unfold authorBytes at hw
  split at hw
  · cases hw
  · next hne =>
    cases hw
    exact ⟨rfl, by simpa [hread] using hne⟩

/-- Rules write what they leave as it is, over what they do not. -/
theorem planTransform_write {rules : RuleSet} {appliedMarker : Option String}
    (h : planTransform r d target rules appliedMarker = .ok (.write w)) :
    rules.apply w.edit.newText = w.edit.newText ∧
      ∃ text, readBytes d w.edit.file = .ok (some text.toUTF8) ∧ rules.apply text ≠ text := by
  obtain ⟨file, -, ⟨-, hskip⟩ | ⟨text, hread, htext⟩⟩ := planTransform_eq_ok h
  · cases hskip
  obtain ⟨⟨reason, hskip⟩, -⟩ | ⟨hne, hfix, hw⟩ := transformText_eq_ok htext
  · cases hskip
  cases hw
  exact ⟨hfix, text, hread, hne⟩

theorem planAppend_write {marker fragment : String}
    (h : planAppend r d target marker fragment = .ok (.write w)) :
    ∃ text, readBytes d w.edit.file = .ok (some text.toUTF8) ∧
      Literal.occursIn marker text = false ∧ w.edit.newText = joinFragment text fragment := by
  obtain ⟨file, -, ⟨-, hskip⟩ | ⟨text, hread, hw⟩⟩ := planAppend_eq_ok h
  · cases hskip
  unfold appendText at hw
  split at hw
  · cases hw
  · next hnot =>
    cases hw
    exact ⟨text, hread, by simpa using hnot, rfl⟩

end

/-- What is left undone is not called applied. -/
theorem Patch.plan_ne_skip_applied (p : Patch) (r : Root) (d : Disk) (file : Path) :
    p.plan r d ≠ .ok (.skip (.applied file)) := by
  intro h
  obtain ⟨target, current, -, -, ⟨res, hskip, hne⟩ | ⟨text, hw, -⟩⟩ := plan_eq_ok h
  · cases hskip
    exact hne _ rfl
  · cases hw

end SourcePatch
