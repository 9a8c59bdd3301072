import SourcePatch.Proofs.Engine.Refinement
import SourcePatch.Proofs.Tree.Standing

/-!
# Why patches fail

A patch fails when it is planned or when its plan is carried out. There is no plan if the target is
refused or cannot be read, or if the rules cannot run or would run again. A plan cannot be carried
out if its directories or its file cannot be made.

## Main statements

* `Root.resolve_eq_error`: why a target is refused, if it is written as targets are.
* `Patch.plan_eq_error`: why there is no plan.
* `Patch.commit_eq_error`: why a plan cannot be carried out.
-/

namespace SourcePatch

variable {r : Root} {d : Disk} {p : Patch} {w : PlannedWrite} {options : RunOptions}

theorem bind_eq_error {ε α β : Type} {x : Except ε α} {f : α → Except ε β} {e : ε} :
    x.bind f = .error e ↔ x = .error e ∨ ∃ a, x = .ok a ∧ f a = .error e := by
  cases x <;> simp [Except.bind]

theorem mapError_eq_error {ε ε' α : Type} {f : ε → ε'} {x : Except ε α} {e : ε'} :
    x.mapError f = .error e ↔ ∃ cause, x = .error cause ∧ f cause = e := by
  cases x <;> simp [Except.mapError]

/-! ## Refused targets -/

/-- A target that is written as targets are is refused for what the disk holds. -/
theorem Root.resolve_eq_error {target : Path} {e : SafetyError} (hempty : target.isEmpty = false)
    (hparts : checkComponents target target.components = .ok ())
    (h : r.resolve d target = .error e) :
    (∃ cause, e = .canonicalize cause) ∨ ∃ path, e = .outsideTree path r.path := by
  rw [resolve_eq, hempty, hparts, if_neg (by decide)] at h
  obtain h | ⟨u, -, h⟩ := bind_eq_error.1 h
  · cases h
  obtain h | ⟨u, -, h⟩ := bind_eq_error.1 h
  · unfold checkAncestor at h
    split at h
    · cases h
    · split at h
      · cases h
        exact .inl ⟨_, rfl⟩
      · split at h
        · cases h
        · cases h
          exact .inr ⟨_, rfl⟩
  · cases h

/-! ## Plans that cannot be made -/

theorem readText_eq_error {file : Path} {e : EditError} (h : readText d file = .error e) :
    (∃ cause, e = .io cause) ∨ ∃ fault, e = .notText fault := by
  unfold readText at h
  obtain h | ⟨bytes, -, h⟩ := bind_eq_error.1 h
  · exact .inl (readBytes_error h)
  cases bytes with
  | none => cases h
  | some bytes =>
    obtain h | ⟨text, -, h⟩ := bind_eq_error.1 h
    · unfold decodeText at h
      split at h
      · cases h
      · cases h
        exact .inr ⟨_, rfl⟩
    · cases h

theorem transformText_eq_error {rules : RuleSet} {appliedMarker : Option String} {file : Path}
    {text : String} {e : EngineError}
    (h : transformText rules appliedMarker file text = .error e) :
    ∃ names, e = .rule (.notIdempotent names) := by
  unfold transformText at h
  split at h
  · cases h
  split at h
  · cases h
  obtain h | ⟨u, -, h⟩ := bind_eq_error.1 h
  · obtain ⟨cause, hcause, rfl⟩ := mapError_eq_error.1 h
    unfold RuleSet.checkIdempotent at hcause
    dsimp only at hcause
    split at hcause
    · cases hcause
    · cases hcause
      exact ⟨_, rfl⟩
  · cases h

namespace Patch

/-- Why there is no plan. -/
inductive Unplanned (p : Patch) (r : Root) (d : Disk) : EngineError → Prop
  | refused {e : SafetyError} :
    r.resolve d (.ofString p.file) = .error e → Unplanned p r d (.safety e)
  | faulty {rules : List Rule} {appliedMarker : Option String} {e : RuleError} :
    p.operation = .transform rules appliedMarker → RuleSet.compile rules = .error e →
    Unplanned p r d (.rule e)
  | repeating (names : List String) : Unplanned p r d (.rule (.notIdempotent names))
  | unread (cause : IoError) : Unplanned p r d (.edit (.io cause))
  | notText (fault : Decoding.Fault) : Unplanned p r d (.edit (.notText fault))

/-- A plan that is made from the text of its target fails for the target, or for the text. -/
theorem unplanned_of_text {ofText : Path → Option String → Except EngineError Plan}
    {e : EngineError} (htext : ∀ file text, ofText file text = .error e → p.Unplanned r d e)
    (h : (((r.resolve d (.ofString p.file)).mapError EngineError.safety).bind fun file =>
      ((readText d file).mapError EngineError.edit).bind (ofText file)) = .error e) :
    p.Unplanned r d e := by
  obtain h | ⟨file, -, h⟩ := bind_eq_error.1 h
  · obtain ⟨cause, hcause, rfl⟩ := mapError_eq_error.1 h
    exact .refused hcause
  obtain h | ⟨text, -, h⟩ := bind_eq_error.1 h
  · obtain ⟨cause, hcause, rfl⟩ := mapError_eq_error.1 h
    obtain ⟨cause, rfl⟩ | ⟨fault, rfl⟩ := readText_eq_error hcause
    · exact .unread cause
    · exact .notText fault
  · exact htext file text h

theorem plan_eq_error {e : EngineError} (h : p.plan r d = .error e) : p.Unplanned r d e := by
  cases hop : p.operation with
  | author content =>
    rw [plan_author hop, planAuthor_eq] at h
    obtain h | ⟨file, -, h⟩ := bind_eq_error.1 h
    · obtain ⟨cause, hcause, rfl⟩ := mapError_eq_error.1 h
      exact .refused hcause
    obtain h | ⟨current, -, h⟩ := bind_eq_error.1 h
    · obtain ⟨cause, hcause, rfl⟩ := mapError_eq_error.1 h
      obtain ⟨cause, rfl⟩ := readBytes_error hcause
      exact .unread cause
    · cases h
  | transform rules appliedMarker =>
    rw [plan_transform hop] at h
    obtain h | ⟨s, -, h⟩ := bind_eq_error.1 h
    · obtain ⟨cause, hcause, rfl⟩ := mapError_eq_error.1 h
      exact .faulty hop hcause
    · rw [planTransform_eq] at h
      refine unplanned_of_text (fun file text htext => ?_) h
      cases text with
      | none => cases htext
      | some text =>
        obtain ⟨names, rfl⟩ := transformText_eq_error htext
        exact .repeating names
  | appendGuarded marker fragment =>
    rw [plan_append hop, planAppend_eq] at h
    refine unplanned_of_text (fun file text htext => ?_) h
    cases text <;> cases htext

/-- A target that is the root itself cannot be read, so there is no plan for it. -/
theorem plan_ne_ok_of_idle (h : r.Stands d)
    (hidle : Path.moving (Path.ofString p.file).segments = []) (plan : Plan) :
    p.plan r d ≠ .ok plan := by
  intro hplan
  obtain ⟨file, current, hf, hread, -⟩ := plan_eq_ok hplan
  rw [(Root.resolve_eq_ok_iff.1 hf).2.2.2] at hread
  exact h.not_read_of_idle (Root.descends_of_resolve hf).1 (Path.segments_ofString_ne_nil p.file)
    hidle current hread

end Patch

/-! ## Plans that cannot be carried out -/

namespace PlannedWrite

/-- Why a plan that was made on the same disk cannot be carried out. -/
inductive Uncommitted (w : PlannedWrite) : EngineError → Prop
  | noDirectory {directory : Path} (cause : IoError) :
    w.edit.file.parent? = some directory →
    Uncommitted w (.locate (.createDirectory directory cause))
  | unwritten (cause : IoError) : Uncommitted w (.edit (.io cause))
  | noTemporary (cause : IoError) : Uncommitted w (.edit (.temporary cause))

theorem uncommitted_of_applyIn {e : EngineError} (h : (w.edit.applyIn d).1 = .error e)
    (hio : e.isSafetyOrIo = true) : w.Uncommitted e := by
  obtain ⟨err, he⟩ | ⟨-, he⟩ | ⟨current, l, mode, -, -, -, he⟩ := w.edit.applyIn_cases d
  · rw [he] at h
    cases h
    cases err with
    | io cause => exact .unwritten cause
    | temporary cause => exact .noTemporary cause
    | _ => cases hio
  · rw [he] at h
    cases h
  · rw [he] at h
    cases h

end PlannedWrite

namespace Patch

/-- The target of a plan is below the root, and so is its parent. -/
theorem parent_of_plan (h : r.Stands d) (hplan : p.plan r d = .ok (.write w)) :
    ∃ directory, w.edit.file.parent? = some directory ∧ directory.startsWith r.path = true := by
  obtain ⟨current, hf, -⟩ := plan_write hplan
  -- the root itself cannot be read, so the target has a name that moves
  obtain ⟨pre, last, idle, heq, hlast, hidle⟩ := Path.exists_last_of_moves fun hnone =>
    plan_ne_ok_of_idle h hnone _ hplan
  have hseg := Root.segments_of_resolve hf h.ordinary
  rw [heq, ← List.append_assoc] at hseg
  exact ⟨_, Path.parent?_of_endsIn ⟨hseg, hlast, hidle⟩, Root.startsWith_ofNames r pre⟩

theorem commit_eq_error (h : r.Stands d) (hplan : p.plan r d = .ok (.write w)) {e : EngineError}
    (herr : ((Plan.write w).commit r d).1 = .error e) : w.Uncommitted e := by
  obtain ⟨current, hf, hread, hexp, -⟩ := plan_write hplan
  -- what is there already is not written, and so does not fail
  have hdiff : current ≠ some w.edit.newText.toUTF8 := by
    rintro rfl
    rw [PlannedWrite.commit_of_some hexp, Edit.applyIn_of_same hread] at herr
    cases herr
  have hio : e.isSafetyOrIo = true := by
    obtain ⟨err, herr', hio⟩ | ⟨hok, -⟩ := commit_refines h.wellFormed hf
      (Path.segments_ofString_ne_nil p.file) hread hexp hdiff
    · rw [herr] at herr'
      cases herr'
      exact hio
    · rw [herr] at hok
      cases hok
  cases current with
  | some bytes =>
    rw [PlannedWrite.commit_of_some hexp] at herr
    exact PlannedWrite.uncommitted_of_applyIn herr hio
  | none =>
    obtain ⟨directory, hparent, hin⟩ := parent_of_plan h hplan
    have hens := Root.ensureParent_eq r d hparent
    rw [if_pos hin] at hens
    rw [PlannedWrite.commit_of_none hexp, hens] at herr
    cases hmade : (d.makeDirectories directory).1 with
    | error cause =>
      rw [hmade] at herr
      cases herr
      exact .noDirectory cause hparent
    | ok u =>
      rw [hmade] at herr
      exact PlannedWrite.uncommitted_of_applyIn herr hio

end Patch

end SourcePatch
