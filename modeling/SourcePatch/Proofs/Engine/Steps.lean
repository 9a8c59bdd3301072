import SourcePatch.Proofs.Edit.Interruption
import SourcePatch.Proofs.Engine.Effect

/-!
# Patches step by step

A patch is planned, directories are made for its target, and its edit takes its steps. Whatever
touches the disk on that way may fail, for causes that what is on the disk does not show: there is
no space left, or no permission. Directories that were made before stay, and the temporary file is
taken away.

## Main definitions

* `Patch.Phase`, `Patch.Step`: the steps of a patch.
* `Patch.StepRun`: any number of them.
* `Patch.Frame`: what a patch leaves as it was.

## Main statements

* `Patch.stepRun_run`: what a patch does is such a run.
* `Patch.frame_of_stepRun`: wherever a patch fails, it leaves as it was what it should.
-/

namespace SourcePatch

variable {p : Patch} {w : PlannedWrite} {r : Root} {options : RunOptions} {d d' d₁ d₂ : Disk}

namespace Patch

/-! ## Small steps -/

/-- How far a patch has come. -/
inductive Phase
  | planning
  /-- The directories are made that the target needs. -/
  | preparing (w : PlannedWrite)
  | editing (w : PlannedWrite) (phase : Edit.Phase)
  | reported (result : Except EngineError PatchResult)

/-- What the end of an edit is for its patch. -/
def resultOf : Except EditError EditResult → Except EngineError PatchResult
  | .ok (.applied file _) => .ok (.applied file)
  | .ok (.alreadyApplied file) => .ok (.unchanged file)
  | .error cause => .error (.edit cause)

/-- One step of a patch, on the disk as it is then. An edit takes steps of its own, of which only
the one that sets the time of the last change does not fail. -/
inductive Step (p : Patch) (r : Root) (options : RunOptions) : Phase × Disk → Phase × Disk → Prop
  /-- The patch cannot be planned, be it for what it says or since the disk cannot be read. -/
  | unplanned (d : Disk) (cause : EngineError) :
      p.Step r options (.planning, d) (.reported (.error cause), d)
  | skip {d : Disk} {result : PatchResult} : p.plan r d = .ok (.skip result) →
      p.Step r options (.planning, d) (.reported (.ok result), d)
  /-- A dry run stops here. -/
  | foretell {d : Disk} {plan : Plan} : options.dryRun = true → p.plan r d = .ok plan →
      p.Step r options (.planning, d) (.reported (.ok plan.expectedResult), d)
  | prepare {d : Disk} {w : PlannedWrite} : options.dryRun = false →
      p.plan r d = .ok (.write w) → p.Step r options (.planning, d) (.preparing w, d)
  | makeDirectory {d d' : Disk} {w : PlannedWrite} : w.edit.createsFile = true →
      Disk.MakesOne w.edit.file.ancestors.tail d d' →
      p.Step r options (.preparing w, d) (.preparing w, d')
  /-- A directory cannot be made. -/
  | unprepared {w : PlannedWrite} (d : Disk) (cause : LocateError) : w.edit.createsFile = true →
      p.Step r options (.preparing w, d) (.reported (.error (.locate cause)), d)
  | begin (d : Disk) (w : PlannedWrite) :
      p.Step r options (.preparing w, d) (.editing w .start, d)
  | edit {d d' : Disk} {w : PlannedWrite} {phase phase' : Edit.Phase} :
      w.edit.TimedStep (phase, d) (phase', d') →
      p.Step r options (.editing w phase, d) (.editing w phase', d')
  | report (d : Disk) (w : PlannedWrite) (result : Except EditError EditResult) :
      p.Step r options (.editing w (.finished result), d) (.reported (resultOf result), d)

/-- Any number of steps. -/
abbrev StepRun (p : Patch) (r : Root) (options : RunOptions) : Phase × Disk → Phase × Disk → Prop :=
  Relation.ReflTransGen (p.Step r options)

/-! ## What is as it was -/

/-- What a patch with this result leaves as it was, when it was run on `d` and has left `d'`. -/
structure Frame (p : Patch) (r : Root) (options : RunOptions) (d : Disk)
    (result : Except EngineError PatchResult) (d' : Disk) : Prop where
  wellFormed : d'.WellFormed
  /-- A dry run changes nothing. -/
  dry : options.dryRun = true → d' = d
  /-- If nothing was applied, there are at most new directories. -/
  kept : (∀ file, result ≠ .ok (.applied file)) → ∀ l, p.KeepsAt r d d' l
  applied : ∀ file, options.dryRun = false → result = .ok (.applied file) →
    file = p.path r ∧ p.Replaces r d d'

namespace Frame

variable {result : Except EngineError PatchResult}

/-- A patch that changes nothing does not say that it was applied, unless the run is dry. -/
theorem unchanged (hd : d.WellFormed)
    (h : options.dryRun = false → ∀ file, result ≠ .ok (.applied file)) :
    p.Frame r options d result d :=
  ⟨hd, fun _ => rfl, fun _ _ => .inl rfl, fun file hwet happlied => absurd happlied (h hwet file)⟩

theorem of_prepared (h : p.Prepared r d w d₁) (hwet : options.dryRun = false)
    (hresult : ∀ file, result ≠ .ok (.applied file)) : p.Frame r options d result d₁ where
  wellFormed := h.wellFormed
  dry hdry := by
    rw [hwet] at hdry
    cases hdry
  kept _ := h.keepsAt
  applied file _ happlied := absurd happlied (hresult file)

end Frame

theorem resultOf_ne_applied {result : Except EditError EditResult}
    (h : ∀ file n, result ≠ .ok (.applied file n)) (file : Path) :
    resultOf result ≠ .ok (.applied file) := by
  rcases result with cause | ⟨file', n⟩ | file'
  · exact fun heq => by cases heq
  · exact absurd rfl (h file' n)
  · exact fun heq => by cases heq

/-- An edit that begins on a disk that was prepared for it. -/
theorem Frame.of_timedRun {result : Except EditError EditResult} (h : p.Prepared r d w d₁)
    (hwet : options.dryRun = false) (hrun : w.edit.TimedRun (.start, d₁) (.finished result, d₂)) :
    p.Frame r options d (resultOf result) d₂ := by
  obtain ⟨rfl, hresult⟩ | ⟨⟨current, l, t, mode, hread, hl, hdir, -, rfl⟩, rfl⟩ := hrun.cases
  · exact .of_prepared h hwet (resultOf_ne_applied hresult)
  · refine ⟨h.wellFormed.put_entry hl hdir, fun hdry => ?_,
      fun hresult => absurd rfl (hresult w.edit.file), fun file _ happlied => ?_⟩
    · rw [hwet] at hdry
      cases hdry
    · cases happlied
      exact ⟨edit_file_eq h.planned, h.replaces hread hl hdir _ _⟩

/-- What a patch has made of `d` when it comes to a phase. -/
def Reaches (p : Patch) (r : Root) (options : RunOptions) (d : Disk) : Phase → Disk → Prop
  | .planning, d' => d' = d
  | .preparing w, d' => options.dryRun = false ∧ p.Prepared r d w d'
  | .editing w phase, d' => options.dryRun = false ∧
      ∃ d₁, p.Prepared r d w d₁ ∧ w.edit.TimedRun (.start, d₁) (phase, d')
  | .reported result, d' => p.Frame r options d result d'

variable {phase phase₁ phase₂ : Phase}

/-- Each step makes of the disk what the next phase says. -/
theorem Reaches.step (hd : d.WellFormed) (h : p.Reaches r options d phase₁ d₁)
    (hstep : p.Step r options (phase₁, d₁) (phase₂, d₂)) : p.Reaches r options d phase₂ d₂ := by
  cases hstep with
  | unplanned _ cause =>
    cases h
    exact .unchanged hd (by simp)
  | skip hplan =>
    cases h
    refine .unchanged hd fun _ file hfile => ?_
    cases hfile
    exact p.plan_ne_skip_applied r d file hplan
  | foretell hdry hplan =>
    cases h
    refine .unchanged hd fun hwet => ?_
    rw [hdry] at hwet
    cases hwet
  | prepare hwet hplan =>
    cases h
    exact ⟨hwet, .start hd hplan⟩
  | makeDirectory hnew hmake => exact ⟨h.1, h.2.makes hnew (.single hmake)⟩
  | unprepared _ cause hnew => exact .of_prepared h.2 h.1 (by simp)
  | begin _ w => exact ⟨h.1, d₁, h.2, .refl⟩
  | edit hstep =>
    obtain ⟨hwet, d₀, hprep, hrun⟩ := h
    exact ⟨hwet, d₀, hprep, hrun.tail hstep⟩
  | report _ w result =>
    obtain ⟨hwet, d₀, hprep, hrun⟩ := h
    exact .of_timedRun hprep hwet hrun

theorem Reaches.stepRun (hd : d.WellFormed)
    (hrun : p.StepRun r options (.planning, d) (phase, d')) : p.Reaches r options d phase d' := by
  suffices ∀ s, p.StepRun r options (.planning, d) s → p.Reaches r options d s.1 s.2 from
    this _ hrun
  intro s hrun
  induction hrun with
  | refl => rfl
  | tail _ hstep ih => exact ih.step hd hstep

/-- Wherever a patch fails, all is as it was up to new directories, and there is no temporary file;
and a patch that is applied changes one entry besides. -/
theorem frame_of_stepRun {result : Except EngineError PatchResult} (hd : d.WellFormed)
    (hrun : p.StepRun r options (.planning, d) (.reported result, d')) :
    p.Frame r options d result d' :=
  Reaches.stepRun hd hrun

/-! ## The patch takes such steps -/

variable (f : WriteFaults)

theorem applyIn_eq (e : Edit) (d : Disk) :
    e.applyIn d f = (resultOf (e.apply d f).1, (e.apply d f).2) := by
  unfold Edit.applyIn
  rcases e.apply d f with ⟨cause | ⟨file, n⟩ | file, d'⟩ <;> rfl

theorem stepRun_makes (hnew : w.edit.createsFile = true)
    (h : Disk.Makes w.edit.file.ancestors.tail d d') :
    p.StepRun r options (.preparing w, d) (.preparing w, d') :=
  h.lift (Phase.preparing w, ·) fun _ _ => .makeDirectory hnew

theorem stepRun_apply (w : PlannedWrite) (d : Disk) :
    p.StepRun r options (.preparing w, d)
      (.reported (w.edit.applyIn d f).1, (w.edit.applyIn d f).2) := by
  have hedit : p.StepRun r options (.editing w .start, d)
      (.editing w (.finished (w.edit.apply d f).1), (w.edit.apply d f).2) :=
    (w.edit.timedRun_apply d f).lift (fun s => (Phase.editing w s.1, s.2)) fun _ _ => .edit
  rw [applyIn_eq]
  exact ((Relation.ReflTransGen.single (.begin d w)).trans hedit).tail (.report _ w _)

theorem stepRun_commit (habs : w.edit.file.isAbsolute = true) (d : Disk) :
    p.StepRun r options (.preparing w, d)
      (.reported ((Plan.write w).commit r d f).1, ((Plan.write w).commit r d f).2) := by
  rw [Plan.commit]
  split
  · next hnew =>
    have hmakes : p.StepRun r options (.preparing w, d)
        (.preparing w, (r.ensureParent d w.edit.file).2) :=
      stepRun_makes hnew (Root.ensureParent_makes habs)
    generalize r.ensureParent d w.edit.file = made at hmakes ⊢
    rcases made with ⟨cause | u, d₁⟩
    · exact hmakes.tail (.unprepared d₁ cause hnew)
    · exact hmakes.trans (stepRun_apply f w d₁)
  · exact stepRun_apply f w d

/-- What a patch does is such a run, to its end, whatever goes wrong with its temporary file. -/
theorem stepRun_run (p : Patch) (r : Root) (options : RunOptions) (d : Disk) :
    p.StepRun r options (.planning, d)
      (.reported (p.run r options d f).1.result, (p.run r options d f).2) := by
  unfold Patch.run
  cases hplan : p.plan r d with
  | error cause => exact .single (.unplanned d cause)
  | ok plan =>
    dsimp only
    cases hdry : options.dryRun with
    | true => exact .single (.foretell hdry hplan)
    | false =>
      cases plan with
      | skip result => exact .single (.skip hplan)
      | write w =>
        obtain ⟨current, hf, -⟩ := plan_write hplan
        have habs := Root.isAbsolute_of_resolve hf (Path.segments_ofString_ne_nil p.file)
        exact (Relation.ReflTransGen.single (.prepare hdry hplan)).trans (stepRun_commit f habs d)

/-- What a patch of a run leaves as it was. -/
theorem frame_run (hd : d.WellFormed) :
    p.Frame r options d (p.run r options d f).1.result (p.run r options d f).2 :=
  frame_of_stepRun hd (stepRun_run f p r options d)

end Patch

end SourcePatch
