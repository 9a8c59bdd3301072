import SourcePatch.Proofs.Engine.Steps

/-!
# What a run leaves as it is

A run of a list of patches is a run of its first part and then, on the disk which that leaves, a
run of the rest. Each patch of it changes the one entry that its target names, if it is reported as
applied, and at most makes directories above its target. That is so at whatever step a patch fails,
and for whatever cause.

## Main definitions

* `Turns`: a run whose patches take their steps, of which any may fail.

## Main statements

* `runPatches_append`: a run in two parts.
* `runPatches_keeps`: what each patch keeps of the disk, a run keeps.
* `PatchSet.run_frame`: what each patch of a run changes.
-/

namespace SourcePatch

variable {r : Root} {d : Disk} {p : Patch} {options : RunOptions}

/-! ## One patch of a run -/

namespace Patch

theorem run_of_dry (h : options.dryRun = true) : (p.run r options d).2 = d := by
  unfold Patch.run
  cases p.plan r d with
  | error e => rfl
  | ok plan => simp [h]

/-- A patch fails when it is planned or, in a run that is not dry, when its plan is carried out. -/
theorem run_eq_error {e : EngineError} (h : (p.run r options d).1.result = .error e) :
    p.plan r d = .error e ∨ options.dryRun = false ∧ ∃ w, p.plan r d = .ok (.write w) ∧
      ((Plan.write w).commit r d).1 = .error e := by
  unfold Patch.run at h
  cases hplan : p.plan r d with
  | error err =>
    rw [hplan] at h
    exact .inl (by simpa using h)
  | ok plan =>
    rw [hplan] at h
    cases hdry : options.dryRun with
    | true => simp [hdry] at h
    | false =>
      rw [hdry] at h
      cases plan with
      | skip res => cases h
      | write w => exact .inr ⟨rfl, w, rfl, h⟩

/-- A run that is not dry carries the patch out. -/
theorem run_of_wet (h : options.dryRun = false) :
    (p.run r options d).1.result = (p.carryOut r d).1 ∧
      (p.run r options d).2 = (p.carryOut r d).2 := by
  unfold Patch.run carryOut
  cases p.plan r d with
  | error e => exact ⟨rfl, rfl⟩
  | ok plan => simp [h, commitPlan]

/-- What a patch keeps of the disk when it is carried out, its run keeps. -/
theorem run_keeps {P : Disk → Prop} (h : P d) (hcarry : P (p.carryOut r d).2) :
    P (p.run r options d).2 := by
  cases hdry : options.dryRun with
  | true => rwa [run_of_dry hdry]
  | false => rwa [(run_of_wet hdry).2]

theorem wellFormed_run (hd : d.WellFormed) : (p.run r options d).2.WellFormed :=
  (frame_run .none hd).wellFormed

end Patch

/-! ## Whole runs -/

/-- The patches that a run includes. -/
def RunOptions.chosen (options : RunOptions) (patches : List Patch) : List Patch :=
  patches.filter fun p => Selection.includes options.only p.id

theorem PatchSet.run_eq (s : PatchSet) (r : Root) (options : RunOptions) (d : Disk) :
    s.run r options d = runPatches r options d (options.chosen s.patches) := rfl

theorem runPatches_cons (r : Root) (options : RunOptions) (d : Disk) (p : Patch)
    (rest : List Patch) : runPatches r options d (p :: rest) =
      ((p.run r options d).1 :: (runPatches r options (p.run r options d).2 rest).1,
        (runPatches r options (p.run r options d).2 rest).2) := rfl

theorem runPatches_append (r : Root) (options : RunOptions) (d : Disk)
    (before after : List Patch) : runPatches r options d (before ++ after) =
      ((runPatches r options d before).1 ++
          (runPatches r options (runPatches r options d before).2 after).1,
        (runPatches r options (runPatches r options d before).2 after).2) := by
  induction before generalizing d with
  | nil => rfl
  | cons p before ih => rw [List.cons_append, runPatches_cons, runPatches_cons, ih]; rfl

theorem runPatches_concat (r : Root) (options : RunOptions) (d : Disk) (before : List Patch)
    (p : Patch) : (runPatches r options d (before ++ [p])).2 =
      (p.run r options (runPatches r options d before).2).2 := by
  rw [runPatches_append]
  rfl

theorem length_runPatches (r : Root) (options : RunOptions) (d : Disk) (patches : List Patch) :
    (runPatches r options d patches).1.length = patches.length := by
  induction patches generalizing d with
  | nil => rfl
  | cons p rest ih => rw [runPatches_cons, List.length_cons, List.length_cons, ih]

/-- What each patch keeps of the disk, a run keeps. -/
theorem runPatches_keeps {patches : List Patch} {P : Disk → Prop}
    (hstep : ∀ p ∈ patches, ∀ d, P d → P (p.run r options d).2) (h : P d) :
    P (runPatches r options d patches).2 := by
  induction patches generalizing d with
  | nil => exact h
  | cons p rest ih =>
    exact ih (fun q hq => hstep q (by simp [hq])) (hstep p (by simp) d h)

/-- What each patch reports of a disk as the ones before it keep it. -/
theorem forall₂_runPatches {patches : List Patch} {P : Disk → Prop}
    {Q : Patch → PatchReport → Prop}
    (hstep : ∀ p ∈ patches, ∀ d, P d → P (p.run r options d).2 ∧ Q p (p.run r options d).1)
    (h : P d) : List.Forall₂ Q patches (runPatches r options d patches).1 := by
  induction patches generalizing d with
  | nil => exact .nil
  | cons p rest ih =>
    obtain ⟨hkeeps, hreport⟩ := hstep p (by simp) d h
    exact .cons hreport (ih (fun q hq => hstep q (by simp [hq])) hkeeps)

theorem wellFormed_runPatches (r : Root) (options : RunOptions) (hd : d.WellFormed)
    (patches : List Patch) : (runPatches r options d patches).2.WellFormed :=
  runPatches_keeps (fun _ _ _ => Patch.wellFormed_run) hd

theorem runPatches_of_fixed {patches : List Patch}
    (h : ∀ p ∈ patches, (p.run r options d).2 = d) : (runPatches r options d patches).2 = d := by
  refine runPatches_keeps (P := (· = d)) ?_ rfl
  rintro p hp _ rfl
  exact h p hp

theorem runPatches_of_dry (h : options.dryRun = true) (patches : List Patch) :
    (runPatches r options d patches).2 = d :=
  runPatches_of_fixed fun _ _ => Patch.run_of_dry h

/-! ## Runs in which steps fail -/

/-- What a patch of a run found, reported and left. -/
structure Turn where
  found : Disk
  result : Except EngineError PatchResult
  left : Disk

/-- Patches take their turns, each on the disk that the one before has left. Any of their steps may
fail. -/
inductive Turns (r : Root) (options : RunOptions) : Disk → List Patch → List Turn → Disk → Prop
  | nil (d : Disk) : Turns r options d [] [] d
  | cons {d d₁ d' : Disk} {p : Patch} {rest : List Patch} {turns : List Turn}
      {result : Except EngineError PatchResult} :
      p.StepRun r options (.planning, d) (.reported result, d₁) →
      Turns r options d₁ rest turns d' →
      Turns r options d (p :: rest) (⟨d, result, d₁⟩ :: turns) d'

/-- The turns of a run with the faults that the temporary file of each patch has. -/
def turnsOf (r : Root) (options : RunOptions) (d : Disk) (patches : List Patch)
    (f : Nat → WriteFaults) : List Turn :=
  match patches with
  | [] => []
  | p :: rest => ⟨d, (p.run r options d (f 0)).1.result, (p.run r options d (f 0)).2⟩ ::
      turnsOf r options (p.run r options d (f 0)).2 rest fun n => f (n + 1)

theorem turns_runPatches (r : Root) (options : RunOptions) (d : Disk) (patches : List Patch)
    (f : Nat → WriteFaults) :
    Turns r options d patches (turnsOf r options d patches f)
      (runPatches r options d patches f).2 := by
  induction patches generalizing d f with
  | nil => exact .nil d
  | cons p rest ih => exact .cons (Patch.stepRun_run (f 0) p r options d) (ih _ _)

theorem result_turnsOf (r : Root) (options : RunOptions) (d : Disk) (patches : List Patch)
    (f : Nat → WriteFaults) : (turnsOf r options d patches f).map (·.result) =
      (runPatches r options d patches f).1.map (·.result) := by
  induction patches generalizing d f with
  | nil => rfl
  | cons p rest ih =>
    rw [turnsOf, runPatches, List.map_cons, List.map_cons, ih]

namespace Turns

variable {d' : Disk} {patches : List Patch} {turns : List Turn}

theorem frames (h : Turns r options d patches turns d') (hd : d.WellFormed) :
    List.Forall₂ (fun p t => p.Frame r options t.found t.result t.left) patches turns := by
  induction h with
  | nil d => exact .nil
  | cons hrun _ ih =>
    have hframe := Patch.frame_of_stepRun hd hrun
    exact .cons hframe (ih hframe.wellFormed)

theorem eq_of_dry (h : Turns r options d patches turns d') (hd : d.WellFormed)
    (hdry : options.dryRun = true) : d' = d := by
  induction h with
  | nil d => rfl
  | cons hrun _ ih =>
    have hframe := Patch.frame_of_stepRun hd hrun
    rw [ih hframe.wellFormed, hframe.dry hdry]

end Turns

/-- Each patch of a run changes the entry that its target names, if it is reported as applied and
the run is not dry. Besides, there may be new directories above the target of a patch that writes a
whole file. That is so for every run in which some steps of patches fail: when a patch is planned,
when a directory is made, and when the temporary file is made, written, brought to the disk, given
its mode or renamed. The run itself is such a run, whatever goes wrong with temporary files. -/
theorem PatchSet.run_frame (s : PatchSet) (r : Root) (options : RunOptions) (hd : d.WellFormed) :
    (∀ f, Turns r options d (options.chosen s.patches)
        (turnsOf r options d (options.chosen s.patches) f) (s.run r options d f).2 ∧
      (turnsOf r options d (options.chosen s.patches) f).map (·.result) =
        (s.run r options d f).1.map (·.result)) ∧
    ∀ turns d', Turns r options d (options.chosen s.patches) turns d' →
      List.Forall₂ (fun p t => p.Frame r options t.found t.result t.left)
        (options.chosen s.patches) turns ∧
      (options.dryRun = true → d' = d) :=
  ⟨fun f => ⟨turns_runPatches r options d _ f, result_turnsOf r options d _ f⟩,
    fun _ _ hturns => ⟨hturns.frames hd, hturns.eq_of_dry hd⟩⟩

/-- A patch that writes a file into a directory which is not there yet. -/
def deepPatch : Patch := ⟨"deep", "n/g", none, .author "b"⟩

/-- A patch like it, for which two directories are needed. -/
def sidePatch : Patch := ⟨"side", "m/k/h", none, .author "text"⟩

/-- First there is no space left after two bytes, and then a mode may not be set. -/
def badWrites : Nat → WriteFaults
  | 0 => ⟨some (2, .noSpace), none, none⟩
  | _ => ⟨none, none, some .permissionDenied⟩

/-- Two patches fail with their temporary files there, and leave new directories only. If nothing
goes wrong, the first one leaves its file as well. -/
theorem run_frame_of_full :
    (PatchSet.run ⟨PatchSet.emptyMetadata, [sidePatch, deepPatch]⟩ ⟨["tree"]⟩ ⟨false, false, []⟩
        (.oneFile "a") badWrites).1.map (·.result) =
      [.error (.edit (.temporary .noSpace)), .error (.edit (.io .permissionDenied))] ∧
    (∃ d₁, (∀ l, sidePatch.KeepsAt ⟨["tree"]⟩ (.oneFile "a") d₁ l) ∧
      ∀ l, deepPatch.KeepsAt ⟨["tree"]⟩ d₁ (PatchSet.run
        ⟨PatchSet.emptyMetadata, [sidePatch, deepPatch]⟩ ⟨["tree"]⟩ ⟨false, false, []⟩
        (.oneFile "a") badWrites).2 l) ∧
    sidePatch.Replaces ⟨["tree"]⟩ (.oneFile "a")
      (sidePatch.run ⟨["tree"]⟩ ⟨false, false, []⟩ (.oneFile "a")).2 := by
  have hchosen : RunOptions.chosen ⟨false, false, []⟩ [sidePatch, deepPatch] =
    [sidePatch, deepPatch] := by rfl
  obtain ⟨hown, hall⟩ := PatchSet.run_frame (d := .oneFile "a")
    ⟨PatchSet.emptyMetadata, [sidePatch, deepPatch]⟩ ⟨["tree"]⟩ ⟨false, false, []⟩ (by decide)
  have hbad := (hall _ _ (hown badWrites).1).1
  have hgood := (hall _ _ (hown fun _ => .none).1).1
  rw [hchosen] at hbad hgood
  cases hbad with
  | cons hside hrest =>
  cases hrest with
  | cons hdeep _ =>
  cases hgood with
  | cons happlied _ =>
  refine ⟨by rfl, ⟨_, hside.kept ?_, hdeep.kept ?_⟩, (happlied.applied _ rfl (by rfl)).2⟩
  · have hresult : (sidePatch.run ⟨["tree"]⟩ ⟨false, false, []⟩ (.oneFile "a")
      (badWrites 0)).1.result = .error (.edit (.temporary .noSpace)) := by rfl
    simp [hresult]
  · have hresult : (deepPatch.run ⟨["tree"]⟩ ⟨false, false, []⟩ (sidePatch.run ⟨["tree"]⟩
      ⟨false, false, []⟩ (.oneFile "a") (badWrites 0)).2 (badWrites 1)).1.result =
      .error (.edit (.io .permissionDenied)) := by rfl
    simp [hresult]

end SourcePatch
