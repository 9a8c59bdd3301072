import SourcePatch.Proofs.Engine.Plan

/-!
# How commits end

A write that is carried out reads its target once more. What is there decides: the new text already,
something that is not what was expected, or what was expected, which is then replaced.
-/

namespace SourcePatch

namespace Edit

variable {e : Edit} {d : Disk} {current : Option ByteArray}

theorem applyIn_of_error {err : EditError} (h : readBytes d e.file = .error err) :
    e.applyIn d = (.error (.edit err), d) := by
  rw [applyIn, Edit.apply, h]

theorem applyIn_of_same (h : readBytes d e.file = .ok (some e.newText.toUTF8)) :
    e.applyIn d = (.ok (.unchanged e.file), d) := by
  rw [applyIn, Edit.apply, h]
  simp

section

variable (h : readBytes d e.file = .ok current) (hne : current ≠ some e.newText.toUTF8)
include h hne

theorem applyIn_of_changed (hm : e.expected.matchesCurrent current = false) :
    e.applyIn d = (.error (.edit (.changed e.file e.expected)), d) := by
  rw [applyIn, Edit.apply, h]
  dsimp only
  rw [if_neg hne, hm, if_neg Bool.false_ne_true]

/-- What was expected is replaced. -/
theorem applyIn_eq_replaceFile (hm : e.expected.matchesCurrent current = true) :
    e.applyIn d = match d.replaceFile e.file e.newText.toUTF8 with
      | (.ok (), d') => (.ok (.applied e.file), d')
      | (.error err, d') => (.error (.edit err), d') := by
  rw [applyIn, Edit.apply, h]
  dsimp only
  rw [if_neg hne, hm, if_pos rfl]
  rcases d.replaceFile e.file e.newText.toUTF8 with ⟨err | u, d'⟩ <;> rfl

/-- The file is replaced as a whole, or nothing changes. -/
theorem applyIn_of_expected (hm : e.expected.matchesCurrent current = true) :
    (∃ err, e.applyIn d = (.error (.edit err), d)) ∨
    ∃ l mode, d.locateEntry e.file = .ok ⟨some l, false⟩ ∧ d.node? l ≠ some .directory ∧
      e.applyIn d = (.ok (.applied e.file), d.put l (.file e.newText.toUTF8 mode)) := by
  rw [applyIn_eq_replaceFile h hne hm]
  obtain ⟨err, hw⟩ | ⟨l, mode, hl, hd, hw⟩ :=
    d.replaceFile_cases e.file e.newText.toUTF8 .none
  · rw [hw]
    exact .inl ⟨err, rfl⟩
  · rw [hw]
    exact .inr ⟨l, mode, hl, hd, rfl⟩

end

/-- An edit fails, finds its new text, or puts it at the entry that the target names. -/
theorem applyIn_cases (e : Edit) (d : Disk) :
    (∃ err, e.applyIn d = (.error (.edit err), d)) ∨
    (readBytes d e.file = .ok (some e.newText.toUTF8) ∧
      e.applyIn d = (.ok (.unchanged e.file), d)) ∨
    ∃ current l mode, readBytes d e.file = .ok current ∧
      d.locateEntry e.file = .ok ⟨some l, false⟩ ∧ d.node? l ≠ some .directory ∧
      e.applyIn d = (.ok (.applied e.file), d.put l (.file e.newText.toUTF8 mode)) := by
  cases hread : readBytes d e.file with
  | error err => exact .inl ⟨_, applyIn_of_error hread⟩
  | ok current =>
    by_cases hsame : current = some e.newText.toUTF8
    · subst hsame
      exact .inr (.inl ⟨rfl, applyIn_of_same hread⟩)
    · cases hm : e.expected.matchesCurrent current with
      | false => exact .inl ⟨_, applyIn_of_changed hread hsame hm⟩
      | true =>
        obtain ⟨err, he⟩ | ⟨l, mode, hl, hd, he⟩ := applyIn_of_expected hread hsame hm
        · exact .inl ⟨_, he⟩
        · exact .inr (.inr ⟨current, l, mode, rfl, hl, hd, he⟩)

theorem wellFormed_applyIn (hd : d.WellFormed) (e : Edit) : (e.applyIn d).2.WellFormed := by
  obtain ⟨err, h⟩ | ⟨-, h⟩ | ⟨current, l, mode, -, hl, hdir, h⟩ := e.applyIn_cases d
  · rwa [h]
  · rwa [h]
  · rw [h]
    exact hd.put_entry hl hdir

/-- An edit that succeeds leaves the new text. -/
theorem readBytes_of_applyIn {d' : Disk} {res : PatchResult} (h : e.applyIn d = (.ok res, d')) :
    readBytes d' e.file = .ok (some e.newText.toUTF8) := by
  obtain ⟨err, he⟩ | ⟨hread, he⟩ | ⟨current, l, mode, hread, hl, hdir, he⟩ := e.applyIn_cases d
  · rw [he] at h
    cases h
  · rw [he] at h
    cases h
    exact hread
  · rw [he] at h
    cases h
    exact Disk.readBytes_put _ _ hl hdir hread

end Edit

namespace PlannedWrite

variable {w : PlannedWrite} {current : Option ByteArray}

theorem createsFile_eq (h : w.edit.expected = .ofCurrent current) :
    w.edit.createsFile = decide (current = none) := by
  rw [Edit.createsFile, h, Bool.eq_iff_iff, beq_iff_eq, decide_eq_true_iff]
  exact Verification.ofCurrent_eq_absent_iff

/-- A write to a file that was not there makes the directories first that it needs. -/
theorem commit_of_none (h : w.edit.expected = .ofCurrent none) (r : Root) (d : Disk) :
    (Plan.write w).commit r d = match r.ensureParent d w.edit.file with
      | (.ok (), d) => w.edit.applyIn d
      | (.error e, d) => (.error (.locate e), d) := by
  rcases hmade : r.ensureParent d w.edit.file with ⟨_ | _, d'⟩ <;>
    simp [Plan.commit, createsFile_eq h, hmade]

/-- A write to a file that was there makes no directories. -/
theorem commit_of_some {bytes : ByteArray} (h : w.edit.expected = .ofCurrent (some bytes))
    (r : Root) (d : Disk) : (Plan.write w).commit r d = w.edit.applyIn d := by
  rw [Plan.commit, createsFile_eq h]
  simp

end PlannedWrite

end SourcePatch
