import SourcePatch.Proofs.Engine.Commit

/-!
# Plans on changed disks

Between a plan and its commit anything may happen to the tree. The commit replaces the target only
if it still is what the plan was made for, as far as that is kept; whatever else is there stays as
it is. Making directories for a new file neither hides nor reveals anything.

## Main definitions

* `PlannedWrite.Guarded`: what a planned write may do on a disk.

## Main statements

* `commit_guarded`: no planned write does more than that, on any disk.
-/

namespace SourcePatch

/-- What a write may do on a disk `d` if it was planned for a file that held `old`. -/
structure PlannedWrite.Guarded (w : PlannedWrite) (old : Option ByteArray) (r : Root) (d : Disk) :
    Prop where
  /-- The new text is there already. -/
  same : readBytes d w.edit.file = .ok (some w.edit.newText.toUTF8) →
    (Plan.write w).commit r d = (.ok (.unchanged w.edit.file), d)
  /-- Somebody has changed the file. -/
  changed : ∀ current, readBytes d w.edit.file = .ok current →
    current ≠ some w.edit.newText.toUTF8 → ¬ Verification.SameState old current →
    (Plan.write w).commit r d = (.error (.edit (.changed w.edit.file w.edit.expected)), d)
  /-- The file is what it was, and is replaced as a whole or not at all. -/
  expected : ∀ current, readBytes d w.edit.file = .ok current →
    current ≠ some w.edit.newText.toUTF8 → Verification.SameState old current →
    ∃ d', d.GainsDirectories d' ∧
      ((∃ err, (Plan.write w).commit r d = (.error err, d')) ∨
      ∃ e mode, d'.locateEntry w.edit.file = .ok ⟨some e, false⟩ ∧ d'.node? e ≠ some .directory ∧
        (Plan.write w).commit r d =
          (.ok (.applied w.edit.file), d'.put e (.file w.edit.newText.toUTF8 mode)) ∧
        readBytes (d'.put e (.file w.edit.newText.toUTF8 mode)) w.edit.file =
          .ok (some w.edit.newText.toUTF8))
  /-- What cannot be read is not replaced. -/
  unreadable : ∀ err, readBytes d w.edit.file = .error err →
    ∃ err d', d.GainsDirectories d' ∧ (Plan.write w).commit r d = (.error err, d')
  /-- A second commit does nothing. -/
  again : ∀ res d', (Plan.write w).commit r d = (.ok res, d') →
    (Plan.write w).commit r d' = (.ok (.unchanged w.edit.file), d')

namespace Edit

variable {e : Edit} {d : Disk} {old : Option ByteArray}

/-- An edit of a file that is what it was. -/
theorem applyIn_of_sameState (hexp : e.expected = .ofCurrent old) {current : Option ByteArray}
    (hread : readBytes d e.file = .ok current) (hne : current ≠ some e.newText.toUTF8)
    (hsame : Verification.SameState old current) :
    (∃ err, e.applyIn d = (.error err, d)) ∨
    ∃ l mode, d.locateEntry e.file = .ok ⟨some l, false⟩ ∧ d.node? l ≠ some .directory ∧
      e.applyIn d = (.ok (.applied e.file), d.put l (.file e.newText.toUTF8 mode)) ∧
      readBytes (d.put l (.file e.newText.toUTF8 mode)) e.file =
        .ok (some e.newText.toUTF8) := by
  have hm : e.expected.matchesCurrent current = true := by
    rwa [hexp, Verification.matchesCurrent_ofCurrent_iff]
  obtain ⟨err, he⟩ | ⟨l, mode, hl, hd, he⟩ := applyIn_of_expected hread hne hm
  · exact .inl ⟨_, he⟩
  · exact .inr ⟨l, mode, hl, hd, he, Disk.readBytes_put _ _ hl hd hread⟩

theorem applyIn_of_not_sameState (hexp : e.expected = .ofCurrent old)
    {current : Option ByteArray} (hread : readBytes d e.file = .ok current)
    (hne : current ≠ some e.newText.toUTF8) (hnot : ¬ Verification.SameState old current) :
    e.applyIn d = (.error (.edit (.changed e.file e.expected)), d) := by
  refine applyIn_of_changed hread hne (Bool.eq_false_iff.2 fun hm => hnot ?_)
  rwa [hexp, Verification.matchesCurrent_ofCurrent_iff] at hm

end Edit

section

variable {w : PlannedWrite} {r : Root} {d₀ d : Disk} {target : Path}

/-- A write over a file that was there makes no directories. -/
theorem guarded_of_some {bytes : ByteArray} (hexp : w.edit.expected = .ofCurrent (some bytes)) :
    w.Guarded (some bytes) r d := by
  have hcommit := fun d => PlannedWrite.commit_of_some hexp r d
  refine ⟨?_, ?_, ?_, ?_, ?_⟩
  · intro hread
    rw [hcommit, Edit.applyIn_of_same hread]
  · intro current hread hne hnot
    rw [hcommit, Edit.applyIn_of_not_sameState hexp hread hne hnot]
  · intro current hread hne hsame
    rw [hcommit]
    exact ⟨d, .refl d, Edit.applyIn_of_sameState hexp hread hne hsame⟩
  · intro err hread
    exact ⟨_, d, .refl d, by rw [hcommit, Edit.applyIn_of_error hread]⟩
  · intro res d' h
    rw [hcommit] at h ⊢
    rw [Edit.applyIn_of_same (Edit.readBytes_of_applyIn h)]

/-! ## Writes of new files -/

variable (h : r.resolve d₀ target = .ok w.edit.file) (ht : target.segments ≠ [])
  (hmiss : readBytes d₀ w.edit.file = .ok none) (hexp : w.edit.expected = .ofCurrent none)
  (hd : d.WellFormed)
include h ht hmiss hexp hd

/-- Where the target can be read there is nothing to make. -/
theorem commit_of_read {bytes : ByteArray} (hread : readBytes d w.edit.file = .ok (some bytes)) :
    (Plan.write w).commit r d = w.edit.applyIn d := by
  have hr := Root.ordinary_of_resolve h ht hmiss
  rw [PlannedWrite.commit_of_none hexp, Root.ensureParent_of_read hd h ht hr hread]

/-- Where the target is missing it is still so when its directories have been made. -/
theorem commit_of_missing (hcur : readBytes d w.edit.file = .ok none) :
    ∃ d', d.GainsDirectories d' ∧
      ((∃ err, (Plan.write w).commit r d = (.error err, d')) ∨
      readBytes d' w.edit.file = .ok none ∧ (Plan.write w).commit r d = w.edit.applyIn d') := by
  have habs := Root.isAbsolute_of_resolve h ht
  have hup := Root.descends_of_read h ht hmiss
  obtain ⟨hgain, -⟩ := Root.ensureParent_gains (r := r) hd habs hup
  rw [PlannedWrite.commit_of_none hexp]
  cases hens : r.ensureParent d w.edit.file with
  | mk made d' =>
    rw [hens] at hgain
    refine ⟨d', hgain, ?_⟩
    cases made with
    | error err => exact .inl ⟨_, rfl⟩
    | ok u =>
      dsimp only
      cases hcur' : readBytes d' w.edit.file with
      | error err => exact .inl ⟨_, Edit.applyIn_of_error hcur'⟩
      | ok current =>
        cases current with
        | none => exact .inr ⟨rfl, rfl⟩
        | some bytes =>
          exact absurd hcur' (Root.not_read_of_ensureParent hd habs hup hens hcur bytes)

/-- Where the target cannot be read it still cannot when its directories have been made. -/
theorem commit_of_unreadable {err : EditError} (hcur : readBytes d w.edit.file = .error err) :
    ∃ err d', d.GainsDirectories d' ∧ (Plan.write w).commit r d = (.error err, d') := by
  have habs := Root.isAbsolute_of_resolve h ht
  have hup := Root.descends_of_read h ht hmiss
  obtain ⟨hgain, -⟩ := Root.ensureParent_gains (r := r) hd habs hup
  rw [PlannedWrite.commit_of_none hexp]
  cases hens : r.ensureParent d w.edit.file with
  | mk made d' =>
    rw [hens] at hgain
    cases made with
    | error err => exact ⟨_, d', hgain, rfl⟩
    | ok u =>
      have hcur' := Disk.readBytes_of_extends hd hgain.extends habs hcur
      exact ⟨_, d', hgain, Edit.applyIn_of_error hcur'⟩

/-- What was committed is there for a second commit. -/
theorem commit_twice {res : PatchResult} {d' : Disk}
    (hok : (Plan.write w).commit r d = (.ok res, d')) :
    (Plan.write w).commit r d' = (.ok (.unchanged w.edit.file), d') := by
  have habs := Root.isAbsolute_of_resolve h ht
  have hup := Root.descends_of_read h ht hmiss
  obtain ⟨-, hwf⟩ := Root.ensureParent_gains (r := r) hd habs hup
  rw [PlannedWrite.commit_of_none hexp] at hok
  cases hens : r.ensureParent d w.edit.file with
  | mk made d₁ =>
    rw [hens] at hok hwf
    cases made with
    | error err => cases hok
    | ok u =>
      have hwf' := Edit.wellFormed_applyIn hwf w.edit
      rw [show w.edit.applyIn d₁ = (.ok res, d') from hok] at hwf'
      have hnew := Edit.readBytes_of_applyIn hok
      rw [commit_of_read h ht hmiss hexp hwf' hnew, Edit.applyIn_of_same hnew]

/-- A write of a new file. -/
theorem guarded_of_none : w.Guarded none r d := by
  have hread := @commit_of_read w r d₀ d target h ht hmiss hexp hd
  refine ⟨?_, ?_, ?_, ?_, ?_⟩
  · intro hsame
    rw [hread hsame, Edit.applyIn_of_same hsame]
  · intro current hcur hne hnot
    cases current with
    | none => exact absurd trivial hnot
    | some bytes => rw [hread hcur, Edit.applyIn_of_not_sameState hexp hcur hne hnot]
  · intro current hcur hne hsame
    cases current with
    | some bytes => cases hsame
    | none =>
      obtain ⟨d', hgain, herr | ⟨hcur', hcommit⟩⟩ := commit_of_missing h ht hmiss hexp hd hcur
      · exact ⟨d', hgain, .inl herr⟩
      · rw [hcommit]
        exact ⟨d', hgain, Edit.applyIn_of_sameState hexp hcur' (by simp) trivial⟩
  · exact fun err hcur => commit_of_unreadable h ht hmiss hexp hd hcur
  · exact fun res d' hok => commit_twice h ht hmiss hexp hd hok

end

/-- A write that was planned on one disk overwrites no change that was made since, whatever disk it
is carried out on. -/
theorem commit_guarded {p : Patch} {r : Root} {d₀ d : Disk} {w : PlannedWrite}
    (hd : d.WellFormed) (h : p.plan r d₀ = .ok (.write w)) :
    ∃ old, readBytes d₀ w.edit.file = .ok old ∧ w.Guarded old r d := by
  obtain ⟨old, hfile, hread, hexp, -⟩ := Patch.plan_write h
  refine ⟨old, hread, ?_⟩
  cases old with
  | none => exact guarded_of_none hfile (Path.segments_ofString_ne_nil _) hread hexp hd
  | some bytes => exact guarded_of_some hexp

/-- A patch that writes a new file. -/
def newFilePatch : Patch := ⟨"new", "g", none, .author "ours"⟩

/-- A file that somebody else has made since a plan is kept. -/
theorem commit_guarded_of_made :
    newFilePatch.plan ⟨["tree"]⟩ (.oneFile "a") =
      .ok (.write ⟨⟨⟨["", "tree", "g"]⟩, "ours", .absent⟩, none⟩) ∧
    (Plan.write ⟨⟨⟨["", "tree", "g"]⟩, "ours", .absent⟩, none⟩).commit ⟨["tree"]⟩
        ((Disk.oneFile "a").put ["tree", "g"] (.file "theirs".toUTF8 0o644)) =
      (.error (.edit (.changed ⟨["", "tree", "g"]⟩ .absent)),
        (Disk.oneFile "a").put ["tree", "g"] (.file "theirs".toUTF8 0o644)) := by
  have hplan : newFilePatch.plan ⟨["tree"]⟩ (.oneFile "a") =
      .ok (.write ⟨⟨⟨["", "tree", "g"]⟩, "ours", .absent⟩, none⟩) := by rfl
  obtain ⟨old, hread, hguarded⟩ := commit_guarded
    (d := (Disk.oneFile "a").put ["tree", "g"] (.file "theirs".toUTF8 0o644)) (by decide) hplan
  have hold : old = none := by
    have hmiss : readBytes (.oneFile "a") ⟨["", "tree", "g"]⟩ = .ok none := by rfl
    exact Except.ok.inj (hread.symm.trans hmiss)
  subst hold
  exact ⟨hplan, hguarded.changed (some "theirs".toUTF8) (by rfl) (by decide) id⟩

end SourcePatch
