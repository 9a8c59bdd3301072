import SourcePatch.Proofs.Engine.NewFile
import SourcePatch.Proofs.Engine.SecondRun
import SourcePatch.Proofs.Engine.GuardedAppend

/-!
# Patches that have run

After a patch has run there is nothing left for it to do: it finds what it was to write, or it fails
once more for the same reason. This stays so while the disk changes in other places.

## Main definitions

* `Patch.Unmoved`: another disk is the same to a patch.
* `Patch.MarkerSurvives`: an append leaves its marker.

## Main statements

* `Patch.settled`: a patch that has run changes nothing when it runs again.
-/

namespace SourcePatch

variable {p : Patch} {r : Root} {d d₁ : Disk} {w : PlannedWrite}

/-! ## What a patch keeps -/

namespace Patch

theorem persists_carryOut (hd : d.WellFormed) : d.Persists (p.carryOut r d).2 := by
  obtain ⟨res, -, h⟩ | ⟨w, hplan, ⟨res, -, h⟩ |
    ⟨d₁, current, e, mode, hprep, hread, hl, hdir, h⟩⟩ := p.carryOut_cases r d
  · rw [h]
    exact .refl d
  · rw [h]
    exact .of_extends hd (prepared_prepare hd hplan).gains.gainsDirectories.extends
  · have hgain := (prepared_prepare hd hplan).gains
    rw [hprep] at hgain
    rw [h]
    exact (Disk.Persists.of_extends hd hgain.gainsDirectories.extends).trans
      (.put hdir (Disk.not_linkToDirectory_of_readBytes hl hread))

/-- What is prepared for a write has no slashes in its names. -/
theorem slashFree_prepare (hd : d.Sound) (h : p.plan r d = .ok (.write w)) :
    (w.prepare r d).2.SlashFree := by
  obtain ⟨current, hf, hread, hexp, -⟩ := plan_write h
  cases current with
  | some bytes =>
    rw [prepare_of_some hexp]
    exact hd.slashFree
  | none =>
    have ht := Path.segments_ofString_ne_nil p.file
    have hup := Root.descends_of_read hf ht hread
    have hn := Root.isSegment_of_resolve hd hf hread
    obtain ⟨above, last, idle, hend⟩ :=
      Disk.exists_endsIn_of_missing (Root.isAbsolute_of_resolve hf ht) hread
    rw [prepare_of_none hexp]
    obtain hsame | ⟨pre, name, rest, b, m, hmiss, -, hdug⟩ :=
      Root.ensureParent_cases hend hup hread r hd.wellFormed
    · rw [hsame]
      exact hd.slashFree
    · have habove : ∀ s ∈ above, IsSegment s := fun s hs => hn s (by simp [hend.segments, hs])
      rw [hmiss.names_eq] at habove
      rw [hdug]
      exact hd.slashFree.dig
        (hd.slashFree.of_travel (by simp) (fun s hs => habove s (by simp [hs])) hmiss.reaches)
        fun s hs => habove s (List.mem_append_right _ hs)

theorem slashFree_carryOut (hd : d.Sound) : (p.carryOut r d).2.SlashFree := by
  obtain ⟨res, -, h⟩ | ⟨w, hplan, ⟨res, -, h⟩ | ⟨d₁, current, e, mode, hprep, -, hl, -, h⟩⟩ :=
    p.carryOut_cases r d
  · rw [h]
    exact hd.slashFree
  · rw [h]
    exact slashFree_prepare hd hplan
  · have hs₁ := slashFree_prepare hd hplan
    rw [hprep] at hs₁
    obtain ⟨current, hf, hread, -⟩ := plan_write hplan
    rw [h]
    exact hs₁.put (hs₁.of_locateEntry (Root.isAbsolute_of_resolve hf
      (Path.segments_ofString_ne_nil p.file)) (Root.isSegment_of_resolve hd hf hread) hl)
      (by simp [Node.targetNames])

theorem sound_carryOut (hd : d.Sound) : (p.carryOut r d).2.Sound :=
  ⟨wellFormed_carryOut hd.wellFormed, slashFree_carryOut hd⟩

end Patch

/-! ## What a patch leaves to write -/

namespace Patch

/-- What a patch has written gives it nothing to write. -/
theorem not_write_of_read (h : p.plan r d = .ok (.write w))
    (hmarker : ∀ marker fragment, p.operation = .appendGuarded marker fragment →
      Literal.occursIn marker w.edit.newText = true)
    (hread : readBytes d₁ w.edit.file = .ok (some w.edit.newText.toUTF8)) (w' : PlannedWrite) :
    p.plan r d₁ ≠ .ok (.write w') := by
  intro h'
  have hfile : w'.edit.file = w.edit.file := (edit_file_eq h').trans (edit_file_eq h).symm
  cases hop : p.operation with
  | author content =>
    rw [plan_author hop] at h h'
    obtain ⟨hnew, -⟩ := planAuthor_write h
    obtain ⟨-, hnot⟩ := planAuthor_write h'
    rw [hfile, ← hnew] at hnot
    exact hnot hread
  | transform rules marker =>
    rw [plan_transform hop, bind_eq_ok] at h h'
    obtain ⟨s, hs, h⟩ := h
    obtain ⟨s', hs', h'⟩ := h'
    rw [hs] at hs'
    cases hs'
    obtain ⟨hfix, -⟩ := planTransform_write h
    obtain ⟨-, text, hread', hne⟩ := planTransform_write h'
    rw [hfile, hread] at hread'
    obtain rfl := toUTF8_injective (Option.some.inj (Except.ok.inj hread'))
    exact hne hfix
  | appendGuarded marker fragment =>
    rw [plan_append hop] at h'
    obtain ⟨text, hread', hnot, -⟩ := planAppend_write h'
    rw [hfile, hread] at hread'
    obtain rfl := toUTF8_injective (Option.some.inj (Except.ok.inj hread'))
    rw [hmarker marker fragment hop] at hnot
    cases hnot

/-- If an append finds its file without its marker, the marker survives in the new text. -/
def MarkerSurvives (p : Patch) (r : Root) (d : Disk) : Prop :=
  ∀ marker fragment text, p.operation = .appendGuarded marker fragment →
    readText d (p.path r) = .ok (some text) → Literal.occursIn marker text = false →
    Survives marker.toList text.toList fragment.toList

theorem occursIn_newText (h : p.plan r d = .ok (.write w)) (hsurv : p.MarkerSurvives r d)
    (hvalid : ∀ marker fragment, p.operation = .appendGuarded marker fragment →
      Literal.occursIn marker fragment = true) {marker fragment : String}
    (hop : p.operation = .appendGuarded marker fragment) :
    Literal.occursIn marker w.edit.newText = true := by
  have hpath := edit_file_eq h
  rw [plan_append hop] at h
  obtain ⟨text, hread, hnot, hnew⟩ := planAppend_write h
  rw [hpath] at hread
  rw [hnew, occursIn_joinFragment_iff (hvalid marker fragment hop) hnot]
  exact hsurv marker fragment text hop (readText_of_readBytes hread) hnot

end Patch

/-! ## Patches that have run -/

namespace Patch

/-- A patch that has not made its new file and is to make it once more is refused. -/
theorem refuses_of_write (hd : d.Sound) {w' : PlannedWrite}
    (h : p.plan r d = .ok (.write w)) (hread : readBytes d w.edit.file = .ok none)
    (hagain : p.plan r (p.carryOut r d).2 = .ok (.write w')) :
    r.Refuses (p.carryOut r d).2 w.edit.file ∧
      readBytes (p.carryOut r d).2 w.edit.file = .ok none := by
  obtain ⟨current, hf, hcurrent, hexp, hop⟩ := plan_write h
  obtain rfl : current = none := by
    rw [hread] at hcurrent
    cases hcurrent
    rfl
  obtain ⟨content, hop⟩ := hop rfl
  obtain ⟨now, -, hnow, -⟩ := plan_write hagain
  rw [(edit_file_eq hagain).trans (edit_file_eq h).symm] at hnow
  have hnew : readBytes (p.carryOut r d).2 w.edit.file ≠ .ok (some w.edit.newText.toUTF8) := by
    intro hsame
    refine not_write_of_read h (fun marker fragment happend => ?_) hsame w' hagain
    rw [hop] at happend
    cases happend
  have ht := Path.segments_ofString_ne_nil p.file
  have hs' := slashFree_prepare hd h
  rw [carryOut_of_write h] at hnow hnew ⊢
  refine PlannedWrite.refuses_of_commit hd.wellFormed (Root.isAbsolute_of_resolve hf ht)
    (Root.descends_of_read hf ht hread) (Root.isSegment_of_resolve hd hf hread) hread hexp hs'
    hnow fun hsame => hnew (hsame ▸ hnow)

/-- Another disk is the same to a patch: it plans the same, and if that is a write, no link leads on
that did not. -/
def Unmoved (p : Patch) (r : Root) (d d₁ : Disk) : Prop :=
  p.plan r d₁ = p.plan r d ∧ ∀ w, p.plan r d = .ok (.write w) → ¬ d.Revives d₁ w.edit.file

section

variable {w₁ : PlannedWrite} (hd : d.Sound) (hd₁ : d₁.Sound)
  (h : p.plan r d = .ok (.write w)) (hpers : (p.carryOut r d).2.Persists d₁)
  (hagain : p.plan r (p.carryOut r d).2 = .ok (.write w₁)) (h₁ : p.plan r d₁ = .ok (.write w₁))
include hd hd₁ h hpers hagain h₁

/-- A new file that could not be made cannot be made again. -/
theorem settled_of_none (hread : readBytes d w.edit.file = .ok none)
    (hrev : ¬ (p.carryOut r d).2.Revives d₁ w₁.edit.file) : (p.carryOut r d₁).2 = d₁ := by
  obtain ⟨hrefuse, hnone⟩ := refuses_of_write hd h hread hagain
  rw [(edit_file_eq h).trans (edit_file_eq h₁).symm] at hrefuse hnone
  obtain ⟨now, hf, hnow, hexp, -⟩ := plan_write hagain
  rw [hnone] at hnow
  cases hnow
  obtain ⟨current, hf₁, hread₁, hexp₁, -⟩ := plan_write h₁
  obtain rfl : current = none := by
    rw [hexp] at hexp₁
    exact Verification.ofCurrent_eq_absent_iff.1 hexp₁.symm
  have ht := Path.segments_ofString_ne_nil p.file
  have hcheck := Disk.checkPath_of_readBytes (Root.isAbsolute_of_resolve hf ht) hnone
  obtain ⟨err, hcommit⟩ := (hrefuse.persists hcheck hpers hrev).commit hd₁.slashFree
    (Root.isSegment_of_resolve hd₁ hf₁ hread₁) (Root.descends_of_read hf₁ ht hread₁) hread₁ hexp
  rw [carryOut_of_write h₁, hcommit]

/-- A file that could not be replaced cannot be replaced again. -/
theorem settled_of_some {bytes : ByteArray} (hread : readBytes d w.edit.file = .ok (some bytes))
    (hmarker : ∀ marker fragment, p.operation = .appendGuarded marker fragment →
      Literal.occursIn marker w.edit.newText = true) : (p.carryOut r d₁).2 = d₁ := by
  obtain ⟨current, hf, hcurrent, hexp, -⟩ := plan_write h
  obtain rfl : current = some bytes := by
    rw [hread] at hcurrent
    cases hcurrent
    rfl
  have ht := Path.segments_ofString_ne_nil p.file
  have habs := Root.isAbsolute_of_resolve hf ht
  have hup := Root.descends_of_read hf ht hread
  have hn := Root.isSegment_of_resolve hd hf hread
  obtain ⟨above, last, idle, c, m, hends, hreach, hc⟩ :=
    Disk.exists_endsIn_of_file hd.wellFormed habs hread
  -- the new text is not there before it is written
  have hne : ∀ {d' : Disk} {now : ByteArray} {w' : PlannedWrite},
      p.plan r d' = .ok (.write w') → readBytes d' w.edit.file = .ok (some now) →
      now ≠ w.edit.newText.toUTF8 := by
    rintro d' now w' hplan' hread' rfl
    exact not_write_of_read h hmarker hread' w' hplan'
  have hmatch : ∀ {now : Option ByteArray}, w.edit.expected = .ofCurrent now →
      w.edit.expected.matchesCurrent now = true := fun hnow =>
    hnow ▸ Verification.matchesCurrent_ofCurrent _
  obtain ⟨l, mode, hl, hnode⟩ := Disk.readBytes_eq_some_iff.1 hread
  have happly := Edit.applyIn_of_file hends hup hl hnode (hne h hread) (hmatch hexp) hd.slashFree
    hn hreach hc
  -- over a file a write fails only for the path of its temporary file, which stays the same
  cases hcheck : Disk.checkPath
      ((Path.ofNames (Path.trimmed false above)).join ⟨[temporaryName 0]⟩) with
  | ok u =>
    rw [hcheck] at happly
    have hnew := Edit.readBytes_of_applyIn happly
    rw [carryOut_of_write h, PlannedWrite.commit_of_some hexp, happly] at hagain
    exact absurd hagain (not_write_of_read h hmarker hnew w₁)
  | error err =>
    rw [hcheck] at happly
    rw [carryOut_of_write h, PlannedWrite.commit_of_some hexp, happly] at hpers hagain
    rw [h] at hagain
    cases hagain
    obtain ⟨now, -, hread₁, hexp₁, -⟩ := plan_write h₁
    cases now with
    | none =>
      rw [hexp] at hexp₁
      cases Verification.ofCurrent_eq_absent_iff.1 hexp₁
    | some now =>
      obtain ⟨l₁, mode₁, hl₁, hnode₁⟩ := Disk.readBytes_eq_some_iff.1 hread₁
      have happly₁ := Edit.applyIn_of_file hends hup hl₁ hnode₁ (hne h₁ hread₁) (hmatch hexp₁)
        hd₁.slashFree hn (hpers.way hreach hc) (hpers.directory c hc)
      rw [hcheck] at happly₁
      rw [carryOut_of_write h₁, PlannedWrite.commit_of_some hexp, happly₁]

end

/-- A patch that has run changes nothing when it runs again, if what it sees is the same. -/
theorem settled (hd : d.Sound) (hd₁ : d₁.Sound)
    (hvalid : ∀ marker fragment, p.operation = .appendGuarded marker fragment →
      Literal.occursIn marker fragment = true) (hsurv : p.MarkerSurvives r d)
    (hpers : (p.carryOut r d).2.Persists d₁) (hun : p.Unmoved r (p.carryOut r d).2 d₁) :
    (p.carryOut r d₁).2 = d₁ := by
  obtain ⟨hsame, hrev⟩ := hun
  cases h₁ : p.plan r d₁ with
  | error err => rw [carryOut_of_error h₁]
  | ok plan₁ =>
    cases plan₁ with
    | skip res => rw [carryOut_of_skip h₁]
    | write w₁ =>
      have hagain := hsame.symm.trans h₁
      cases h : p.plan r d with
      | error err =>
        rw [carryOut_of_error h, h] at hagain
        cases hagain
      | ok plan =>
        cases plan with
        | skip res =>
          rw [carryOut_of_skip h, h] at hagain
          cases hagain
        | write w =>
          obtain ⟨current, -, hread, -⟩ := plan_write h
          cases current with
          | none => exact settled_of_none hd hd₁ h hpers hagain h₁ hread (hrev w₁ hagain)
          | some bytes =>
            exact settled_of_some hd hd₁ h hpers hagain h₁ hread fun _ _ hop =>
              occursIn_newText h hsurv hvalid hop

end Patch

end SourcePatch
