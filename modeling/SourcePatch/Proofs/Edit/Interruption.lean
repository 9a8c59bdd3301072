import Mathlib.Logic.Relation
import SourcePatch.Proofs.Edit.Ending

/-!
# Interrupted writes

An edit is a sequence of small steps: a temporary file is made, filled bit by bit, brought to the
disk, given the mode of the target, and renamed. Each step may fail, and then the temporary file is
taken away; and the program may be stopped between any two of them. Whoever reads the target
meanwhile finds all of what was there, or all of the new text with the mode it is to keep. Once the
edit returns, nothing else has changed: there is no temporary file.

## Main definitions

* `Edit.Phase`, `Edit.Step`: the steps of an edit.
* `Edit.Run`: any number of them.
* `Edit.TimedRun`: the same, if the time of the last change can be set.
* `Edit.OldOrNew`: what the target may be seen to hold.

## Main statements

* `Edit.TimedRun.cases`: how such a run ends.
* `Edit.all_or_nothing`: after any number of steps the target holds the old or the new, and after
  the last one nothing but the target has changed.
-/

namespace SourcePatch

namespace Disk

variable {d d' : Disk} {p : Path} {e l : Location}

/-! ## What is read -/

theorem lookup_of_readBytes {current : Option ByteArray} (h : readBytes d p = .ok current) :
    (∃ data mode, current = some data ∧ d.lookup p = .ok (.file data mode)) ∨
      current = none ∧ d.lookup p = .error .noSuchFile := by
  unfold readBytes read? read at h
  cases hl : d.lookup p with
  | error err =>
    rw [hl] at h
    cases err with
    | noSuchFile => cases h; exact .inr ⟨rfl, rfl⟩
    | _ => cases h
  | ok n =>
    rw [hl] at h
    cases n with
    | file data mode => cases h; exact .inl ⟨data, mode, rfl, rfl⟩
    | _ => cases h

/-- A file that is put at the entry of a path is found there, with its mode. -/
theorem lookup_put (content : ByteArray) (mode : Nat) {current : Option ByteArray}
    (hl : d.locateEntry p = .ok ⟨some l, false⟩) (hdir : d.node? l ≠ some .directory)
    (hread : readBytes d p = .ok current) :
    (d.put l (.file content mode)).lookup p = .ok (.file content mode) := by
  have hnode := node?_put_self (d := d) (ne_nil_of_node? hdir) (.file content mode)
  have hsame := locateEntry_put (n := .file content mode) hdir
    (not_linkToDirectory_of_readBytes hl hread) hl
  simp [lookup, locate_of_locateEntry hsame hnode (by simp), hnode, bind, Except.bind]

/-- No written path goes through the entry of a temporary file. -/
theorem unseen_of_locateEntry {directory : Path} {n : Nat}
    (h : d.locateEntry (directory.join ⟨[temporaryName n]⟩) = .ok ⟨some l, false⟩) :
    ¬ ∀ name ∈ l, IsSegment name := by
  obtain ⟨-, above, name, parent, m, hseg, -, -, -, rfl⟩ := locateEntry_eq_ok_iff.1 h
  rw [segments_join_temporaryName] at hseg
  obtain ⟨-, hname⟩ := List.append_inj' hseg rfl
  obtain rfl : temporaryName n = name := by simpa using hname
  exact fun hall => not_isSegment_temporaryName n (hall _ (by simp))

end Disk

namespace Edit

/-! ## Small steps -/

/-- How far an edit has come. -/
inductive Phase
  | start
  /-- The temporary file is there, and `left` is still to be written to it. -/
  | filling (temporary : Path) (left : ByteArray)
  /-- All is written, and the disk has confirmed it. -/
  | synced (temporary : Path)
  /-- The mode that the temporary file is to get is known. -/
  | granting (temporary : Path) (mode : Nat)
  | ready (temporary : Path)
  | renamed
  /-- Something has failed, and the temporary file is to go. -/
  | removing (temporary : Path) (cause : EditError)
  | finished (result : Except EditError EditResult)

/-- The temporary file that the edit goes on with. -/
def Phase.temporary? : Phase → Option Path
  | filling t _ | synced t | granting t _ | ready t => some t
  | start | renamed | removing .. | finished _ => none

/-- One step of an edit, on the disk as it is then. Whatever touches the disk may fail instead, for
any cause. -/
inductive Step (e : Edit) : Phase × Disk → Phase × Disk → Prop
  /-- The target cannot be read or is not what is expected, or there can be no temporary file. -/
  | refuse (d : Disk) (cause : EditError) : e.Step (.start, d) (.finished (.error cause), d)
  | same {d : Disk} : readBytes d e.file = .ok (some e.newText.toUTF8) →
      e.Step (.start, d) (.finished (.ok (.alreadyApplied e.file)), d)
  | create {d d' : Disk} {current : Option ByteArray} {directory : Path} (n : Nat) :
      readBytes d e.file = .ok current → current ≠ some e.newText.toUTF8 →
      e.expected.matchesCurrent current = true →
      e.file.parent? = some directory → directory.isEmpty = false →
      d.createPrivate (directory.join ⟨[temporaryName n]⟩) = .ok d' →
      e.Step (.start, d) (.filling (directory.join ⟨[temporaryName n]⟩) e.newText.toUTF8, d')
  | write {d d' : Disk} {t : Path} {left : ByteArray} (chunk rest : ByteArray) :
      left = chunk ++ rest → d.append t chunk = .ok d' →
      e.Step (.filling t left, d) (.filling t rest, d')
  | sync (d : Disk) (t : Path) : e.Step (.filling t .empty, d) (.synced t, d)
  | lookUp {d : Disk} (t : Path) {mode : Nat} : targetMode d e.file = .ok mode →
      e.Step (.synced t, d) (.granting t mode, d)
  | grant {d d' : Disk} {t : Path} {mode : Nat} : d.setMode t mode = .ok d' →
      e.Step (.granting t mode, d) (.ready t, d')
  | rename {d d' : Disk} {t : Path} : d.renameFile t e.file = .ok d' →
      e.Step (.ready t, d) (.renamed, d')
  | fail {phase : Phase} {t : Path} (d : Disk) (cause : EditError) :
      phase.temporary? = some t → e.Step (phase, d) (.removing t cause, d)
  | remove (d : Disk) (t : Path) (cause : EditError) :
      e.Step (.removing t cause, d) (.finished (.error cause), discard d t)
  | done (d : Disk) :
      e.Step (.renamed, d) (.finished (.ok (.applied e.file e.newText.utf8ByteSize)), d)
  /-- The time of the last change cannot be set. -/
  | untimed (d : Disk) (cause : IoError) : e.Step (.renamed, d) (.finished (.error (.io cause)), d)

/-- Any number of steps: where an edit may be when it is stopped, or has returned. -/
abbrev Run (e : Edit) : Phase × Disk → Phase × Disk → Prop := Relation.ReflTransGen e.Step

/-- A step that is not the one in which the time of the last change cannot be set. -/
def TimedStep (e : Edit) (s s' : Phase × Disk) : Prop :=
  e.Step s s' ∧ ∀ cause, s.1 = .renamed → s'.1 ≠ .finished (.error cause)

abbrev TimedRun (e : Edit) : Phase × Disk → Phase × Disk → Prop :=
  Relation.ReflTransGen e.TimedStep

/-- What the target may be seen to hold while an edit of `d` is on its way: what it held before, or
the new text with the mode of the file that was there, or of a new file. -/
def OldOrNew (e : Edit) (d d' : Disk) : Prop :=
  d'.lookup e.file = d.lookup e.file ∨
  (∃ old mode, d.lookup e.file = .ok (.file old mode) ∧
    d'.lookup e.file = .ok (.file e.newText.toUTF8 mode)) ∨
  d.lookup e.file = .error .noSuchFile ∧
    d'.lookup e.file = .ok (.file e.newText.toUTF8 defaultMode)

variable {e : Edit} {d d' d₁ d₂ : Disk} {phase phase₁ phase₂ : Phase} {t : Path}
  {content : ByteArray} {mode : Nat}

/-! ## The disk in each phase -/

/-- The disk holds a temporary file more than `d`, beside a target that could be read. -/
def Holds (e : Edit) (d : Disk) (t : Path) (content : ByteArray) (mode : Nat) (d' : Disk) : Prop :=
  ∃ current l, readBytes d e.file = .ok current ∧ d.locateEntry t = .ok ⟨some l, false⟩ ∧
    d.node? l = none ∧ (¬ ∀ name ∈ l, IsSegment name) ∧ d' = d.put l (.file content mode)

/-- The mode that the target is seen to have when the temporary file is full. -/
def Sees (e : Edit) (d : Disk) (t : Path) (mode : Nat) : Prop :=
  ∃ d', e.Holds d t e.newText.toUTF8 0o600 d' ∧ targetMode d' e.file = .ok mode

/-- The new text is at the target's entry, with the mode that the target was seen to have. -/
def Replaced (e : Edit) (d d' : Disk) : Prop :=
  ∃ current l t mode, readBytes d e.file = .ok current ∧
    d.locateEntry e.file = .ok ⟨some l, false⟩ ∧ d.node? l ≠ some .directory ∧
    e.Sees d t mode ∧ d' = d.put l (.file e.newText.toUTF8 mode)

/-- What an edit of `d` has made of it when it comes to a phase. -/
def Reaches (e : Edit) (d : Disk) : Phase → Disk → Prop
  | .start, d' => d' = d
  | .filling t left, d' => ∃ written, written ++ left = e.newText.toUTF8 ∧
      e.Holds d t written 0o600 d'
  | .synced t, d' => e.Holds d t e.newText.toUTF8 0o600 d'
  | .granting t mode, d' => e.Sees d t mode ∧ e.Holds d t e.newText.toUTF8 0o600 d'
  | .ready t, d' => ∃ mode, e.Sees d t mode ∧ e.Holds d t e.newText.toUTF8 mode d'
  | .renamed, d' => e.Replaced d d'
  | .removing t _, d' => ∃ content mode, e.Holds d t content mode d'
  | .finished _, d' => d' = d ∨ e.Replaced d d'

namespace Holds

theorem of_createPrivate {current : Option ByteArray} {directory : Path} {n : Nat}
    (hread : readBytes d e.file = .ok current)
    (h : d.createPrivate (directory.join ⟨[temporaryName n]⟩) = .ok d') :
    e.Holds d (directory.join ⟨[temporaryName n]⟩) .empty 0o600 d' := by
  obtain ⟨l, hl, hfree, rfl⟩ := Disk.createPrivate_temporary h
  exact ⟨current, l, hread, hl, hfree, Disk.unseen_of_locateEntry hl, rfl⟩

theorem append (h : e.Holds d t content mode d₁) {chunk : ByteArray}
    (ha : d₁.append t chunk = .ok d₂) : e.Holds d t (content ++ chunk) mode d₂ := by
  obtain ⟨current, l, hread, hl, hfree, hunseen, rfl⟩ := h
  rw [Disk.append_temporary hl hfree] at ha
  cases ha
  exact ⟨current, l, hread, hl, hfree, hunseen, rfl⟩

theorem setMode (h : e.Holds d t content mode d₁) {mode' : Nat}
    (hm : d₁.setMode t mode' = .ok d₂) : e.Holds d t content mode' d₂ := by
  obtain ⟨current, l, hread, hl, hfree, hunseen, rfl⟩ := h
  rw [Disk.setMode_temporary hl hfree] at hm
  cases hm
  exact ⟨current, l, hread, hl, hfree, hunseen, rfl⟩

theorem rename (h : e.Holds d t e.newText.toUTF8 mode d₁) (hmode : e.Sees d t mode)
    (hr : d₁.renameFile t e.file = .ok d₂) : e.Replaced d d₂ := by
  obtain ⟨current, l, hread, hl, hfree, -, rfl⟩ := h
  obtain ⟨target, htarget, hdir, rfl⟩ := Disk.renameFile_temporary hl hfree hr
  exact ⟨current, target, t, mode, hread, htarget, hdir, hmode, rfl⟩

theorem discard (h : e.Holds d t content mode d₁) : SourcePatch.discard d₁ t = d := by
  obtain ⟨current, l, -, hl, hfree, -, rfl⟩ := h
  exact Disk.discard_temporary hl hfree

end Holds

theorem Reaches.temporary (h : e.Reaches d phase d') (ht : phase.temporary? = some t) :
    ∃ content mode, e.Holds d t content mode d' := by
  cases phase with
  | filling t' left =>
    obtain ⟨written, -, hold⟩ := h
    cases ht
    exact ⟨_, _, hold⟩
  | synced t' => cases ht; exact ⟨_, _, h⟩
  | granting t' mode => cases ht; exact ⟨_, _, h.2⟩
  | ready t' =>
    obtain ⟨mode, -, hold⟩ := h
    cases ht
    exact ⟨_, _, hold⟩
  | start | renamed | removing | finished => cases ht

/-- Each step makes of the disk what the next phase says. -/
theorem Reaches.step (h : e.Reaches d phase₁ d₁) (hstep : e.Step (phase₁, d₁) (phase₂, d₂)) :
    e.Reaches d phase₂ d₂ := by
  cases hstep with
  | refuse _ cause => exact .inl h
  | same hread => exact .inl h
  | create n hread hne hmatch hparent hempty hmake =>
    cases h
    exact ⟨.empty, by simp, .of_createPrivate hread hmake⟩
  | write chunk rest hsplit happend =>
    obtain ⟨written, hall, hold⟩ := h
    refine ⟨written ++ chunk, ?_, hold.append happend⟩
    rw [ByteArray.append_assoc, ← hsplit, hall]
  | sync _ t =>
    obtain ⟨written, hall, hold⟩ := h
    obtain rfl : written = e.newText.toUTF8 := by simpa using hall
    exact hold
  | lookUp t hmode => exact ⟨⟨_, h, hmode⟩, h⟩
  | grant hgrant =>
    obtain ⟨hmode, hold⟩ := h
    exact ⟨_, hmode, hold.setMode hgrant⟩
  | rename hrename =>
    obtain ⟨mode, hmode, hold⟩ := h
    exact hold.rename hmode hrename
  | fail _ cause ht => exact h.temporary ht
  | remove _ t cause =>
    obtain ⟨content, mode, hold⟩ := h
    exact .inl hold.discard
  | done => exact .inr h
  | untimed => exact .inr h

theorem Reaches.run (hrun : e.Run (.start, d) (phase, d')) : e.Reaches d phase d' := by
  suffices ∀ s, e.Run (.start, d) s → e.Reaches d s.1 s.2 from this _ hrun
  intro s hrun
  induction hrun with
  | refl => rfl
  | tail _ hstep ih => exact ih.step hstep

theorem TimedRun.run {s s' : Phase × Disk} (h : e.TimedRun s s') : e.Run s s' :=
  Relation.ReflTransGen.mono (fun _ _ => And.left) _ _ h

/-- An edit that is not stopped by the time of the last change has put its new text in place and
says so, or has changed nothing. -/
theorem TimedRun.cases {result : Except EditError EditResult}
    (h : e.TimedRun (.start, d) (.finished result, d')) :
    (d' = d ∧ ∀ file n, result ≠ .ok (.applied file n)) ∨
    e.Replaced d d' ∧ result = .ok (.applied e.file e.newText.utf8ByteSize) := by
  obtain hstart | ⟨⟨phase, d₁⟩, hrun, hstep, hlast⟩ := Relation.ReflTransGen.cases_tail h
  · cases hstart
  have hreaches := Reaches.run (TimedRun.run hrun)
  cases hstep with
  | refuse _ cause => exact .inl ⟨hreaches, by simp⟩
  | same hread => exact .inl ⟨hreaches, by simp⟩
  | remove _ t cause =>
    obtain ⟨content, mode, hold⟩ := hreaches
    exact .inl ⟨hold.discard, by simp⟩
  | done => exact .inr ⟨hreaches, rfl⟩
  | untimed _ cause => exact absurd rfl (hlast _ rfl)

section

variable (hd : d.SlashFree) (hs : ∀ name ∈ d.startOf e.file, IsSegment name)
  (hn : ∀ name ∈ e.file.segments, IsSegment name)
include hd hs hn

/-- With a temporary file on the disk the target is what it was. -/
theorem Holds.lookup_eq (h : e.Holds d t content mode d') :
    d'.lookup e.file = d.lookup e.file := by
  obtain ⟨current, l, -, -, -, hunseen, rfl⟩ := h
  exact Disk.lookup_put_unseen hd hunseen hs hn

/-- So the mode that was seen is the one that it had. -/
theorem Sees.targetMode_eq (h : e.Sees d t mode) : targetMode d e.file = .ok mode := by
  obtain ⟨d', hold, hmode⟩ := h
  rwa [targetMode, Disk.mode, hold.lookup_eq hd hs hn] at hmode

theorem Replaced.oldOrNew (h : e.Replaced d d') : e.OldOrNew d d' := by
  obtain ⟨current, l, t, mode, hread, hl, hdir, hsees, rfl⟩ := h
  have hmode := hsees.targetMode_eq hd hs hn
  have hnew := Disk.lookup_put e.newText.toUTF8 mode hl hdir hread
  obtain ⟨old, before, -, hold⟩ | ⟨-, hnone⟩ := Disk.lookup_of_readBytes hread
  · have hsame : mode = before := by
      simpa [targetMode, Disk.mode, hold, bind, Except.bind] using hmode.symm
    exact .inr (.inl ⟨old, mode, hsame ▸ hold, hnew⟩)
  · have hsame : mode = defaultMode := by
      simpa [targetMode, Disk.mode, hnone, bind, Except.bind] using hmode.symm
    exact .inr (.inr ⟨hnone, hsame ▸ hnew⟩)

theorem Reaches.oldOrNew (h : e.Reaches d phase d') : e.OldOrNew d d' := by
  cases ht : phase.temporary? with
  | some t =>
    obtain ⟨content, mode, hold⟩ := h.temporary ht
    exact .inl (hold.lookup_eq hd hs hn)
  | none =>
    cases phase with
    | start => cases h; exact .inl rfl
    | renamed => exact Replaced.oldOrNew hd hs hn h
    | finished result =>
      obtain rfl | h := h
      · exact .inl rfl
      · exact h.oldOrNew hd hs hn
    | removing t cause =>
      obtain ⟨content, mode, hold⟩ := h
      exact .inl (hold.lookup_eq hd hs hn)
    | filling | synced | granting | ready => cases ht

end

/-! ## The edit takes such steps -/

theorem Step.timed {s s' : Phase × Disk} (h : e.Step s s') (hphase : s.1 ≠ .renamed) :
    e.TimedStep s s' :=
  ⟨h, fun _ heq => absurd heq hphase⟩

theorem timedRun_refuse (cause : EditError) :
    e.TimedRun (.start, d) (.finished (.error cause), d) :=
  .single ((Step.refuse d cause).timed (by simp))

/-- From a phase with a temporary file a failure leads to the end. -/
theorem timedRun_fail (ht : phase.temporary? = some t) (cause : EditError) :
    e.TimedRun (phase, d) (.finished (.error cause), discard d t) := by
  have hphase : phase ≠ .renamed := by
    rintro rfl
    cases ht
  exact (Relation.ReflTransGen.single ((Step.fail d cause ht).timed hphase)).tail
    ((Step.remove d t cause).timed (by simp))

/-- The content is written as far as that goes. -/
theorem timedRun_writeContent {l : Location} (hl : d.locateEntry t = .ok ⟨some l, false⟩)
    (hfree : d.node? l = none) (content : ByteArray) (fault : Option (Nat × IoError)) :
    ∃ left, e.TimedRun (.filling t content, d.put l (.file .empty 0o600))
      (.filling t left,
        (writeContent (d.put l (.file .empty 0o600)) t content fault).2) ∧
      ((writeContent (d.put l (.file .empty 0o600)) t content fault).1 = .ok () →
        left = .empty) := by
  rw [Disk.writeContent_temporary hl hfree]
  have hstep : ∀ chunk rest, content = chunk ++ rest →
      e.TimedRun (.filling t content, d.put l (.file .empty 0o600))
        (.filling t rest, d.put l (.file chunk 0o600)) := fun chunk rest hsplit =>
    .single ((Step.write chunk rest hsplit (Disk.append_fresh_temporary hl hfree chunk)).timed
      (by simp))
  rcases fault with _ | ⟨n, err⟩
  · exact ⟨.empty, hstep content .empty (by simp), fun _ => rfl⟩
  · refine ⟨content.extract n content.size, hstep _ _ ?_, fun h => by cases h⟩
    ext1
    simp

theorem timedRun_fillAndRename {l : Location} (hl : d.locateEntry t = .ok ⟨some l, false⟩)
    (hfree : d.node? l = none) (f : WriteFaults) (hd₁ : d₁ = d.put l (.file .empty 0o600)) :
    e.TimedRun (.filling t e.newText.toUTF8, d₁)
      (match fillAndRename d₁ t e.file e.newText.toUTF8 f with
        | (.ok (), d') => (.finished (.ok (.applied e.file e.newText.utf8ByteSize)), d')
        | (.error err, d') => (.finished (.error err), discard d' t)) := by
  subst hd₁
  obtain ⟨left, hwrite, hall⟩ :=
    timedRun_writeContent (e := e) hl hfree e.newText.toUTF8 f.write
  unfold fillAndRename
  rw [Disk.writeContent_temporary hl hfree] at hwrite hall ⊢
  generalize f.write = fault at hwrite hall ⊢
  rcases fault with _ | ⟨n, err⟩
  swap
  · exact hwrite.trans (timedRun_fail rfl _)
  obtain rfl := hall rfl
  dsimp only at hwrite ⊢
  rw [Disk.sync_temporary hl hfree]
  rcases f.sync with _ | err
  swap
  · exact hwrite.trans (timedRun_fail rfl _)
  have hfill := hwrite.tail ((Step.sync _ t).timed (by simp))
  dsimp only [orFault]
  cases hmode : targetMode (d.put l (.file e.newText.toUTF8 0o600)) e.file with
  | error err => exact hfill.trans (timedRun_fail rfl _)
  | ok mode =>
    have hgrant : (d.put l (.file e.newText.toUTF8 0o600)).setMode t mode =
        .ok (d.put l (.file e.newText.toUTF8 mode)) := Disk.setMode_temporary hl hfree mode
    have hlook := hfill.tail ((Step.lookUp t hmode).timed (by simp))
    dsimp only
    rw [hgrant]
    rcases f.setMode with _ | err
    swap
    · exact hlook.trans (timedRun_fail rfl _)
    have hready := hlook.tail ((Step.grant hgrant).timed (by simp))
    dsimp only
    cases hr : (d.put l (.file e.newText.toUTF8 mode)).renameFile t e.file with
    | error err => exact hready.trans (timedRun_fail rfl _)
    | ok d' =>
      exact (hready.tail ((Step.rename hr).timed (by simp))).tail ⟨.done d', by simp⟩

/-- What an edit does is such a run, to its end, whatever goes wrong with its temporary file. -/
theorem timedRun_apply (e : Edit) (d : Disk) (f : WriteFaults) :
    e.TimedRun (.start, d) (.finished (e.apply d f).1, (e.apply d f).2) := by
  unfold Edit.apply
  cases hread : readBytes d e.file with
  | error err => exact timedRun_refuse _
  | ok current =>
    dsimp only
    split
    · next heq => exact .single ((Step.same (heq ▸ hread)).timed (by simp))
    next hne =>
    split
    swap
    · exact timedRun_refuse _
    next hmatch =>
    unfold Disk.replaceFile
    cases hparent : e.file.parent? with
    | none => exact timedRun_refuse _
    | some directory =>
      dsimp only
      by_cases hempty : directory.isEmpty = true
      · rw [if_pos hempty]
        exact timedRun_refuse _
      rw [if_neg hempty]
      cases hmake : createTemporary d directory (d.entries.length + 1) 0 with
      | error err => exact timedRun_refuse _
      | ok made =>
        obtain ⟨t, d₁⟩ := made
        obtain ⟨n, l, rfl, hl, hfree, hd₁⟩ := Disk.createTemporary_eq_ok hmake
        have hcreate : d.createPrivate (directory.join ⟨[temporaryName n]⟩) = .ok d₁ := by
          simp [Disk.createPrivate, hl, hfree, hd₁, bind, Except.bind]
        have hrest := timedRun_fillAndRename (e := e) hl hfree f hd₁
        have hstep : e.TimedStep (.start, d)
            (.filling (directory.join ⟨[temporaryName n]⟩) e.newText.toUTF8, d₁) :=
          (Step.create n hread hne hmatch hparent (by simpa using hempty) hcreate).timed (by simp)
        refine (Relation.ReflTransGen.single hstep).trans ?_
        dsimp only
        revert hrest
        cases fillAndRename d₁ (directory.join ⟨[temporaryName n]⟩) e.file e.newText.toUTF8 f with
        | mk result d' =>
          cases result with
          | error err => exact id
          | ok u => exact id

/-- An edit is all or nothing. It comes to its end in small steps, whatever goes wrong with its
temporary file. Wherever it fails or is stopped on the way, or on any other way in which those steps
could fail, its target holds all of what was there or all of the new text. When it has returned,
nothing but the entry of the target has changed, so there is no temporary file. -/
theorem all_or_nothing (e : Edit) (d : Disk) (hd : d.SlashFree)
    (hs : ∀ name ∈ d.startOf e.file, IsSegment name)
    (hn : ∀ name ∈ e.file.segments, IsSegment name) :
    (∀ f, e.Run (.start, d) (.finished (e.apply d f).1, (e.apply d f).2)) ∧
    ∀ phase d', e.Run (.start, d) (phase, d') →
      e.OldOrNew d d' ∧
      ∀ result, phase = .finished result →
        ∀ l, d.locateEntry e.file ≠ .ok ⟨some l, false⟩ → d'.node? l = d.node? l := by
  refine ⟨fun f => TimedRun.run (e.timedRun_apply d f), fun phase d' hrun => ?_⟩
  have hreaches := Reaches.run hrun
  refine ⟨hreaches.oldOrNew hd hs hn, fun result hphase l hl => ?_⟩
  subst hphase
  obtain rfl | ⟨current, target, t, mode, -, htarget, -, -, rfl⟩ := hreaches
  · rfl
  · exact Disk.node?_put_of_ne (by rintro rfl; exact hl htarget) _

end Edit

/-- A disk with the file `/f`, which is not for everybody. -/
def Disk.groupFile (content : String) : Disk := ⟨[(["f"], .file content.toUTF8 0o640)], []⟩

/-- An edit of `/f`. -/
def Edit.oldToNew : Edit := ⟨⟨["", "f"]⟩, "new", .ofCurrent (some "old".toUTF8)⟩

/-- Stopped with two bytes of the new text written, and not stopped at all. -/
theorem all_or_nothing_of_half :
    (∃ d', Edit.oldToNew.Run (.start, .groupFile "old")
        (.filling ⟨["", temporaryName 0]⟩ "w".toUTF8, d') ∧
      d'.lookup ⟨["", temporaryName 0]⟩ = .ok (.file "ne".toUTF8 0o600) ∧
      Edit.oldToNew.OldOrNew (.groupFile "old") d' ∧
      d'.lookup ⟨["", "f"]⟩ = .ok (.file "old".toUTF8 0o640)) ∧
    (Edit.oldToNew.apply (.groupFile "old")).2.lookup ⟨["", "f"]⟩ =
      .ok (.file "new".toUTF8 0o640) ∧
    (Edit.oldToNew.apply (.groupFile "old")).2.node? [temporaryName 0] = none := by
  have hall := Edit.oldToNew.all_or_nothing (.groupFile "old") (by decide) (by decide) (by decide)
  have hread : readBytes (.groupFile "old") Edit.oldToNew.file = .ok (some "old".toUTF8) := by rfl
  have hparent : Edit.oldToNew.file.parent? = some ⟨["", ""]⟩ := by rfl
  have hentry : (Disk.groupFile "old").locateEntry Edit.oldToNew.file = .ok ⟨some ["f"], false⟩ :=
    by rfl
  have hcreate : Edit.oldToNew.Step (.start, .groupFile "old")
      (.filling ⟨["", temporaryName 0]⟩ "new".toUTF8,
        (Disk.groupFile "old").put [temporaryName 0] (.file .empty 0o600)) :=
    .create 0 hread (by decide) (by rfl) hparent (by rfl) (by rfl)
  have hwrite : Edit.oldToNew.Step
      (.filling ⟨["", temporaryName 0]⟩ "new".toUTF8,
        (Disk.groupFile "old").put [temporaryName 0] (.file .empty 0o600))
      (.filling ⟨["", temporaryName 0]⟩ "w".toUTF8,
        (Disk.groupFile "old").put [temporaryName 0] (.file "ne".toUTF8 0o600)) :=
    .write "ne".toUTF8 "w".toUTF8 (by decide) (by rfl)
  have hrun := (Relation.ReflTransGen.single hcreate).tail hwrite
  have hother : (Disk.groupFile "old").locateEntry Edit.oldToNew.file ≠
      .ok ⟨some [temporaryName 0], false⟩ := by
    rw [hentry]
    simp only [ne_eq, Except.ok.injEq, Disk.Entry.mk.injEq, Option.some.injEq]
    decide
  have hend := (hall.2 _ _ (hall.1 .none)).2 _ rfl [temporaryName 0] hother
  exact ⟨⟨_, hrun, by rfl, (hall.2 _ _ hrun).1, by rfl⟩, by rfl, hend⟩

end SourcePatch
