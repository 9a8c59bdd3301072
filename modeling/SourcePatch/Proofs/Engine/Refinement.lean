import Mathlib.Data.List.Infix
import SourcePatch.Proofs.Engine.Commit
import SourcePatch.Proofs.Text.Newline

/-!
# What patches make of bytes

A patch that is planned and carried out at once comes to what its kind makes of the bytes of the
target. Neither the rest of the disk nor the way on which the new text gets there matters, unless
the target is refused or the disk does not let it be read or written.

## Main definitions

* `authorOutcome`, `transformOutcome`, `appendOutcome`: what the three kinds of patches report, and
  the bytes that they leave.
* `Refines`: a run comes to what an outcome says.

## Main statements

* `oneShot_refines`: the runs of all three kinds do.
-/

namespace SourcePatch

/-- Whether the target was refused, or could not be reached, read or written. -/
def EngineError.isSafetyOrIo : EngineError → Bool
  | .safety _ | .locate _ | .edit (.io _) | .edit (.temporary _) => true
  | .rule _ | .edit (.changed ..) | .edit (.missingParent _) | .edit (.notText _) => false

/-! ## Outcomes -/

/-- A report, and the bytes of the file after it, or `none` if there is no file. -/
abbrev FileOutcome := Except EngineError PatchResult × Option ByteArray

/-- What writing a whole file comes to. -/
def authorOutcome (content : String) (file : Path) (old : Option ByteArray) : FileOutcome :=
  if old = some content.toUTF8 then (.ok (.unchanged file), old)
  else (.ok (.applied file), some content.toUTF8)

/-- What is made of a text comes to if there is a file and it is text; other files are left. -/
def textOutcome (file : Path) (onText : String → FileOutcome) : Option ByteArray → FileOutcome
  | none => (.ok (.skippedMissing file), none)
  | some bytes =>
    match String.fromUTF8? bytes with
    | some text => onText text
    | none =>
      (.error (.edit (.notText ((Decoding.firstFault? bytes).getD ⟨0, none⟩))), some bytes)

theorem textOutcome_toUTF8 (file : Path) (onText : String → FileOutcome) (text : String) :
    textOutcome file onText (some text.toUTF8) = onText text := by
  rw [textOutcome, fromUTF8?_toUTF8]

/-- Why rules leave a text as it is. -/
def noOpReason (rules : RuleSet) (appliedMarker : Option String) (text : String) : NoOpReason :=
  if (rules.presentIn text).isEmpty then noMatchReason appliedMarker text else .unchanged

/-- What running rules over a file comes to. -/
def transformOutcome (rules : RuleSet) (appliedMarker : Option String) (file : Path) :
    Option ByteArray → FileOutcome :=
  textOutcome file fun text =>
    if rules.apply text = text then
      (.ok (.skippedNoOp file (noOpReason rules appliedMarker text)), some text.toUTF8)
    else if rules.apply (rules.apply text) = rules.apply text then
      (.ok (.applied file), some (rules.apply text).toUTF8)
    else
      (.error (.rule (.notIdempotent (rules.presentIn (rules.apply text)))), some text.toUTF8)

/-- What appending a fragment with a marker comes to. -/
def appendOutcome (marker fragment : String) (file : Path) : Option ByteArray → FileOutcome :=
  textOutcome file fun text =>
    if marker.toList <:+: text.toList then (.ok (.skippedPresent file), some text.toUTF8)
    else (.ok (.applied file), some (joinFragment text fragment).toUTF8)

/-- A run on a target comes to what `outcome` says of the bytes there, unless the target is refused
or cannot be reached, read or written. -/
def Refines (r : Root) (d : Disk) (target : Path) (run : Except EngineError PatchResult × Disk)
    (outcome : Path → Option ByteArray → FileOutcome) : Prop :=
  (∃ e, run.1 = .error e ∧ e.isSafetyOrIo = true) ∨
    ∃ file old, r.resolve d target = .ok file ∧ readBytes d file = .ok old ∧
      run.1 = (outcome file old).1 ∧ readBytes run.2 file = .ok (outcome file old).2

/-! ## Errors of the disk -/

theorem readBytes_error {d : Disk} {p : Path} {e : EditError} (h : readBytes d p = .error e) :
    ∃ cause, e = .io cause := by
  unfold readBytes at h
  cases hr : d.read? p with
  | ok current => rw [hr] at h; cases h
  | error cause => rw [hr] at h; cases h; exact ⟨cause, rfl⟩

theorem isSafetyOrIo_of_read {d : Disk} {p : Path} {e : EditError}
    (h : readBytes d p = .error e) : (EngineError.edit e).isSafetyOrIo = true := by
  obtain ⟨cause, rfl⟩ := readBytes_error h
  rfl

/-- What fails with a temporary file there fails for what the disk says. -/
theorem isSafetyOrIo_of_fillAndRename {d d' : Disk} {t p : Path} {content : ByteArray}
    {e : EditError} (h : fillAndRename d t p content = (.error e, d')) :
    (EngineError.edit e).isSafetyOrIo = true := by
  unfold fillAndRename at h
  repeat' split at h
  all_goals cases h <;> rfl

/-- Below a directory a write fails for what the disk says. -/
theorem isSafetyOrIo_of_replaceFile {d d' : Disk} {p directory : Path} {content : ByteArray}
    {e : EditError} (hp : p.parent? = some directory) (hne : directory.isEmpty = false)
    (h : d.replaceFile p content = (.error e, d')) : (EngineError.edit e).isSafetyOrIo = true := by
  unfold Disk.replaceFile at h
  rw [hp] at h
  dsimp only at h
  rw [if_neg (by simp [hne])] at h
  cases hc : createTemporary d directory (d.entries.length + 1) 0 with
  | error cause => rw [hc] at h; cases h; rfl
  | ok made =>
    rw [hc] at h
    dsimp only at h
    rcases hf : fillAndRename made.2 made.1 p content with ⟨cause | u, d₁⟩
    · rw [hf] at h; cases h; exact isSafetyOrIo_of_fillAndRename hf
    · rw [hf] at h; cases h

/-! ## Writes -/

section

variable {w : PlannedWrite} {r : Root} {d : Disk} {target : Path} {current : Option ByteArray}

/-- The edit of a file that is as expected puts the new text there, unless the disk does not let
it. -/
theorem applyIn_refines {directory : Path} {e : Edit} (hp : e.file.parent? = some directory)
    (hne : directory.isEmpty = false) (hread : readBytes d e.file = .ok current)
    (hm : e.expected.matchesCurrent current = true) (hdiff : current ≠ some e.newText.toUTF8) :
    (∃ err, (e.applyIn d).1 = .error err ∧ err.isSafetyOrIo = true) ∨
      (e.applyIn d).1 = .ok (.applied e.file) ∧
        readBytes (e.applyIn d).2 e.file = .ok (some e.newText.toUTF8) := by
  have hunfold := Edit.applyIn_eq_replaceFile hread hdiff hm
  rcases hw : d.replaceFile e.file e.newText.toUTF8 with ⟨err | u, d'⟩
  · left
    have herr := isSafetyOrIo_of_replaceFile hp hne hw
    rw [hunfold, hw]
    exact ⟨_, rfl, herr⟩
  · right
    have hrun : e.applyIn d = (.ok (.applied e.file), d') := by rw [hunfold, hw]
    have hnew := Edit.readBytes_of_applyIn hrun
    rw [hrun]
    exact ⟨rfl, hnew⟩

theorem parent_of_read (hd : d.WellFormed) {p : Path} {bytes : ByteArray}
    (hp : p.isAbsolute = true) (hup : ".." ∉ p.segments)
    (hread : readBytes d p = .ok (some bytes)) :
    ∃ directory, p.parent? = some directory ∧ directory.isEmpty = false := by
  obtain ⟨l, mode, hl, hn⟩ := Disk.readBytes_eq_some_iff.1 hread
  obtain ⟨e, he, -⟩ := Disk.locateEntry_of_not_directory hd hp hl (by simp [hn])
  obtain ⟨q, b, name, hq, -⟩ := Disk.locate_parent hp he
  exact ⟨q, hq, (Path.Plain.of_parent? hp hup hq).isEmpty_eq_false⟩

/-- A write that is planned and carried out on one disk puts its text there, unless the disk does
not let it. -/
theorem commit_refines (hd : d.WellFormed) (hf : r.resolve d target = .ok w.edit.file)
    (ht : target.segments ≠ []) (hread : readBytes d w.edit.file = .ok current)
    (hexp : w.edit.expected = .ofCurrent current)
    (hdiff : current ≠ some w.edit.newText.toUTF8) :
    (∃ err, ((Plan.write w).commit r d).1 = .error err ∧ err.isSafetyOrIo = true) ∨
      ((Plan.write w).commit r d).1 = .ok (.applied w.edit.file) ∧
        readBytes ((Plan.write w).commit r d).2 w.edit.file =
          .ok (some w.edit.newText.toUTF8) := by
  have habs := Root.isAbsolute_of_resolve hf ht
  have hup := Root.descends_of_read hf ht hread
  have hm := hexp ▸ Verification.matchesCurrent_ofCurrent current
  cases current with
  | some bytes =>
    obtain ⟨directory, hp, hne⟩ := parent_of_read hd habs hup hread
    rw [PlannedWrite.commit_of_some hexp]
    exact applyIn_refines hp hne hread hm hdiff
  | none =>
    rw [PlannedWrite.commit_of_none hexp]
    rcases hens : r.ensureParent d w.edit.file with ⟨err | u, d'⟩
    · exact .inl ⟨_, rfl, rfl⟩
    · dsimp only
      obtain ⟨directory, hp⟩ : ∃ directory, w.edit.file.parent? = some directory := by
        cases hp : w.edit.file.parent? with
        | some directory => exact ⟨directory, rfl⟩
        | none => rw [Root.ensureParent, hp] at hens; cases hens
      have hne := (Path.Plain.of_parent? habs hup hp).isEmpty_eq_false
      cases hcur : readBytes d' w.edit.file with
      | error err =>
        rw [Edit.applyIn_of_error hcur]
        exact .inl ⟨_, rfl, isSafetyOrIo_of_read hcur⟩
      | ok now =>
        -- making directories reveals no file, so the target is still missing
        cases now with
        | some bytes =>
          exact absurd hcur (Root.not_read_of_ensureParent hd habs hup hens hread bytes)
        | none => exact applyIn_refines hp hne hcur hm hdiff

end

/-! ## Plans -/

section

variable {r : Root} {d : Disk} {target file : Path} {run : Except EngineError PatchResult × Disk}
  {outcome : Path → Option ByteArray → FileOutcome}

theorem refines_of_refused {e : SafetyError} {plan : Except EngineError Plan}
    (h : plan = .error (.safety e)) : Refines r d target (commitPlan plan r d) outcome := by
  rw [h]
  exact .inl ⟨_, rfl, rfl⟩

theorem refines_of_unread {e : EditError} {plan : Except EngineError Plan}
    (hread : readBytes d file = .error e) (h : plan = .error (.edit e)) :
    Refines r d target (commitPlan plan r d) outcome := by
  rw [h]
  exact .inl ⟨_, rfl, isSafetyOrIo_of_read hread⟩

/-- A run that leaves the disk refines an outcome that keeps the bytes. -/
theorem refines_of_kept {plan : Except EngineError Plan} {old : Option ByteArray}
    (res : Except EngineError PatchResult) (hf : r.resolve d target = .ok file)
    (hread : readBytes d file = .ok old) (hrun : commitPlan plan r d = (res, d))
    (hout : outcome file old = (res, old)) : Refines r d target (commitPlan plan r d) outcome := by
  refine .inr ⟨file, old, hf, hread, ?_, ?_⟩
  · rw [hrun, hout]
  · rw [hrun, hout, hread]

theorem refines_of_written {w : PlannedWrite} {old : Option ByteArray} (hd : d.WellFormed)
    (ht : target.segments ≠ []) (hf : r.resolve d target = .ok w.edit.file)
    (hread : readBytes d w.edit.file = .ok old) (hexp : w.edit.expected = .ofCurrent old)
    (hdiff : old ≠ some w.edit.newText.toUTF8)
    (hout : outcome w.edit.file old = (.ok (.applied w.edit.file), some w.edit.newText.toUTF8)) :
    Refines r d target (commitPlan (.ok (.write w)) r d) outcome := by
  change Refines r d target ((Plan.write w).commit r d) outcome
  obtain herr | ⟨hres, hnew⟩ := commit_refines hd hf ht hread hexp hdiff
  · exact .inl herr
  · refine .inr ⟨w.edit.file, old, hf, hread, ?_, ?_⟩
    · rw [hres, hout]
    · rw [hnew, hout]

/-- Whole files. -/
theorem author_refines (hd : d.WellFormed) (ht : target.segments ≠ []) (content : String) :
    Refines r d target (commitPlan (planAuthor r d target content) r d)
      (authorOutcome content) := by
  have hplan := planAuthor_eq r d target content
  cases hf : r.resolve d target with
  | error e => exact refines_of_refused (by rw [hplan, hf]; rfl)
  | ok file =>
    cases hread : readBytes d file with
    | error e =>
      exact refines_of_unread hread (by rw [hplan, hf]; simp [Except.mapError, Except.bind, hread])
    | ok old =>
      have hplan' : planAuthor r d target content = .ok (authorBytes content file old) := by
        rw [hplan, hf]
        simp [Except.mapError, Except.bind, hread]
      rw [hplan']
      by_cases hsame : old = some content.toUTF8
      · have hskip : authorBytes content file old = .skip (.unchanged file) := if_pos hsame
        rw [hskip]
        exact refines_of_kept _ hf hread rfl (if_pos hsame)
      · have hwrite : authorBytes content file old =
            .write ⟨⟨file, content, .ofCurrent old⟩, old.map Decoding.lossy⟩ := if_neg hsame
        rw [hwrite]
        exact refines_of_written (w := ⟨⟨file, content, .ofCurrent old⟩, old.map Decoding.lossy⟩)
          hd ht hf hread rfl hsame (if_neg hsame)

/-- A plan that is made from the text of its target refines an outcome that is, if it does so for
every text. -/
theorem refines_of_text {plan : Except EngineError Plan} (onText : Path → String → FileOutcome)
    (ofText : Path → String → Except EngineError Plan)
    (hplan : plan = ((r.resolve d target).mapError .safety).bind fun file =>
      ((readText d file).mapError .edit).bind fun
        | none => .ok (.skip (.skippedMissing file))
        | some text => ofText file text)
    (h : ∀ file text, r.resolve d target = .ok file →
      readBytes d file = .ok (some text.toUTF8) →
      Refines r d target (commitPlan (ofText file text) r d)
        fun file => textOutcome file (onText file)) :
    Refines r d target (commitPlan plan r d) fun file => textOutcome file (onText file) := by
  cases hf : r.resolve d target with
  | error e => exact refines_of_refused (by rw [hplan, hf]; rfl)
  | ok file =>
    cases hread : readBytes d file with
    | error e =>
      have htext : readText d file = .error e := by rw [readText, hread]; rfl
      exact refines_of_unread hread (by rw [hplan, hf]; simp [Except.mapError, Except.bind, htext])
    | ok old =>
      cases old with
      | none =>
        have htext : readText d file = .ok none := by rw [readText, hread]; rfl
        have hskip : plan = .ok (.skip (.skippedMissing file)) := by
          rw [hplan, hf]
          simp [Except.mapError, Except.bind, htext]
        exact refines_of_kept _ hf hread (by rw [hskip]; rfl) rfl
      | some bytes =>
        cases hdec : String.fromUTF8? bytes with
        | none =>
          have htext : readText d file =
              .error (.notText ((Decoding.firstFault? bytes).getD ⟨0, none⟩)) := by
            simp [readText, hread, decodeText, hdec, bind, Except.bind]
          have herr : plan =
              .error (.edit (.notText ((Decoding.firstFault? bytes).getD ⟨0, none⟩))) := by
            rw [hplan, hf]
            simp [Except.mapError, Except.bind, htext]
          exact refines_of_kept _ hf hread (by rw [herr]; rfl) (by rw [textOutcome, hdec])
        | some text =>
          obtain rfl := toUTF8_of_fromUTF8? hdec
          have htext := readText_of_readBytes hread
          have hsame : plan = ofText file text := by
            rw [hplan, hf]
            simp [Except.mapError, Except.bind, htext]
          rw [hsame]
          exact h file text hf hread

/-- Rules, with or without a marker. -/
theorem transform_refines (hd : d.WellFormed) (ht : target.segments ≠ []) (rules : RuleSet)
    (marker : Option String) :
    Refines r d target (commitPlan (planTransform r d target rules marker) r d)
      (transformOutcome rules marker) := by
  refine refines_of_text _ (transformText rules marker)
    (planTransform_eq r d target rules marker) fun file text hf hread => ?_
  by_cases hnone : (rules.presentIn text).isEmpty = true
  · have hfix := RuleSet.apply_of_presentIn_isEmpty hnone
    refine refines_of_kept (.ok (.skippedNoOp file (noMatchReason marker text))) hf hread ?_ ?_
    · rw [transformText, if_pos hnone]
      rfl
    · rw [textOutcome_toUTF8, if_pos hfix, noOpReason, if_pos hnone]
  by_cases hfix : rules.apply text = text
  · refine refines_of_kept (.ok (.skippedNoOp file .unchanged)) hf hread ?_ ?_
    · rw [transformText, if_neg hnone, if_pos hfix]
      rfl
    · rw [textOutcome_toUTF8, if_pos hfix, noOpReason, if_neg hnone]
  by_cases htwice : rules.apply (rules.apply text) = rules.apply text
  · rw [transformText_of_changed hfix htwice]
    refine refines_of_written (w := ⟨.ofCurrent file (rules.apply text) (some text), some text⟩)
      hd ht hf hread rfl (fun hsame => hfix ?_) ?_
    · exact (toUTF8_injective (Option.some.inj hsame)).symm
    · rw [textOutcome_toUTF8, if_neg hfix, if_pos htwice]
      rfl
  · have hplan : transformText rules marker file text =
        .error (.rule (.notIdempotent (rules.presentIn (rules.apply text)))) := by
      rw [transformText, if_neg hnone, if_neg hfix, RuleSet.checkIdempotent_of_ne htwice]
      rfl
    refine refines_of_kept _ hf hread (by rw [hplan]; rfl) ?_
    rw [textOutcome_toUTF8, if_neg hfix, if_neg htwice]

/-- Fragments. -/
theorem append_refines (hd : d.WellFormed) (ht : target.segments ≠ []) (marker : String)
    {fragment : String} (hfragment : isBlank fragment = false) :
    Refines r d target (commitPlan (planAppend r d target marker fragment) r d)
      (appendOutcome marker fragment) := by
  refine refines_of_text _ (fun file text => .ok (appendText marker fragment file text))
    (planAppend_eq r d target marker fragment) fun file text hf hread => ?_
  by_cases hin : Literal.occursIn marker text = true
  · have hskip : appendText marker fragment file text = .skip (.skippedPresent file) := if_pos hin
    rw [hskip]
    refine refines_of_kept _ hf hread rfl ?_
    rw [textOutcome_toUTF8, if_pos (Literal.occursIn_iff.1 hin)]
  · have hwrite : appendText marker fragment file text =
        .write ⟨.ofCurrent file (joinFragment text fragment) (some text), some text⟩ := if_neg hin
    have hne := toList_ne_nil_of_isBlank hfragment
    rw [hwrite]
    refine refines_of_written
      (w := ⟨.ofCurrent file (joinFragment text fragment) (some text), some text⟩)
      hd ht hf hread rfl (fun hsame => joinFragment_ne hne text ?_) ?_
    · exact (toUTF8_injective (Option.some.inj hsame)).symm
    · rw [textOutcome_toUTF8, if_neg fun hocc => hin (Literal.occursIn_iff.2 hocc)]
      rfl

/-! ## The marker of rules -/

/-- A marker decides how a run of rules that find nothing is called, and nothing else. -/
theorem transform_marker (rules : RuleSet) (marker : String) :
    commitPlan (planTransform r d target rules (some marker)) r d =
      commitPlan (planTransform r d target rules none) r d ∨
    ∃ file, commitPlan (planTransform r d target rules (some marker)) r d =
        (.ok (.skippedNoOp file .alreadyApplied), d) ∧
      commitPlan (planTransform r d target rules none) r d =
        (.ok (.skippedNoOp file .noRuleMatched), d) := by
  rw [planTransform_eq, planTransform_eq]
  cases hf : r.resolve d target with
  | error e => exact .inl rfl
  | ok file =>
    simp only [Except.mapError, Except.bind]
    cases htext : readText d file with
    | error e => exact .inl rfl
    | ok text =>
      cases text with
      | none => exact .inl rfl
      | some text =>
        dsimp only
        rw [transformText, transformText]
        split
        · simp only [noMatchReason]
          split
          · exact .inr ⟨file, rfl, rfl⟩
          · exact .inl rfl
        · exact .inl rfl

end

/-! ## All kinds -/

/-- What an operation that is carried out at once reports and leaves is what its kind makes of the
bytes of the target, unless the target is refused or the disk does not let it be read or written.
The marker of rules tells apart two names of a run that did nothing. -/
theorem oneShot_refines {d : Disk} (hd : d.WellFormed) (r : Root) (name : String) :
    (∀ content, Refines r d (.ofString name) (authorFile r d (.ofString name) content)
      (authorOutcome content)) ∧
    (∀ rules s, RuleSet.compile rules = .ok s →
      Refines r d (.ofString name) (transformFile r d (.ofString name) rules)
        (transformOutcome s none) ∧
      ∀ marker, Refines r d (.ofString name)
          (commitPlan (planTransform r d (.ofString name) s (some marker)) r d)
          (transformOutcome s (some marker)) ∧
        (commitPlan (planTransform r d (.ofString name) s (some marker)) r d =
            transformFile r d (.ofString name) rules ∨
          ∃ file, commitPlan (planTransform r d (.ofString name) s (some marker)) r d =
              (.ok (.skippedNoOp file .alreadyApplied), d) ∧
            transformFile r d (.ofString name) rules =
              (.ok (.skippedNoOp file .noRuleMatched), d))) ∧
    ∀ marker fragment, isBlank fragment = false →
      Refines r d (.ofString name) (appendGuarded r d (.ofString name) marker fragment)
        (appendOutcome marker fragment) := by
  have ht := Path.segments_ofString_ne_nil name
  refine ⟨fun content => author_refines hd ht content, fun rules s hc => ?_,
    fun marker fragment hfragment => append_refines hd ht marker hfragment⟩
  have hrun : transformFile r d (.ofString name) rules =
      commitPlan (planTransform r d (.ofString name) s none) r d := by
    rw [transformFile, hc]
    rfl
  rw [hrun]
  exact ⟨transform_refines hd ht s none, fun marker =>
    ⟨transform_refines hd ht s (some marker), transform_marker s marker⟩⟩

/-- One file, over which text is written, rules are run, and behind which a fragment is put. -/
theorem oneShot_refines_of_oneFile :
    Refines ⟨["tree"]⟩ (.oneFile "a") (.ofString "f")
        (authorFile ⟨["tree"]⟩ (.oneFile "a") (.ofString "f") "b") (authorOutcome "b") ∧
    (∃ s, RuleSet.compile [⟨"rule", .literal "a", "b"⟩] = .ok s ∧
      Refines ⟨["tree"]⟩ (.oneFile "a") (.ofString "f")
        (transformFile ⟨["tree"]⟩ (.oneFile "a") (.ofString "f") [⟨"rule", .literal "a", "b"⟩])
        (transformOutcome s none)) ∧
    Refines ⟨["tree"]⟩ (.oneFile "a") (.ofString "f")
      (appendGuarded ⟨["tree"]⟩ (.oneFile "a") (.ofString "f") "b" "b\n")
      (appendOutcome "b" "b\n") := by
  obtain ⟨hauthor, hrules, hfragment⟩ :=
    oneShot_refines (d := .oneFile "a") (by decide) ⟨["tree"]⟩ "f"
  have hcompile : RuleSet.compile [⟨"rule", .literal "a", "b"⟩] =
      .ok ⟨[⟨"rule", .literal "a" "b"⟩]⟩ := by rfl
  exact ⟨hauthor "b", ⟨_, hcompile, (hrules _ _ hcompile).1⟩, hfragment "b" "b\n" (by decide)⟩

end SourcePatch
