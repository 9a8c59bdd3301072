import SourcePatch.Proofs.Engine.Rerun
import SourcePatch.Proofs.PatchSet.Validation
import SourcePatch.Proofs.Text.Newline

/-!
# Fragments that are appended once

The marker of a fragment keeps it from being appended again. A valid patch set has every marker in
its fragment, so it is in the new text too, unless the conversion of line endings takes it apart.

## Main statements

* `append_once`: when the first run leaves the marker, and when later runs find it.
-/

namespace SourcePatch

variable {p : Patch} {marker fragment text : String} {r : Root} {d d₁ : Disk} {res : PatchResult}
  {file : Path}

/-- The first run finds the marker, or puts the fragment behind the text. -/
theorem append_cases (hp : p.operation = .appendGuarded marker fragment)
    (hmarker : Literal.occursIn marker fragment = true)
    (hf : r.resolve d (.ofString p.file) = .ok file)
    (ht : readBytes d file = .ok (some text.toUTF8)) (h : p.carryOut r d = (.ok res, d₁)) :
    (Literal.occursIn marker text = true ∧ res = .skippedPresent file ∧ d₁ = d) ∨
    Literal.occursIn marker text = false ∧ res = .applied file ∧
      ∃ l, Overwrites r d (.ofString p.file) file l (joinFragment text fragment) d₁ := by
  have hplan := (p.plan_append hp r d).trans (planAppend_of_text hf ht marker fragment)
  unfold appendText at hplan
  split at hplan
  · next hin =>
    rw [Patch.carryOut_of_skip hplan] at h
    cases h
    exact .inl ⟨hin, rfl, rfl⟩
  · next hnot =>
    have hfragment : fragment.toList ≠ [] := by
      intro hnil
      rw [Literal.occursIn_iff, hnil, List.infix_nil] at hmarker
      exact hnot (Literal.occursIn_iff.2 (hmarker ▸ List.nil_infix))
    rw [Patch.carryOut_of_write hplan] at h
    obtain ⟨rfl, l, hover⟩ := overwrites_of_commit
      (w := ⟨.ofCurrent file (joinFragment text fragment) (some text), some text⟩) hf ht rfl
      (fun hsame => joinFragment_ne hfragment text (toUTF8_injective hsame).symm) h
    exact .inr ⟨Bool.not_eq_true _ ▸ hnot, rfl, l, hover⟩

/-- A write never reports that a marker is there. -/
theorem commit_ne_skippedPresent (w : PlannedWrite) (r : Root) (d : Disk) (file : Path) :
    ((Plan.write w).commit r d).1 ≠ .ok (.skippedPresent file) := by
  have happly : ∀ d, (w.edit.applyIn d).1 ≠ .ok (.skippedPresent file) := by
    intro d
    obtain ⟨err, h⟩ | ⟨-, h⟩ | ⟨-, l, mode, -, -, -, h⟩ := w.edit.applyIn_cases d <;> simp [h]
  rw [Plan.commit]
  split
  · split
    · exact happly _
    · simp
  · exact happly d

/-- A second run finds its marker in what the first one wrote, if it is there and the target is
accepted again. -/
theorem append_again_iff (hp : p.operation = .appendGuarded marker fragment) {l : Location}
    {new : String} (h : Overwrites r d (.ofString p.file) file l new d₁) :
    p.carryOut r d₁ = (.ok (.skippedPresent file), d₁) ↔
      r.HoldsEntry d file ∧ Literal.occursIn marker new = true := by
  have hf := h.resolve_again
  rw [h.holdsEntry_iff]
  by_cases hin : r.Contains l
  · rw [if_pos hin] at hf
    have hplan := (p.plan_append hp r d₁).trans
      (planAppend_of_text hf h.readBytes_again marker fragment)
    unfold appendText at hplan
    split at hplan
    · next hpresent =>
      rw [Patch.carryOut_of_skip hplan]
      exact ⟨fun _ => ⟨hin, hpresent⟩, fun _ => rfl⟩
    · next hnot =>
      rw [Patch.carryOut_of_write hplan]
      refine ⟨fun h => ?_, fun h => absurd h.2 hnot⟩
      exact absurd (congrArg Prod.fst h) (commit_ne_skippedPresent _ _ _ _)
  · rw [if_neg hin] at hf
    have hplan := (p.plan_append hp r d₁).trans (planAppend_of_refused hf marker fragment)
    rw [Patch.carryOut_of_error hplan]
    exact ⟨fun h => absurd (congrArg Prod.fst h) (by simp), fun h => absurd h.1 hin⟩

theorem resolve_of_carryOut (hp : p.operation = .appendGuarded marker fragment)
    (h : p.carryOut r d = (.ok res, d₁)) :
    ∃ file, r.resolve d (.ofString p.file) = .ok file ∧ file = r.path.join (.ofString p.file) := by
  cases hplan : p.plan r d with
  | error err => rw [Patch.carryOut_of_error hplan] at h; cases h
  | ok plan =>
    rw [p.plan_append hp] at hplan
    obtain ⟨file, hf, -⟩ := planAppend_eq_ok hplan
    exact ⟨file, hf, (Root.resolve_eq_ok_iff.1 hf).2.2.2⟩

/-- After a fragment of a valid set was appended, the file contains the marker exactly if that
survived. Every later run finds it and changes nothing, provided that the entry was in the tree. -/
theorem append_once {s : PatchSet} (hs : s.validate = .ok ()) (hmem : p ∈ s.patches)
    (hp : p.operation = .appendGuarded marker fragment)
    (ht : readText d (r.path.join (.ofString p.file)) = .ok (some text))
    (h : p.carryOut r d = (.ok res, d₁)) :
    ((∃ new, readText d₁ (r.path.join (.ofString p.file)) = .ok (some new) ∧
        Literal.occursIn marker new = true) ↔
      ∀ file, res = .applied file → Survives marker.toList text.toList fragment.toList) ∧
    ((∀ n, p.carryOut r (p.rerun r n d₁) =
        (.ok (.skippedPresent (r.path.join (.ofString p.file))), d₁)) ↔
      ∀ file, res = .applied file →
        r.HoldsEntry d file ∧ Survives marker.toList text.toList fragment.toList) := by
  obtain ⟨file, hf, rfl⟩ := resolve_of_carryOut hp h
  have hmarker := PatchSet.occursIn_of_validate hs hmem hp
  have hread := readText_eq_ok ht
  have hreruns : ∀ file, (∀ n, p.carryOut r (p.rerun r n d₁) = (.ok (.skippedPresent file), d₁)) ↔
      p.carryOut r d₁ = (.ok (.skippedPresent file), d₁) := by
    refine fun file => ⟨fun hall => hall 0, fun hone n => ?_⟩
    rw [Patch.rerun_of_fixed hone, hone]
  rw [hreruns]
  obtain ⟨hin, rfl, rfl⟩ | ⟨hnew, rfl, l, hover⟩ := append_cases hp hmarker hf hread h
  · exact ⟨⟨fun _ => by simp, fun _ => ⟨text, ht, hin⟩⟩, fun _ => by simp, fun _ => h⟩
  · have hsurvives := occursIn_joinFragment_iff hmarker hnew
    have ht₁ := readText_of_readBytes hover.readBytes_again
    rw [append_again_iff hp hover, hsurvives]
    refine ⟨⟨?_, fun hall => ⟨_, ht₁, hsurvives.2 (hall _ rfl)⟩⟩, ?_, fun hall => hall _ rfl⟩
    · rintro ⟨new, hread₁, hpresent⟩ _ -
      rw [ht₁] at hread₁
      cases hread₁
      exact hsurvives.1 hpresent
    · rintro hboth file hfile
      cases hfile
      exact hboth

/-- A fragment of two lines that is its own marker. -/
def twoLinePatch (newline : String) : Patch :=
  ⟨"lines", "f", none, .appendGuarded ("a" ++ newline ++ "b") ("a" ++ newline ++ "b")⟩

/-- A marker with CR LF is found behind a text with CR LF. -/
theorem append_once_of_crLf :
    (twoLinePatch "\r\n").carryOut ⟨["tree"]⟩ (.oneFile "x\r\n") =
      (.ok (.applied ⟨["", "tree", "f"]⟩),
        (Disk.oneFile "x\r\n").put ["tree", "f"] (.file "x\r\na\r\nb\r\n".toUTF8 0o644)) ∧
    ∀ n, (twoLinePatch "\r\n").carryOut ⟨["tree"]⟩ ((twoLinePatch "\r\n").rerun ⟨["tree"]⟩ n
        ((Disk.oneFile "x\r\n").put ["tree", "f"] (.file "x\r\na\r\nb\r\n".toUTF8 0o644))) =
      (.ok (.skippedPresent ⟨["", "tree", "f"]⟩),
        (Disk.oneFile "x\r\n").put ["tree", "f"] (.file "x\r\na\r\nb\r\n".toUTF8 0o644)) := by
  have hrun : (twoLinePatch "\r\n").carryOut ⟨["tree"]⟩ (.oneFile "x\r\n") =
      (.ok (.applied ⟨["", "tree", "f"]⟩),
        (Disk.oneFile "x\r\n").put ["tree", "f"] (.file "x\r\na\r\nb\r\n".toUTF8 0o644)) := by
    rfl
  have hin : Root.HoldsEntry ⟨["tree"]⟩ (.oneFile "x\r\n") ⟨["", "tree", "f"]⟩ :=
    ⟨["tree", "f"], by rfl, by decide⟩
  have hsurvives : Survives ("a" ++ "\r\n" ++ "b").toList "x\r\n".toList
      ("a" ++ "\r\n" ++ "b").toList := .inr (.inl (by decide))
  have htext : readText (.oneFile "x\r\n") ((Root.path ⟨["tree"]⟩).join (.ofString "f")) =
      .ok (some "x\r\n") := by rfl
  have honce := append_once (s := ⟨PatchSet.emptyMetadata, [twoLinePatch "\r\n"]⟩)
    (by rfl) (List.mem_singleton.2 rfl) rfl htext hrun
  exact ⟨hrun, honce.2.2 fun file hfile => by cases hfile; exact ⟨hin, hsurvives⟩⟩

/-- A marker with a bare LF is not found behind a text with CR LF, so the fragment is appended on
every run. -/
theorem append_twice :
    ¬ ∀ (s : PatchSet) (p : Patch) (marker fragment : String) (r : Root) (d d₁ : Disk)
      (text : String) (res : PatchResult), d.WellFormed → Root.ofPath d r.path = .ok r →
      s.validate = .ok () → p ∈ s.patches → p.operation = .appendGuarded marker fragment →
      readText d (r.path.join (.ofString p.file)) = .ok (some text) →
      p.carryOut r d = (.ok res, d₁) →
      p.carryOut r d₁ = (.ok (.skippedPresent (r.path.join (.ofString p.file))), d₁) := by
  intro hall
  have hrun : (twoLinePatch "\n").carryOut ⟨["tree"]⟩ (.oneFile "x\r\n") =
      (.ok (.applied ⟨["", "tree", "f"]⟩),
        (Disk.oneFile "x\r\n").put ["tree", "f"] (.file "x\r\na\r\nb\r\n".toUTF8 0o644)) := by
    rfl
  have hrerun : ((twoLinePatch "\n").carryOut ⟨["tree"]⟩
      ((Disk.oneFile "x\r\n").put ["tree", "f"] (.file "x\r\na\r\nb\r\n".toUTF8 0o644))).1 =
      .ok (.applied ⟨["", "tree", "f"]⟩) := by rfl
  have hskip := hall ⟨PatchSet.emptyMetadata, [twoLinePatch "\n"]⟩ (twoLinePatch "\n") _ _
    ⟨["tree"]⟩ (.oneFile "x\r\n") _ "x\r\n" _ (by decide) (by rfl) (by rfl)
    (List.mem_singleton.2 rfl) rfl (by rfl) hrun
  rw [hskip] at hrerun
  cases hrerun

end SourcePatch
