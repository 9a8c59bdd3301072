import SourcePatch.Proofs.Engine.Settled
import SourcePatch.Proofs.PatchSet.Frame

/-!
# Running a patch set again

After a run each patch finds what it left, unless a later one has changed that. So a second run
changes nothing if no patch of the first undoes what another has done. Two patches that write to one
file may undo each other on and on.

## Main statements

* `PatchSet.run_again`: when a second run changes nothing.
* `PatchSet.run_again_differs`: that it may change something.
-/

namespace SourcePatch

variable {r : Root} {d : Disk} {p : Patch} {options : RunOptions}

/-! ## What runs keep -/

namespace Patch

theorem persists_run (hd : d.WellFormed) : d.Persists (p.run r options d).2 :=
  run_keeps (P := d.Persists) (.refl d) (persists_carryOut hd)

theorem sound_run (hd : d.Sound) : (p.run r options d).2.Sound :=
  run_keeps hd (sound_carryOut hd)

end Patch

theorem persists_runPatches (r : Root) (options : RunOptions) (hd : d.WellFormed)
    (patches : List Patch) : d.Persists (runPatches r options d patches).2 := by
  refine (runPatches_keeps (P := fun d' => d'.WellFormed ∧ d.Persists d') ?_ ⟨hd, .refl d⟩).2
  rintro p - d' ⟨hd', hpers⟩
  exact ⟨Patch.wellFormed_run hd', hpers.trans (Patch.persists_run hd')⟩

theorem sound_runPatches (r : Root) (options : RunOptions) (hd : d.Sound)
    (patches : List Patch) : (runPatches r options d patches).2.Sound :=
  runPatches_keeps (fun _ _ _ => Patch.sound_run) hd

namespace PatchSet

variable {s : PatchSet}

/-- What a patch has done stays as it is: an append leaves its marker, and to every patch the disk
at the end of the run is the same as the one that it has left. -/
def KeepsResults (s : PatchSet) (r : Root) (options : RunOptions) (d : Disk) : Prop :=
  ∀ before p after, options.chosen s.patches = before ++ p :: after →
    p.MarkerSurvives r (runPatches r options d before).2 ∧
      p.Unmoved r (runPatches r options d (before ++ [p])).2 (s.run r options d).2

/-- A second run changes nothing, if no patch undoes what another has done. -/
theorem run_again (hs : s.validate = .ok ()) (hd : d.Sound)
    (hkeep : s.KeepsResults r options d) :
    (s.run r options (s.run r options d).2).2 = (s.run r options d).2 := by
  cases hdry : options.dryRun with
  | true => exact runPatches_of_dry hdry _
  | false =>
    -- each patch is settled on the disk that it left, and finds the last one to be the same
    refine runPatches_of_fixed fun p hp => ?_
    obtain ⟨before, after, hsplit⟩ : ∃ before after, options.chosen s.patches =
      before ++ p :: after := List.append_of_mem hp
    obtain ⟨hsurv, hun⟩ := hkeep before p after hsplit
    have hfinal : (s.run r options d).2 =
        (runPatches r options (runPatches r options d (before ++ [p])).2 after).2 := by
      rw [run_eq, hsplit, List.append_cons, runPatches_append]
    have hpers := persists_runPatches r options
      (wellFormed_runPatches r options hd.wellFormed (before ++ [p])) after
    rw [← hfinal] at hpers
    rw [runPatches_concat, (Patch.run_of_wet hdry).2] at hun hpers
    rw [(Patch.run_of_wet hdry).2]
    exact Patch.settled (sound_runPatches r options hd before) (sound_runPatches r options hd _)
      (fun _ _ => occursIn_of_validate hs (List.mem_of_mem_filter hp)) hsurv hpers hun

end PatchSet

/-- A patch that puts one letter for another. -/
def letterPatch (search replace : String) : Patch :=
  ⟨search ++ replace, "f", none, .transform [⟨"letter", .literal search, replace⟩] none⟩

/-- Two patches of one file that do not get in each other's way. -/
def lettersSet : PatchSet := ⟨PatchSet.emptyMetadata, [letterPatch "a" "b", letterPatch "c" "d"]⟩

/-- Both have run, and neither runs again. -/
theorem run_again_of_letters :
    (lettersSet.run ⟨["tree"]⟩ ⟨false, false, []⟩ (.oneFile "ac")).2 =
      (Disk.oneFile "ac").put ["tree", "f"] (.file "bd".toUTF8 0o644) ∧
    (lettersSet.run ⟨["tree"]⟩ ⟨false, false, []⟩
        ((Disk.oneFile "ac").put ["tree", "f"] (.file "bd".toUTF8 0o644))).2 =
      (Disk.oneFile "ac").put ["tree", "f"] (.file "bd".toUTF8 0o644) := by
  have hrun : (lettersSet.run ⟨["tree"]⟩ ⟨false, false, []⟩ (.oneFile "ac")).2 =
      (Disk.oneFile "ac").put ["tree", "f"] (.file "bd".toUTF8 0o644) := by rfl
  have hfirst : (runPatches ⟨["tree"]⟩ ⟨false, false, []⟩ (.oneFile "ac") [letterPatch "a" "b"]).2 =
      (Disk.oneFile "ac").put ["tree", "f"] (.file "bc".toUTF8 0o644) := by rfl
  have hskip : (letterPatch "a" "b").plan ⟨["tree"]⟩
      ((Disk.oneFile "ac").put ["tree", "f"] (.file "bc".toUTF8 0o644)) =
      .ok (.skip (.skippedNoOp ⟨["", "tree", "f"]⟩ .noRuleMatched)) := by rfl
  have hskip' : (letterPatch "a" "b").plan ⟨["tree"]⟩
      ((Disk.oneFile "ac").put ["tree", "f"] (.file "bd".toUTF8 0o644)) =
      .ok (.skip (.skippedNoOp ⟨["", "tree", "f"]⟩ .noRuleMatched)) := by rfl
  have hlast : (letterPatch "c" "d").plan ⟨["tree"]⟩
      ((Disk.oneFile "ac").put ["tree", "f"] (.file "bd".toUTF8 0o644)) =
      .ok (.skip (.skippedNoOp ⟨["", "tree", "f"]⟩ .noRuleMatched)) := by rfl
  have hkeep : lettersSet.KeepsResults ⟨["tree"]⟩ ⟨false, false, []⟩ (.oneFile "ac") := by
    intro before p after hsplit
    rw [hrun]
    obtain _ | ⟨q, _ | ⟨q', before⟩⟩ := before
    · cases hsplit
      refine ⟨fun _ _ _ hop => (by cases hop), ?_⟩
      rw [List.nil_append, hfirst, Patch.Unmoved, hskip, hskip']
      exact ⟨rfl, fun w hw => by cases hw⟩
    · cases hsplit
      have hall : (runPatches ⟨["tree"]⟩ ⟨false, false, []⟩ (.oneFile "ac")
          ([letterPatch "a" "b"] ++ [letterPatch "c" "d"])).2 = _ := hrun
      refine ⟨fun _ _ _ hop => (by cases hop), ?_⟩
      rw [hall, Patch.Unmoved, hlast]
      exact ⟨rfl, fun w hw => by cases hw⟩
    · have hlen := congrArg List.length hsplit
      simp [lettersSet, RunOptions.chosen, Selection.includes] at hlen
  have hagain := PatchSet.run_again (by rfl) (by decide) hkeep
  rw [hrun] at hagain
  exact ⟨hrun, hagain⟩

/-- The second patch makes what the first one acts on, so it acts on that in the second run. -/
theorem run_again_differs :
    ¬ ∀ (s : PatchSet) (r : Root) (options : RunOptions) (d : Disk), d.Sound →
      Root.ofPath d r.path = .ok r → s.validate = .ok () →
      ∀ file, readBytes (s.run r options (s.run r options d).2).2 file =
        readBytes (s.run r options d).2 file := by
  intro hall
  have hsame := hall ⟨PatchSet.emptyMetadata, [letterPatch "a" "b", letterPatch "c" "a"]⟩ ⟨["tree"]⟩
    ⟨false, false, []⟩ (.oneFile "c") (by decide) (by rfl) (by rfl) ⟨["", "tree", "f"]⟩
  have hfirst : (PatchSet.run ⟨PatchSet.emptyMetadata, [letterPatch "a" "b", letterPatch "c" "a"]⟩
      ⟨["tree"]⟩ ⟨false, false, []⟩ (.oneFile "c")).2 =
      (Disk.oneFile "c").put ["tree", "f"] (.file "a".toUTF8 0o644) := by rfl
  have hsecond : (PatchSet.run ⟨PatchSet.emptyMetadata, [letterPatch "a" "b", letterPatch "c" "a"]⟩
      ⟨["tree"]⟩ ⟨false, false, []⟩
      ((Disk.oneFile "c").put ["tree", "f"] (.file "a".toUTF8 0o644))).2 =
      (Disk.oneFile "c").put ["tree", "f"] (.file "b".toUTF8 0o644) := by rfl
  have hread : ∀ content, readBytes ((Disk.oneFile "c").put ["tree", "f"] (.file content 0o644))
      ⟨["", "tree", "f"]⟩ = .ok (some content) := fun content => by rfl
  rw [hfirst, hsecond, hread, hread] at hsame
  exact absurd (Except.ok.inj hsame) (by decide)

end SourcePatch
