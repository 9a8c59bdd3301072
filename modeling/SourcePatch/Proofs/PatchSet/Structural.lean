import SourcePatch.Proofs.Engine.Failure
import SourcePatch.Proofs.PatchSet.Frame
import SourcePatch.Proofs.PatchSet.Validation
import SourcePatch.Proofs.Rule.Compile

/-!
# Errors that valid sets do not meet

A set is checked before it runs, and the same faults are looked for again on the way: in the rules
when they are made ready, in the target when its path is made, in the path when directories and a
file are made for it. In a run of a valid set none of these is found.

## Main definitions

* `EngineError.isStructural`: an error that the check of a set excludes.
* `Patch.StopsAtRegex`: a rule that cannot run since its regular expression matches the empty text.

## Main statements

* `PatchSet.run_not_structural`: the errors that a run of a valid set reports.
-/

namespace SourcePatch

variable {r : Root} {d : Disk} {p : Patch} {w : PlannedWrite} {patches : List Patch}
  {options : RunOptions} {e : EngineError}

/-- Whether the check of a set excludes an error. -/
def EngineError.isStructural : EngineError → Bool
  | .rule .emptyRuleSet | .rule (.emptySearch _) => true
  | .safety .emptyPath | .safety (.absolutePath _) | .safety (.parentTraversal _) => true
  | .locate (.safety _) => true
  | .edit (.missingParent _) => true
  | _ => false

/-- Some rule of a patch is the first that cannot run: it has that name, and looks for a regular
expression that matches the empty text. -/
def Patch.StopsAtRegex (p : Patch) (name : String) : Prop :=
  ∃ rules appliedMarker before rule after pattern,
    p.operation = .transform rules appliedMarker ∧ rules = before ++ rule :: after ∧
      (∀ r ∈ before, ∃ c, Rule.compile r = .ok c) ∧
      Rule.compile rule = .error (.matchesEmpty name) ∧ rule.name = name ∧
      rule.target = .regex pattern

/-! ## Rules of valid sets -/

/-- A rule that lacks no field looks for something. -/
theorem Rule.compile_eq_error_of_complete {rule : Rule} {cause : RuleError}
    (hcomplete : rule.missingField? = none) (h : rule.compile = .error cause) :
    cause = .invalidPattern rule.name ∨
      cause = .matchesEmpty rule.name ∧ ∃ pattern, rule.target = .regex pattern := by
  refine (compile_eq_error h).resolve_left ?_
  rintro ⟨-, htarget | ⟨header, indent, htarget, hblank⟩⟩ <;>
    rw [missingField?, htarget] at hcomplete <;> split at hcomplete
  · cases hcomplete
  · cases hcomplete
  · cases hcomplete
  · simp [hblank] at hcomplete

/-! ## One patch of a run -/

namespace Patch

variable {s : PatchSet}

theorem stands_run (h : r.Stands d) : r.Stands (p.run r options d).2 := by
  have hframe : p.Frame r options d _ _ := frame_run .none h.wellFormed
  cases hdry : options.dryRun with
  | true => rwa [hframe.dry hdry]
  | false =>
    -- what a patch puts at the root is a file or a directory
    have hnode : (p.run r options d).2.node? r.location = d.node? r.location ∨
        ∃ data mode, (p.run r options d).2.node? r.location = some (.file data mode) := by
      have hkept : p.KeepsAt r d (p.run r options d).2 r.location →
          (p.run r options d).2.node? r.location = d.node? r.location := fun hkeep =>
        hkeep.resolve_right fun hnew => h.root hnew.2.1
      by_cases happlied : ∃ file, (p.run r options d).1.result = .ok (.applied file)
      · obtain ⟨file, happlied⟩ := happlied
        obtain ⟨-, e, -, -, hfile, hkeep⟩ := hframe.applied file hdry happlied
        by_cases he : r.location = e
        · exact .inr (he ▸ hfile)
        · exact .inl (hkept (hkeep _ he))
      · exact .inl (hkept (hframe.kept (not_exists.1 happlied) _))
    refine ⟨hframe.wellFormed, ?_, ?_, h.ordinary⟩ <;>
      obtain hsame | ⟨data, mode, hfile⟩ := hnode
    · rw [hsame]
      exact h.root
    · simp [hfile]
    · rw [hsame]
      exact h.notLink
    · simp [hfile]

/-- The errors that a patch of a valid set reports. -/
theorem not_structural_of_run (hs : s.validate = .ok ()) (hp : p ∈ s.patches) (h : r.Stands d)
    (herr : (p.run r options d).1.result = .error e) :
    e.isStructural = false ∧ ∀ name, e = .rule (.matchesEmpty name) → p.StopsAtRegex name := by
  obtain hplan | ⟨-, w, hplan, hcommit⟩ := run_eq_error herr
  · cases plan_eq_error hplan with
    | refused hrefused =>
      obtain ⟨hblank, hrel⟩ := PatchSet.file_of_validate hs hp
      obtain ⟨cause, rfl⟩ | ⟨path, rfl⟩ := Root.resolve_eq_error
        (Path.isEmpty_ofString_of_not_isBlank hblank) (Root.checkComponents_iff.2 hrel) hrefused
      · exact ⟨rfl, by simp⟩
      · exact ⟨rfl, by simp⟩
    | faulty hop hfaulty =>
      obtain ⟨hne, hcomplete⟩ := PatchSet.rules_of_validate hs hp hop
      obtain ⟨hnil, -⟩ | ⟨before, rule, after, heq, hbefore, hrule⟩ :=
        RuleSet.compile_eq_error hfaulty
      · exact absurd hnil hne
      obtain rfl | ⟨rfl, pattern, htarget⟩ :=
        Rule.compile_eq_error_of_complete (hcomplete rule (by simp [heq])) hrule
      · exact ⟨rfl, by simp⟩
      · refine ⟨rfl, fun name hname => ?_⟩
        cases hname
        exact ⟨_, _, before, rule, after, pattern, hop, heq, hbefore, hrule, rfl, htarget⟩
    | repeating names => exact ⟨rfl, by simp⟩
    | unread cause => exact ⟨rfl, by simp⟩
    | notText fault => exact ⟨rfl, by simp⟩
  · cases commit_eq_error h hplan hcommit with
    | noDirectory cause hparent => exact ⟨rfl, by simp⟩
    | unwritten cause => exact ⟨rfl, by simp⟩
    | noTemporary cause => exact ⟨rfl, by simp⟩

end Patch

/-! ## Whole runs -/

/-- In a run of a valid set no patch meets a fault that the check of the set looks for: nothing is
missing in its rules, its target is written as targets are, and has a parent in the tree. It is
refused for matching the empty text only if a regular expression of its own does. The check of a
file and that of a target agree on what is not blank: neither a slash in front nor `..` between
slashes. -/
theorem PatchSet.run_not_structural {s : PatchSet} (hs : s.validate = .ok ()) (hd : d.WellFormed)
    (hroot : Root.ofPath d r.path = .ok r) (options : RunOptions) :
    List.Forall₂ (fun p report => ∀ e, report.result = .error e →
        e.isStructural = false ∧ ∀ name, e = .rule (.matchesEmpty name) → p.StopsAtRegex name)
      (options.chosen s.patches) (s.run r options d).1 ∧
    ∀ file, isBlank file = false →
      ((Path.ofString file).isTreeRelative = true ↔
        file.toList.head? ≠ some '/' ∧ ['.', '.'] ∉ file.toList.splitOn '/') ∧
      ((Path.ofString file).isEmpty = false ∧
          Root.checkComponents (.ofString file) (Path.ofString file).components = .ok () ↔
        file.toList.head? ≠ some '/' ∧ ['.', '.'] ∉ file.toList.splitOn '/') := by
  refine ⟨?_, fun file hfile => ⟨Path.isTreeRelative_ofString_iff, ?_⟩⟩
  · refine forall₂_runPatches (fun p hp d h => ⟨Patch.stands_run h, fun e herr => ?_⟩)
      (Root.stands_of_ofPath hd hroot)
    exact Patch.not_structural_of_run hs (List.mem_of_mem_filter hp) h herr
  · rw [Root.checkComponents_iff, Path.isTreeRelative_ofString_iff]
    exact and_iff_right (Path.isEmpty_ofString_of_not_isBlank hfile)

/-- A patch whose rule looks for something that may be empty, and one whose target is the root. -/
def hollowSet : PatchSet := ⟨PatchSet.emptyMetadata,
  [⟨"star", "f", none, .transform [⟨"any", .regex "a*", "b"⟩] none⟩,
    ⟨"root", "./", none, .author "b"⟩]⟩

/-- The one is refused for its regular expression, the other as the root is a directory. -/
theorem run_not_structural_of_hollow :
    (hollowSet.run ⟨["tree"]⟩ ⟨false, false, []⟩ (.oneFile "a")).1 =
      [⟨"star", "rewrite", .error (.rule (.matchesEmpty "any")), none⟩,
        ⟨"root", "author", .error (.edit (.io .isADirectory)), none⟩] ∧
    (∃ p ∈ hollowSet.patches, p.StopsAtRegex "any") ∧
    (EngineError.edit (.io .isADirectory)).isStructural = false ∧
    (Path.ofString "./").isTreeRelative = true := by
  have hrun : (hollowSet.run ⟨["tree"]⟩ ⟨false, false, []⟩ (.oneFile "a")).1 =
      [⟨"star", "rewrite", .error (.rule (.matchesEmpty "any")), none⟩,
        ⟨"root", "author", .error (.edit (.io .isADirectory)), none⟩] := by rfl
  obtain ⟨hreports, hfiles⟩ := PatchSet.run_not_structural (s := hollowSet) (r := ⟨["tree"]⟩)
    (d := .oneFile "a") (by rfl) (by decide) (by rfl) ⟨false, false, []⟩
  rw [hrun] at hreports
  obtain _ | ⟨hstar, _ | ⟨hroot, -⟩⟩ := hreports
  exact ⟨hrun, ⟨_, by simp [hollowSet], (hstar _ rfl).2 _ rfl⟩, (hroot _ rfl).1,
    (hfiles "./" (by decide)).1.2 (by decide)⟩

end SourcePatch
