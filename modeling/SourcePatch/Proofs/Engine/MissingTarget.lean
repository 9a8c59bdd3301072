import SourcePatch.Proofs.Disk.Absence
import SourcePatch.Proofs.Engine.Plan

/-!
# Targets that are not there

A patch that works on an existing file has nothing to do if the target is not there. Whether it is
there is asked by following its path, and any failure means no; reading it tells the failures
apart, and takes only a missing entry for a missing file.

## Main definitions

* `absenceResult`: what becomes of a patch whose target leads nowhere.

## Main statements

* `missing_target`: a target that is not there is skipped exactly if something is missing on its
  way, and nothing is changed in any case.
-/

namespace SourcePatch

variable {r : Root} {d : Disk} {target file : Path} {e : IoError}

/-- What becomes of a patch of an existing file if the path of the file leads nowhere. -/
def absenceResult (file : Path) (e : IoError) : Except EngineError PatchResult :=
  if e = .noSuchFile then .ok (.skippedMissing file) else .error (.edit (.io e))

section

variable (hf : r.resolve d target = .ok file) (he : d.lookup file = .error e)
include he

theorem readText_of_lookup :
    readText d file = if e = .noSuchFile then .ok none else .error (.io e) := by
  rw [readText, Disk.readBytes_of_lookup he]
  split <;> rfl

include hf

theorem commitPlan_transform_of_lookup (rules : RuleSet) (appliedMarker : Option String) :
    commitPlan (planTransform r d target rules appliedMarker) r d = (absenceResult file e, d) := by
  rw [planTransform_eq, hf, Except.mapError, Except.bind, readText_of_lookup he, absenceResult]
  split <;> rfl

theorem commitPlan_append_of_lookup (marker fragment : String) :
    commitPlan (planAppend r d target marker fragment) r d = (absenceResult file e, d) := by
  rw [planAppend_eq, hf, Except.mapError, Except.bind, readText_of_lookup he, absenceResult]
  split <;> rfl

end

theorem transformFile_eq {rules : List Rule} {compiled : RuleSet}
    (h : RuleSet.compile rules = .ok compiled) (r : Root) (d : Disk) (target : Path) :
    transformFile r d target rules = commitPlan (planTransform r d target compiled none) r d := by
  rw [transformFile, h]
  rfl

theorem hasTarget_eq_ok {found : Bool} (h : r.hasTarget d target = .ok found) :
    r.resolve d target = .ok (r.path.join target) ∧
      d.leadsSomewhere (r.path.join target) = found := by
  unfold Root.hasTarget at h
  cases hf : r.resolve d target with
  | error err => rw [hf] at h; cases h
  | ok file =>
    obtain rfl := (Root.resolve_eq_ok_iff.1 hf).2.2.2
    rw [hf] at h
    cases h
    exact ⟨rfl, rfl⟩

/-- A target that is not there leads nowhere for one reason. If that is that something is missing,
a missing entry or directory or the target of a link, the patch is skipped; for any other it fails.
Nothing is made or changed. -/
theorem missing_target {target : String} {rules : List Rule} {compiled : RuleSet}
    (hd : d.WellFormed) (h : r.hasTarget d (.ofString target) = .ok false)
    (hc : RuleSet.compile rules = .ok compiled) (marker fragment : String) :
    (∃! e, d.Unreachable (r.path.join (.ofString target)) e) ∧
    ∀ e, d.Unreachable (r.path.join (.ofString target)) e →
      transformFile r d (.ofString target) rules =
        (absenceResult (r.path.join (.ofString target)) e, d) ∧
      appendGuarded r d (.ofString target) marker fragment =
        (absenceResult (r.path.join (.ofString target)) e, d) := by
  obtain ⟨hf, hnot⟩ := hasTarget_eq_ok h
  have habs := Root.isAbsolute_of_resolve hf (Path.segments_ofString_ne_nil target)
  obtain ⟨e, he⟩ := Disk.not_leadsSomewhere_iff.1 hnot
  have honly : ∀ e', d.Unreachable (r.path.join (.ofString target)) e' → e' = e := by
    intro e' he'
    rw [← Disk.lookup_eq_error_iff hd habs, he] at he'
    cases he'
    rfl
  refine ⟨⟨e, (Disk.lookup_eq_error_iff hd habs).1 he, honly⟩, fun e' he' => ?_⟩
  obtain rfl := honly e' he'
  rw [transformFile_eq hc]
  exact ⟨commitPlan_transform_of_lookup hf he compiled none,
    commitPlan_append_of_lookup hf he marker fragment⟩

/-- A tree with a link to something that is not there, in a directory that is. -/
def Disk.dangling : Disk where
  entries := [
    (["tree"], .directory), (["tree", "dir"], .directory),
    (["tree", "link"], .link (.ofString "dir/gone"))]
  workingDirectory := []

/-- What a link leads to may be missing: its target is skipped. -/
theorem missing_target_of_dangling :
    Root.hasTarget ⟨["tree"]⟩ .dangling (.ofString "link") = .ok false ∧
    transformFile ⟨["tree"]⟩ .dangling (.ofString "link") [⟨"rule", .literal "a", "b"⟩] =
      (.ok (.skippedMissing ⟨["", "tree", "link"]⟩), .dangling) ∧
    appendGuarded ⟨["tree"]⟩ .dangling (.ofString "link") "a" "a" =
      (.ok (.skippedMissing ⟨["", "tree", "link"]⟩), .dangling) := by
  have habsent : Root.hasTarget ⟨["tree"]⟩ .dangling (.ofString "link") = .ok false := by rfl
  have hd : Disk.dangling.WellFormed := by decide
  have hmissing : Disk.dangling.Unreachable ⟨["", "tree", "link"]⟩ .noSuchFile :=
    (Disk.lookup_eq_error_iff hd rfl).1 (by rfl)
  have hrules : RuleSet.compile [⟨"rule", .literal "a", "b"⟩] =
      .ok ⟨[⟨"rule", .literal "a" "b"⟩]⟩ := rfl
  exact ⟨habsent, (missing_target hd habsent hrules "a" "a").2 _ hmissing⟩

/-- Below a file there is nothing, but a target there is not skipped. -/
theorem missing_target_refused :
    ¬ ∀ (r : Root) (d : Disk) (target : String) (rules : List Rule) (compiled : RuleSet),
      d.WellFormed → Root.ofPath d r.path = .ok r → RuleSet.compile rules = .ok compiled →
      r.hasTarget d (.ofString target) = .ok false →
      transformFile r d (.ofString target) rules =
        (.ok (.skippedMissing (r.path.join (.ofString target))), d) := by
  intro hall
  have hrun : (transformFile ⟨["tree"]⟩ (.oneFile "a") (.ofString "f/x")
      [⟨"rule", .literal "a", "b"⟩]).1 = .error (.edit (.io .notADirectory)) := by rfl
  have hskip := hall ⟨["tree"]⟩ (.oneFile "a") "f/x" [⟨"rule", .literal "a", "b"⟩]
    ⟨[⟨"rule", .literal "a" "b"⟩]⟩ (by decide) (by rfl) (by rfl) (by rfl)
  rw [hskip] at hrun
  cases hrun

end SourcePatch
