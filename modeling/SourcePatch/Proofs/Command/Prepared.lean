import SourcePatch.Command.Preparation
import SourcePatch.Proofs.Engine.Plan
import SourcePatch.Proofs.Rule.Compile
import SourcePatch.Proofs.Tree.Standing

/-!
# What a command has prepared

The sets that a command works with are valid: a set that is loaded is checked, and those that are
built in would pass. The root that it works in is there.

## Main statements

* `PatchSet.validate_builtins`: every built-in set is valid.
* `Command.validate_of_prepare`, `Command.node?_of_prepare`: what a command works with.
-/

namespace SourcePatch

namespace PatchSet

variable {s : PatchSet}

theorem validate_of_parse {text : String} (h : parse text = .ok s) : s.validate = .ok () := by
  unfold parse at h
  split at h
  · cases h
  · split at h
    · cases h
    · split at h
      · cases h
      · next hvalid => cases h; exact hvalid

theorem validate_of_loadFile {d : Disk} {file : Path} (h : loadFile d file = .ok s) :
    s.validate = .ok () := by
  unfold loadFile at h
  split at h
  · cases h
  · exact validate_of_parse (mapError_eq_ok.1 h)

theorem issues_builtins : ∀ b ∈ builtins, b.2.issues = [] := by decide +kernel

/-- Every built-in set is valid. -/
theorem validate_builtins : ∀ b ∈ builtins, b.2.validate = .ok () := fun b hb => by
  rw [validate, issues_builtins b hb]
  rfl

end PatchSet

namespace Command

variable {d : Disk} {tree : TreeOptions} {sets : List LoadedSet} {r : Root}
  {warnings : List Printed}

theorem validate_builtinSets : ∀ s ∈ builtinSets, s.set.validate = .ok () := by
  rw [builtinSets, List.forall_mem_map]
  exact PatchSet.validate_builtins

theorem validate_of_loadNamed {file : Path} {s : LoadedSet} (h : loadNamed d file = .ok s) :
    s.set.validate = .ok () := by
  obtain ⟨loaded, hload, h⟩ := bind_eq_ok.1 h
  cases h
  exact PatchSet.validate_of_loadFile hload

theorem validate_of_loadSets {named : List Path} (h : loadSets d named = .ok sets) :
    ∀ s ∈ sets, s.set.validate = .ok () := by
  unfold loadSets at h
  split at h
  · cases h
    exact validate_builtinSets
  · have hloaded := forall₂_of_mapM_ok h
    generalize (if named.isEmpty then discover d patchesDirectory else named) = files at hloaded
    clear h
    induction hloaded with
    | nil => simp
    | cons hfile _ ih => exact List.forall_mem_cons.2 ⟨validate_of_loadNamed hfile, ih⟩

/-- What a command has prepared was loaded, and found. -/
theorem prepare_eq_ok (h : prepare d tree = .ok (sets, r, warnings)) :
    loadSets d tree.patchFiles = .ok sets ∧ ∃ marker,
      Root.find d (tree.root.getD (.ofNames d.workingDirectory)) marker = .ok r := by
  unfold prepare at h
  obtain ⟨loaded, hload, h⟩ := bind_eq_ok.1 h
  obtain ⟨-, -, h⟩ := bind_eq_ok.1 h
  cases hmarker : tree.marker with
  | some marker =>
    rw [hmarker] at h
    obtain ⟨root, hroot, h⟩ := bind_eq_ok.1 h
    cases h
    exact ⟨mapError_eq_ok.1 hload, marker, mapError_eq_ok.1 hroot⟩
  | none =>
    rw [hmarker] at h
    obtain ⟨root, hroot, h⟩ := bind_eq_ok.1 h
    cases h
    exact ⟨mapError_eq_ok.1 hload, _, mapError_eq_ok.1 hroot⟩

theorem validate_of_prepare (h : prepare d tree = .ok (sets, r, warnings)) :
    ∀ s ∈ sets, s.set.validate = .ok () :=
  validate_of_loadSets (prepare_eq_ok h).1

theorem node?_of_prepare (h : prepare d tree = .ok (sets, r, warnings)) :
    d.node? r.location ≠ none := by
  obtain ⟨-, marker, hfind⟩ := prepare_eq_ok h
  unfold Root.find at hfind
  dsimp only at hfind
  split at hfind
  · cases hfind
  · exact (Disk.locate_of_canonicalize
      (Root.canonicalize_of_ofPath (mapError_eq_ok.1 hfind))).2

end Command

end SourcePatch
