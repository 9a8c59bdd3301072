import SourcePatch.Command.Preparation
import SourcePatch.Proofs.Disk.Reordered
import SourcePatch.Proofs.Path.Name

/-!
# Patch sets in a directory

The patch sets of a directory are its files with one extension, in the order of their names. A
strict order leaves no choice, so nothing that a command works on hangs on the order in which the
directory is listed.

## Main definitions

* `Command.patchSetNames`: the names of the patch set files at a place.

## Main statements

* `Command.patchSetNames_congr`: the names do not hang on the order of entries.
* `Command.discover_ordered`: which files are found, and in which order.
-/

namespace SourcePatch

namespace Command

variable {d d' : Disk} {l : Location} {name : String} {directory : Path}

/-- The names of the patch set files at a place, in order. -/
def patchSetNames (d : Disk) (l : Location) : List String :=
  ((d.namesIn l).filter fun name => isPatchSetFile name (d.node? (l ++ [name]))).mergeSort
    fun a b => decide (a ≤ b)

theorem discover_of_locate (h : d.locate directory = .ok l) :
    discover d directory = (patchSetNames d l).map fun name => directory.join ⟨[name]⟩ := by
  rw [discover, h]
  rfl

/-! ## What is found -/

/-- A patch set file is a file, and its name has something before the extension. -/
theorem isPatchSetFile_iff {n : Option Node} : isPatchSetFile name n = true ↔
    ∃ stem data mode, stem ≠ "" ∧ name = stem ++ ".toml" ∧ n = some (.file data mode) := by
  have hname : (Path.splitName name).2 = some "toml" ↔
      ∃ stem, stem ≠ "" ∧ name = stem ++ ".toml" := by
    have hjoin (stem : String) : stem ++ "." ++ "toml" = stem ++ ".toml" := String.append_assoc ..
    rw [Path.splitName_eq_some_iff (by decide)]
    simp only [hjoin]
  unfold isPatchSetFile
  split
  · next data mode =>
    rw [beq_iff_eq, hname]
    simp
  · next hother =>
    simp only [Bool.false_eq_true, false_iff, not_exists, not_and]
    rintro stem data mode - - rfl
    exact hother data mode rfl

theorem mem_patchSetNames_iff : name ∈ patchSetNames d l ↔ ∃ stem data mode,
    stem ≠ "" ∧ name = stem ++ ".toml" ∧ d.node? (l ++ [name]) = some (.file data mode) := by
  rw [patchSetNames, List.mem_mergeSort, List.mem_filter, isPatchSetFile_iff]
  refine and_iff_right_of_imp ?_
  rintro ⟨stem, data, mode, -, -, hfile⟩
  exact Disk.mem_namesIn_of_node? (by simp [hfile])

/-- The name of a patch set file is one component of a path. -/
theorem componentOf_of_mem (h : name ∈ patchSetNames d l) :
    ¬ Path.isIdle false name = true ∧ Path.componentOf name = .normal name := by
  obtain ⟨stem, -, -, hstem, rfl, -⟩ := mem_patchSetNames_iff.1 h
  have hlong : ∀ short : String, short.length < 5 → stem ++ ".toml" ≠ short := by
    rintro _ hshort rfl
    have hsuffix : ".toml".length = 5 := rfl
    rw [String.length_append, hsuffix] at hshort
    omega
  have hdot := hlong "." (by decide)
  refine ⟨?_, ?_⟩
  · rw [Path.isIdle_iff]
    exact not_or_intro (hlong "" (by decide)) hdot
  · rw [Path.componentOf, if_neg hdot, if_neg (hlong ".." (by decide))]

/-! ## In which order -/

/-- The names are in a strict order, since none is listed twice. -/
theorem pairwise_patchSetNames (hd : d.Distinct) (l : Location) :
    (patchSetNames d l).Pairwise (· < ·) := by
  have hle : (patchSetNames d l).Pairwise fun a b => decide (a ≤ b) = true :=
    List.pairwise_mergeSort (by simpa using fun _ _ _ => le_trans) (by simpa using le_total) _
  have hne : (patchSetNames d l).Nodup :=
    (List.mergeSort_perm _ _).nodup_iff.2 ((hd.nodup_namesIn l).filter _)
  refine (hle.and hne).imp ?_
  rintro a b ⟨hab, hne⟩
  exact lt_of_le_of_ne (of_decide_eq_true hab) hne

/-- Names in a strict order are fixed by which names they are. -/
theorem patchSetNames_congr (hd : d.Distinct) (hd' : d'.Distinct) (h : d.SameContent d')
    (l : Location) : patchSetNames d' l = patchSetNames d l := by
  have hsorted := pairwise_patchSetNames hd l
  have hsorted' := pairwise_patchSetNames hd' l
  have hperm : (patchSetNames d' l).Perm (patchSetNames d l) := by
    rw [List.perm_ext_iff_of_nodup hsorted'.nodup hsorted.nodup]
    intro name
    rw [mem_patchSetNames_iff, mem_patchSetNames_iff, h.node?]
  exact hperm.eq_of_pairwise (fun a b _ _ hab hba => absurd hab hba.asymm) hsorted' hsorted

theorem discover_congr (hd : d.Distinct) (hd' : d'.Distinct) (h : d.SameContent d')
    (directory : Path) : discover d' directory = discover d directory := by
  cases hl : d.locate directory with
  | error e =>
    have hl' := (h.locate directory).trans hl
    rw [discover, discover, hl, hl']
  | ok l =>
    rw [discover_of_locate hl, discover_of_locate ((h.locate directory).trans hl),
      patchSetNames_congr hd hd' h]

/-! ## What a command works on -/

theorem loadSets_congr (hd : d.Distinct) (hd' : d'.Distinct) (h : d.SameContent d')
    (named : List Path) : loadSets d' named = loadSets d named := by
  have hload : loadNamed d' = loadNamed d := by
    funext file
    simp only [loadNamed, PatchSet.loadFile, PatchSet.readFile, h.read]
  rw [loadSets, loadSets, discover_congr hd hd' h, hload]

theorem prepare_congr (hd : d.Distinct) (hd' : d'.Distinct) (h : d.SameContent d')
    (tree : TreeOptions) : prepare d' tree = prepare d tree := by
  have hfind (start marker : Path) : Root.find d' start marker = Root.find d start marker := by
    simp only [Root.find, Root.firstMarked, Root.ofPath, h.canonicalize, h.leadsSomewhere]
  have hwarnings (sets : List LoadedSet) (r : Root) (used : Path) :
      markerWarnings sets d' r used = markerWarnings sets d r used := by
    simp only [markerWarnings, h.leadsSomewhere]
  simp only [prepare, loadSets_congr hd hd' h, hfind, hwarnings, h.workingDirectory]

/-- The patch set files of a directory are the files that lie in it and have the extension, in the
strict order of their paths. So the files that are found, what is loaded from them or the first
error of loading, and all else that a command works on are the same for every order in which the
entries are listed. -/
theorem discover_ordered (hd : d.Listed) (directory : Path) :
    (discover d directory).Pairwise Path.Before ∧
    (∀ file, file ∈ discover d directory ↔ ∃ l stem data mode,
      d.locate directory = .ok l ∧ d.node? l = some .directory ∧ stem ≠ "" ∧
      d.node? (l ++ [stem ++ ".toml"]) = some (.file data mode) ∧
      file = directory.join ⟨[stem ++ ".toml"]⟩) ∧
    ∀ entries, entries.Perm d.entries →
      let relisted : Disk := { d with entries := entries }
      discover relisted directory = discover d directory ∧
      (∀ named, loadSets relisted named = loadSets d named) ∧
      ∀ tree, prepare relisted tree = prepare d tree := by
  refine ⟨?_, ?_, ?_⟩
  · cases hl : d.locate directory with
    | error e => simp [discover, hl]
    | ok l =>
      rw [discover_of_locate hl, List.pairwise_map]
      refine (pairwise_patchSetNames hd.distinct l).imp_of_mem ?_
      intro a b ha hb hlt
      obtain ⟨hmoves, hname⟩ := componentOf_of_mem ha
      obtain ⟨hmoves', hname'⟩ := componentOf_of_mem hb
      exact Path.before_join hmoves hmoves' (by rwa [hname, hname'])
  · intro file
    cases hl : d.locate directory with
    | error e => simp [discover, hl]
    | ok l =>
      simp only [discover_of_locate hl, List.mem_map, mem_patchSetNames_iff]
      constructor
      · rintro ⟨_, ⟨stem, data, mode, hstem, rfl, hfile⟩, rfl⟩
        have hthere : d.node? (l ++ [stem ++ ".toml"]) ≠ none := by simp [hfile]
        exact ⟨l, stem, data, mode, rfl, hd.wellFormed.parent hthere, hstem, hfile, rfl⟩
      · rintro ⟨_, stem, data, mode, hl', -, hstem, hfile, rfl⟩
        cases hl'
        exact ⟨_, ⟨stem, data, mode, hstem, rfl, hfile⟩, rfl⟩
  · intro entries hperm relisted
    have hsame := hd.distinct.sameContent hperm
    have hrelisted : relisted.Distinct := (hperm.map Prod.fst).nodup_iff.2 hd.distinct
    exact ⟨discover_congr hd.distinct hrelisted hsame directory,
      loadSets_congr hd.distinct hrelisted hsame, prepare_congr hd.distinct hrelisted hsame⟩

end Command

/-- A directory with two patch sets, and others that only look like some. -/
def Disk.crowded : Disk where
  entries := [
    (["patches"], .directory), (["patches", "b.toml"], .file .empty 0o644),
    (["patches", "a.toml"], .file .empty 0o644), (["patches", ".toml"], .file .empty 0o644),
    (["patches", "c.TOML"], .file .empty 0o644),
    (["patches", "link.toml"], .link (.ofString "a.toml")), (["patches", "sub.toml"], .directory),
    (["patches", "sub.toml", "d.toml"], .file .empty 0o644)]
  workingDirectory := []

/-- Two of the entries are found, and come in their order, however the entries are listed. -/
theorem discover_ordered_of_crowded :
    Disk.crowded.Listed ∧
    Command.discover .crowded Command.patchesDirectory =
      [⟨["patches", "a.toml"]⟩, ⟨["patches", "b.toml"]⟩] ∧
    Disk.crowded.entries.reverse.Perm Disk.crowded.entries ∧
    Command.discover { Disk.crowded with entries := Disk.crowded.entries.reverse }
      Command.patchesDirectory = [⟨["patches", "a.toml"]⟩, ⟨["patches", "b.toml"]⟩] := by
  have hlisted : Disk.crowded.Listed := by decide
  have hkept : ((Disk.crowded.namesIn ["patches"]).filter fun name =>
      Command.isPatchSetFile name (Disk.crowded.node? (["patches"] ++ [name]))) =
        ["b.toml", "a.toml"] := by
    decide
  have hsorted : (["b.toml", "a.toml"].mergeSort fun a b => decide (a ≤ b)) =
      ["a.toml", "b.toml"] := by
    simp [List.mergeSort, List.MergeSort.Internal.splitInTwo]
  have hfound : Command.discover .crowded Command.patchesDirectory =
      [⟨["patches", "a.toml"]⟩, ⟨["patches", "b.toml"]⟩] := by
    have hlocate : Disk.crowded.locate Command.patchesDirectory = .ok ["patches"] := rfl
    rw [Command.discover_of_locate hlocate, Command.patchSetNames, hkept, hsorted]
    rfl
  have hperm := List.reverse_perm Disk.crowded.entries
  obtain ⟨-, -, hsame⟩ := Command.discover_ordered hlisted Command.patchesDirectory
  exact ⟨hlisted, hfound, hperm, (hsame _ hperm).1.trans hfound⟩

end SourcePatch
