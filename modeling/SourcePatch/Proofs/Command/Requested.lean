import SourcePatch.Proofs.Command.Verify
import SourcePatch.Proofs.PatchSet.Selection

/-!
# The patches that are asked for

What a command is asked for is checked against all sets at once, and chosen from each set by itself.
Nothing is lost in between: each patch that is asked for is reported once, in the order of the sets,
and every id that passes the check belongs to a report.

## Main statements

* `getElem?_runPatches`: the report of a patch is found at its place among the patches.
* `Command.requested_once`: each patch that is asked for is run once.
-/

namespace SourcePatch

variable {r : Root} {d : Disk} {options : RunOptions}

/-- Each patch runs on what those before it have left, whether or not they failed. -/
theorem getElem?_runPatches (before : List Patch) (p : Patch) (after : List Patch) :
    (runPatches r options d (before ++ p :: after)).1[before.length]? =
      some (p.run r options (runPatches r options d before).2).1 := by
  have hlen := length_runPatches r options d before
  rw [runPatches_append, runPatches_cons, ← hlen]
  simp

theorem map_id_runPatches (patches : List Patch) :
    (runPatches r options d patches).1.map (·.id) = patches.map (·.id) := by
  induction patches generalizing d with
  | nil => rfl
  | cons p rest ih => rw [runPatches_cons, List.map_cons, List.map_cons, Patch.run_id, ih]

theorem Selection.includes_iff {only : List String} {id : String} :
    includes only id = true ↔ only = [] ∨ id ∈ only := by
  simp [includes]

theorem RunOptions.chosen_eq (options : RunOptions) (patches : List Patch) :
    options.chosen patches =
      patches.filter fun p => options.only = [] ∨ p.id ∈ options.only := by
  refine List.filter_congr ?_
  intro p _
  rw [Bool.eq_iff_iff, Selection.includes_iff, decide_eq_true_iff]

namespace Command

variable {sets : List LoadedSet} {id : String}

theorem mem_ids_iff : id ∈ sets.flatMap (·.set.ids) ↔ ∃ p ∈ patchesOf sets, p.id = id := by
  simp only [patchesOf, PatchSet.ids, List.mem_flatMap, List.mem_map]
  constructor
  · rintro ⟨s, hs, p, hp, rfl⟩
    exact ⟨p, ⟨s, hs, hp⟩, rfl⟩
  · rintro ⟨p, ⟨s, hs, hp⟩, rfl⟩
    exact ⟨s, hs, p, hp, rfl⟩

/-- An id that is asked for is known if it belongs to a patch that is chosen. -/
theorem exists_chosen_iff (hid : id ∈ options.only) :
    (∃ p ∈ options.chosen (patchesOf sets), p.id = id) ↔ id ∈ sets.flatMap (·.set.ids) := by
  rw [mem_ids_iff]
  constructor
  · rintro ⟨p, hp, rfl⟩
    exact ⟨p, List.mem_of_mem_filter hp, rfl⟩
  · rintro ⟨p, hp, rfl⟩
    exact ⟨p, List.mem_filter.2 ⟨hp, Selection.includes_iff.2 (.inr hid)⟩, rfl⟩

/-- A request is refused just if it has an id that no patch has, and the first of these is named.
Whatever becomes of them, the patches that are asked for are reported one by one in the order in
which they are declared. So each id of a request that is not refused is reported. -/
theorem requested_once (sets : List LoadedSet) (r : Root) (options : RunOptions) (d : Disk) :
    let known := sets.flatMap (·.set.ids)
    let requested := (sets.flatMap (·.set.patches)).filter fun p =>
      options.only = [] ∨ p.id ∈ options.only
    let reports := allReports (runSets r options d sets).1
    (Selection.check known options.only = .ok () ↔
      ∀ id ∈ options.only, ∃ s ∈ sets, ∃ p ∈ s.set.patches, p.id = id) ∧
    (∀ e, Selection.check known options.only = .error e ↔
      (∃ before after, options.only = before ++ e.id :: after ∧ (∀ id ∈ before, id ∈ known) ∧
        e.id ∉ known) ∧
      (∀ k, e.suggestion = some k ↔ Similarity.threshold < Similarity.score e.id k ∧
        ∃ front back, known = front ++ k :: back ∧
          (∀ k' ∈ front, Similarity.score e.id k' ≤ Similarity.score e.id k) ∧
          ∀ k' ∈ back, Similarity.score e.id k' < Similarity.score e.id k) ∧
      (e.suggestion = none ↔
        ∀ k ∈ known, ¬ Similarity.threshold < Similarity.score e.id k)) ∧
    reports.length = requested.length ∧
    reports.map (·.id) = requested.map (·.id) ∧
    (∀ before p after, requested = before ++ p :: after → reports[before.length]? =
      some (p.run r options (runPatches r options d before).2).1) ∧
    (Selection.check known options.only = .ok () ↔
      ∀ id ∈ options.only, ∃ report ∈ reports, report.id = id) := by
  intro known requested reports
  have hrequested : requested = options.chosen (patchesOf sets) :=
    (options.chosen_eq (patchesOf sets)).symm
  have hreports : reports = (runPatches r options d requested).1 := by
    rw [hrequested]
    exact (runSets_eq r options d sets).1
  have hids : reports.map (·.id) = requested.map (·.id) := by
    rw [hreports, map_id_runPatches]
  refine ⟨?_, ?_, ?_, hids, ?_, ?_⟩
  · rw [Selection.check_eq_ok_iff]
    refine forall₂_congr fun id _ => ?_
    simp [known, PatchSet.ids]
  · intro e
    rw [Selection.check_eq_error_iff]
    refine and_congr_right fun _ => ⟨?_, ?_⟩
    · intro hsuggestion
      rw [hsuggestion]
      exact ⟨fun _ => Selection.suggest_eq_some_iff, Selection.suggest_eq_none_iff⟩
    · rintro ⟨hsome, -⟩
      exact Option.ext fun k => (hsome k).trans Selection.suggest_eq_some_iff.symm
  · rw [hreports, length_runPatches]
  · intro before p after hsplit
    rw [hreports, hsplit, getElem?_runPatches]
  · rw [Selection.check_eq_ok_iff]
    refine forall₂_congr fun id hid => ?_
    have hreported : (∃ report ∈ reports, report.id = id) ↔ ∃ p ∈ requested, p.id = id := by
      rw [← List.mem_map, hids, List.mem_map]
    rw [hreported, hrequested, exists_chosen_iff hid]

end Command

end SourcePatch
