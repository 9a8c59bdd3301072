import Mathlib.Data.List.Forall2
import SourcePatch.Proofs.PatchSet.WellFormed

/-!
# What is told of faulty patch sets

The check goes through the patches in order and keeps the ids it has seen. So what it tells of a
patch depends on those before it only, and there only on their ids; each repeated id and each
incomplete rule is told once.

## Main definitions

* `PatchSet.Repeats`: the id of a patch is on an earlier one.
* `Patch.Reports`: an issue that tells what a rule lacks.

## Main statements

* `PatchSet.validate_exact`: which sets are accepted, and what is told of the others.
-/

namespace SourcePatch

variable {s : PatchSet} {p : Patch} {patches : List Patch} {seen : List String}

theorem issueIf_false (issue : Issue) : issueIf false issue = [] := rfl

@[simp] theorem filter_issueIf {f : Issue → Bool} {condition : Bool} {issue : Issue} :
    (issueIf condition issue).filter f = issueIf (condition && f issue) issue := by
  cases condition <;> cases h : f issue <;> simp [issueIf, h]

namespace Issue

/-- An issue with an id that is used again. -/
def isDuplicate : Issue → Bool
  | duplicateId _ => true
  | _ => false

/-- An issue with a field of a rule. -/
def isOfRule : Issue → Bool
  | missingField _ field => Rule.fields.contains field
  | _ => false

end Issue

namespace PatchSet

/-! ## More patches -/

/-- The issues of a list of patches go on where those of a first part end. -/
theorem patchIssues_append (seen : List String) (patches more : List Patch) :
    patchIssues seen (patches ++ more) = patchIssues seen patches ++
      patchIssues ((patches.map (·.id)).reverse ++ seen) more := by
  induction patches generalizing seen with
  | nil => rfl
  | cons p rest ih => simp [patchIssues, ih]

/-- What is said of a set is a first part of what is said if there are more patches behind. -/
theorem issues_isPrefix (h : patches <+: s.patches) (hne : patches ≠ []) :
    (PatchSet.mk s.metadata patches).issues <+: s.issues := by
  obtain ⟨more, hmore⟩ := h
  have hempty : s.patches.isEmpty = patches.isEmpty := by
    obtain ⟨p, rest, rfl⟩ := List.exists_cons_of_ne_nil hne
    rw [← hmore]
    rfl
  rw [issues, issues, hempty, ← hmore, patchIssues_append, ← List.append_assoc]
  exact List.prefix_append _ _

/-! ## Repeated ids -/

/-- The id of the patch at `i` is not blank, and it is one of `seen` or on an earlier patch. -/
def Repeats (seen : List String) (patches : List Patch) (i : Fin patches.length) : Prop :=
  isBlank patches[i].id = false ∧ (patches[i].id ∈ seen ∨ ∃ j < i, patches[j].id = patches[i].id)

instance (seen : List String) (patches : List Patch) : DecidablePred (Repeats seen patches) := by
  unfold Repeats
  infer_instance

theorem repeats_zero {rest : List Patch} : Repeats seen (p :: rest) (0 : Fin (rest.length + 1)) ↔
    isBlank p.id = false ∧ p.id ∈ seen := by
  simp [Repeats]

theorem repeats_succ {rest : List Patch} (i : Fin rest.length) :
    Repeats seen (p :: rest) i.succ ↔ Repeats (p.id :: seen) rest i := by
  have hearlier : (∃ j : Fin (p :: rest).length, j < i.succ ∧ (p :: rest)[j].id = rest[i].id) ↔
      p.id = rest[i].id ∨ ∃ j < i, rest[j].id = rest[i].id :=
    Fin.exists_fin_succ.trans (by simp)
  change isBlank rest[i].id = false ∧ (rest[i].id ∈ seen ∨
    ∃ j : Fin (p :: rest).length, j < i.succ ∧ (p :: rest)[j].id = rest[i].id) ↔ _
  rw [hearlier, Repeats, List.mem_cons, or_assoc, or_left_comm, eq_comm (a := p.id)]

theorem filter_isDuplicate_issues (p : Patch) (seen : List String) :
    (p.issues seen).filter Issue.isDuplicate =
      if isBlank p.id = false ∧ p.id ∈ seen then [.duplicateId p.id] else [] := by
  have hfile : p.fileIssues.filter Issue.isDuplicate = [] := by
    unfold Patch.fileIssues
    split <;> simp [Issue.isDuplicate, issueIf_false]
  have hop : p.operationIssues.filter Issue.isDuplicate = [] := by
    unfold Patch.operationIssues
    split
    · rfl
    · simp +contextual [issueIf_false, Issue.isDuplicate, List.filter_map, Function.comp_def]
    · split <;> simp [Issue.isDuplicate, issueIf_false]
  rw [Patch.issues, List.filter_append, List.filter_append, hfile, hop, Patch.idIssues]
  split <;> simp [Issue.isDuplicate, issueIf, *]

/-- An id is reported for each patch that repeats it. -/
theorem filter_isDuplicate_patchIssues (seen : List String) (patches : List Patch) :
    (patchIssues seen patches).filter Issue.isDuplicate =
      ((List.finRange patches.length).filter (Repeats seen patches ·)).map
        fun i => .duplicateId patches[i].id := by
  induction patches generalizing seen with
  | nil => rfl
  | cons p rest ih =>
    have hplaces : List.finRange (p :: rest).length =
        (0 : Fin (rest.length + 1)) :: (List.finRange rest.length).map Fin.succ :=
      List.finRange_succ
    -- behind `p` an id is repeated if it is that of `p`, which has been seen by then
    have hlater : (fun i => decide (Repeats (p.id :: seen) rest i)) =
        (fun i : Fin (p :: rest).length => decide (Repeats seen (p :: rest) i)) ∘ Fin.succ :=
      funext fun i => decide_eq_decide.2 (repeats_succ i).symm
    rw [patchIssues, List.filter_append, filter_isDuplicate_issues, ih, hplaces, List.filter_cons,
      List.filter_map, ← hlater]
    simp only [decide_eq_true_iff, repeats_zero]
    split <;> simp

end PatchSet

/-! ## Incomplete rules -/

/-- Of each incomplete rule one field is told that it lacks, and nothing of the others. -/
theorem Rule.forall₂_lacks (rules : List Rule) :
    List.Forall₂ Rule.Lacks (rules.filter (¬ ·.WellFormed))
      (rules.filterMap Rule.missingField?) := by
  induction rules with
  | nil => exact .nil
  | cons r rest ih =>
    cases h : r.missingField? with
    | none => simpa [h, Rule.missingField?_eq_none_iff.1 h] using ih
    | some field =>
      have hlacks := lacks_of_missingField? h
      simpa [h, hlacks.not_wellFormed] using And.intro hlacks ih

namespace Patch

def rules (p : Patch) : List Rule :=
  match p.operation with
  | .transform rules _ => rules
  | _ => []

/-- An issue with a rule of a patch tells one of the fields that the rule lacks. -/
def Reports (p : Patch) (rule : Rule) (issue : Issue) : Prop :=
  ∃ field, issue = .missingField p.id field ∧ rule.Lacks field

theorem filter_isOfRule_issues (p : Patch) (seen : List String) :
    (p.issues seen).filter Issue.isOfRule =
      (p.rules.filterMap Rule.missingField?).map (.missingField p.id) := by
  have hid : (p.idIssues seen).filter Issue.isOfRule = [] := by
    unfold idIssues
    split <;> simp [Issue.isOfRule, issueIf_false]
  have hfile : p.fileIssues.filter Issue.isOfRule = [] := by
    unfold fileIssues
    split <;> simp [Issue.isOfRule, Rule.fields, issueIf_false]
  rw [issues, List.filter_append, List.filter_append, hid, hfile, List.nil_append, List.nil_append]
  unfold operationIssues rules
  cases p.operation with
  | author content => rfl
  | transform rules appliedMarker =>
    rw [List.filter_append, List.filter_append, filter_issueIf, filter_issueIf,
      List.filter_eq_self.2]
    · simp [Issue.isOfRule, Rule.fields, issueIf_false]
    · intro issue hissue
      obtain ⟨field, hfield, rfl⟩ := List.mem_map.1 hissue
      obtain ⟨rule, -, hrule⟩ := List.mem_filterMap.1 hfield
      simpa [Issue.isOfRule] using (Rule.lacks_of_missingField? hrule).mem_fields
  | appendGuarded marker fragment =>
    dsimp only
    split <;> simp [Issue.isOfRule, Rule.fields, issueIf_false]

end Patch

namespace PatchSet

/-- The rules of a set, each with the patch that it belongs to. -/
def rules (patches : List Patch) : List (Patch × Rule) :=
  patches.flatMap fun p => p.rules.map (p, ·)

/-- Of the rules just the incomplete ones are reported, each once. -/
theorem reports_patchIssues (seen : List String) (patches : List Patch) :
    List.Forall₂ (fun pr issue => pr.1.Reports pr.2 issue)
      ((rules patches).filter (¬ ·.2.WellFormed))
      ((patchIssues seen patches).filter Issue.isOfRule) := by
  induction patches generalizing seen with
  | nil => exact .nil
  | cons p rest ih =>
    rw [patchIssues, List.filter_append, Patch.filter_isOfRule_issues, rules, List.flatMap_cons,
      List.filter_append, List.filter_map]
    refine List.rel_append ?_ (ih _)
    rw [List.forall₂_map_left_iff, List.forall₂_map_right_iff]
    exact (Rule.forall₂_lacks p.rules).imp fun rule field hlacks => ⟨field, rfl, hlacks⟩

/-! ## Whole sets -/

theorem filter_issues {f : Issue → Bool} (hempty : f .emptyPatchList = false)
    (hmarker : ∀ marker, f (.rootMarkerNotRelative marker) = false) :
    s.issues.filter f = (patchIssues [] s.patches).filter f := by
  have hroot : (rootMarkerIssues s.metadata).filter f = [] := by
    unfold rootMarkerIssues
    split <;> simp [hmarker, issueIf_false]
  rw [issues, List.filter_append, List.filter_append, filter_issueIf, hempty, hroot, Bool.and_false]
  rfl

/-- A set is accepted if it is well formed. Of any other it is told which ids are used again, once
for each patch that does so, and which rules are incomplete, once for each; and of a first part of
the patches nothing is told that is not told of them all, in the same order and before the rest. -/
theorem validate_exact (s : PatchSet) :
    (s.validate = .ok () ↔ s.WellFormed) ∧
    ∀ found, s.validate = .error found →
      found.filter Issue.isDuplicate =
        ((List.finRange s.patches.length).filter (Repeats [] s.patches ·)).map
          (fun i => .duplicateId s.patches[i].id) ∧
      List.Forall₂ (fun pr issue => pr.1.Reports pr.2 issue)
        ((rules s.patches).filter (¬ ·.2.WellFormed)) (found.filter Issue.isOfRule) ∧
      ∀ patches, patches ≠ [] → patches <+: s.patches →
        (PatchSet.mk s.metadata patches).validate = .ok () ∨
        ∃ before, (PatchSet.mk s.metadata patches).validate = .error before ∧ before <+: found := by
  refine ⟨validate_eq_ok_iff, fun found hfound => ?_⟩
  obtain ⟨hok, -⟩ | ⟨herr, -⟩ := validate_cases s
  · rw [hok] at hfound
    cases hfound
  rw [herr] at hfound
  cases hfound
  refine ⟨?_, ?_, fun patches hne hprefix => ?_⟩
  · rw [filter_issues rfl fun _ => rfl]
    exact filter_isDuplicate_patchIssues [] s.patches
  · rw [filter_issues rfl fun _ => rfl]
    exact reports_patchIssues [] s.patches
  · obtain ⟨hok, -⟩ | ⟨herr, -⟩ := validate_cases ⟨s.metadata, patches⟩
    · exact .inl hok
    · exact .inr ⟨_, herr, issues_isPrefix hprefix hne⟩

end PatchSet

/-- Two patches with one id. Of the rules of the first two are incomplete, one of them twice; the
file of the second is not below the root. -/
def faultySet : PatchSet := ⟨PatchSet.emptyMetadata,
  [⟨"one", "f", none, .transform
      [⟨"search", .literal "", "b"⟩, ⟨"", .regex "", "b"⟩, ⟨"whole", .literal "a", "b"⟩] none⟩,
    ⟨"one", "../f", none, .author "b"⟩]⟩

/-- Each fault is told once, and those of the first patch before those of the second. -/
theorem validate_exact_of_faulty :
    ∃ found, faultySet.validate = .error found ∧ ¬ faultySet.WellFormed ∧
      found.filter Issue.isDuplicate = [.duplicateId "one"] ∧
      (found.filter Issue.isOfRule).length = 2 ∧
      [.missingField "one" "rules.search", .missingField "one" "rules.name"] <+: found := by
  have hfound : faultySet.validate = .error [.missingField "one" "rules.search",
      .missingField "one" "rules.name", .duplicateId "one", .fileNotRelative "one" "../f"] := by rfl
  obtain ⟨haccept, htell⟩ := PatchSet.validate_exact faultySet
  obtain ⟨hids, hrules, hfirst⟩ := htell _ hfound
  refine ⟨_, hfound, fun hwell => ?_, hids.trans (by rfl), hrules.length_eq.symm.trans (by rfl), ?_⟩
  · have hok := haccept.2 hwell
    rw [hfound] at hok
    cases hok
  · obtain hok | ⟨before, hbefore, hprefix⟩ :=
      hfirst (faultySet.patches.take 1) (by simp [faultySet]) (List.take_prefix _ _)
    · cases hok
    · cases hbefore
      exact hprefix

end SourcePatch
