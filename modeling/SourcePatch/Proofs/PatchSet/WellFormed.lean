import SourcePatch.PatchSet.Validation
import SourcePatch.Proofs.Text.Literal
import SourcePatch.Proofs.Tree.Lexical

/-!
# Well-formed patch sets

What a patch set must be like is said here without the check: each of its parts by itself, and the
ids among one another. The check accepts just these sets.

## Main definitions

* `PatchSet.WellFormed`: what patch sets must be like.
* `Rule.Lacks`: a field of a rule that says nothing.

## Main statements

* `PatchSet.validate_eq_ok_iff`: the check accepts the well-formed sets.
-/

namespace SourcePatch

/-! ## What patch sets must be like -/

/-- A text that names a path below wherever it starts. -/
def StaysBelow (s : String) : Prop :=
  s.toList.head? ≠ some '/' ∧ ['.', '.'] ∉ s.toList.splitOn '/'

/-- There is something to look for. -/
def Target.IsGiven : Target → Prop
  | .literal search => search ≠ ""
  | .regex pattern => pattern ≠ ""
  | .block header _ => isBlank header = false

structure Rule.WellFormed (r : Rule) : Prop where
  name : isBlank r.name = false
  target : r.target.IsGiven

def Operation.WellFormed : Operation → Prop
  | .author _ => True
  | .transform rules appliedMarker =>
    rules ≠ [] ∧ appliedMarker ≠ some "" ∧ ∀ rule ∈ rules, rule.WellFormed
  | .appendGuarded marker fragment =>
    marker ≠ "" ∧ isBlank fragment = false ∧ marker.toList <:+: fragment.toList

structure Patch.WellFormed (p : Patch) : Prop where
  id : isBlank p.id = false
  file : isBlank p.file = false
  below : StaysBelow p.file
  operation : p.operation.WellFormed

structure PatchSet.WellFormed (s : PatchSet) : Prop where
  nonempty : s.patches ≠ []
  rootMarker : ∀ marker, s.metadata.rootMarker = some marker → StaysBelow marker
  patches : ∀ p ∈ s.patches, p.WellFormed
  ids : s.ids.Nodup

variable {s : PatchSet} {p : Patch} {patches : List Patch} {seen : List String}

theorem isTreeRelative_iff_staysBelow {s : String} :
    (Path.ofString s).isTreeRelative = true ↔ StaysBelow s := Path.isTreeRelative_ofString_iff

theorem issueIf_eq_nil_iff {condition : Bool} {issue : Issue} :
    issueIf condition issue = [] ↔ condition = false := by
  cases condition <;> simp [issueIf]

/-! ## Rules -/

namespace Rule

variable {r : Rule} {field : String}

/-- A field of a rule that says nothing. -/
inductive Lacks (r : Rule) : String → Prop
  | name : isBlank r.name = true → r.Lacks "rules.name"
  | search : r.target = .literal "" → r.Lacks "rules.search"
  | pattern : r.target = .regex "" → r.Lacks "rules.pattern"
  | header (header : String) (indent : Nat) : r.target = .block header indent →
    isBlank header = true → r.Lacks "rules.header"

/-- The fields that a rule may lack. -/
def fields : List String := ["rules.name", "rules.search", "rules.pattern", "rules.header"]

theorem Lacks.mem_fields (h : r.Lacks field) : field ∈ fields := by
  cases h <;> simp [fields]

theorem Lacks.not_wellFormed (h : r.Lacks field) : ¬ r.WellFormed := by
  intro hr
  have htarget := hr.target
  cases h with
  | name hblank => simp [hr.name] at hblank
  | search heq | pattern heq =>
    rw [heq] at htarget
    exact htarget rfl
  | header header indent heq hblank =>
    rw [heq, Target.IsGiven, hblank] at htarget
    cases htarget

/-- What is found to be missing in a rule is. -/
theorem lacks_of_missingField? (h : r.missingField? = some field) : r.Lacks field := by
  unfold missingField? at h
  split at h
  · next hblank =>
    cases h
    exact .name hblank
  · split at h <;> split at h <;> cases h
    · next heq hempty => exact .search (heq.trans (by simpa using hempty))
    · next heq hempty => exact .pattern (heq.trans (by simpa using hempty))
    · next header indent heq hblank => exact .header header indent heq hblank

/-- A rule in which nothing is found to be missing is complete. -/
theorem missingField?_eq_none_iff : r.missingField? = none ↔ r.WellFormed := by
  constructor
  · intro h
    unfold missingField? at h
    split at h
    · cases h
    · next hname =>
      refine ⟨by simpa using hname, ?_⟩
      split at h <;> next heq => simpa [heq, Target.IsGiven] using h
  · intro hr
    cases h : r.missingField? with
    | none => rfl
    | some field => exact absurd hr (lacks_of_missingField? h).not_wellFormed

instance (r : Rule) : Decidable r.WellFormed := decidable_of_iff _ missingField?_eq_none_iff

end Rule

/-! ## One patch -/

namespace Patch

theorem idIssues_eq_nil_iff :
    p.idIssues seen = [] ↔ isBlank p.id = false ∧ p.id ∉ seen := by
  unfold idIssues
  split <;> simp [issueIf_eq_nil_iff, *]

theorem fileIssues_eq_nil_iff :
    p.fileIssues = [] ↔ isBlank p.file = false ∧ StaysBelow p.file := by
  unfold fileIssues
  split <;> simp [issueIf_eq_nil_iff, isTreeRelative_iff_staysBelow, *]

theorem operationIssues_eq_nil_iff : p.operationIssues = [] ↔ p.operation.WellFormed := by
  unfold operationIssues Operation.WellFormed
  cases hop : p.operation with
  | author content => simp
  | transform rules appliedMarker =>
    simp [issueIf_eq_nil_iff, Rule.missingField?_eq_none_iff]
  | appendGuarded marker fragment =>
    cases hblank : isBlank fragment with
    | true => simp [hblank]
    | false =>
      by_cases hmarker : marker = "" <;>
        simp [issueIf_eq_nil_iff, ← Literal.occursIn_iff, hblank, hmarker]

/-- Nothing is wrong with a patch that is well formed and has a new id. -/
theorem issues_eq_nil_iff : p.issues seen = [] ↔ p.WellFormed ∧ p.id ∉ seen := by
  rw [issues, List.append_eq_nil_iff, List.append_eq_nil_iff, idIssues_eq_nil_iff,
    fileIssues_eq_nil_iff, operationIssues_eq_nil_iff]
  constructor
  · rintro ⟨⟨⟨hid, hnew⟩, hfile, hbelow⟩, hop⟩
    exact ⟨⟨hid, hfile, hbelow, hop⟩, hnew⟩
  · rintro ⟨⟨hid, hfile, hbelow, hop⟩, hnew⟩
    exact ⟨⟨⟨hid, hnew⟩, hfile, hbelow⟩, hop⟩

end Patch

namespace PatchSet

/-! ## What is accepted -/

theorem patchIssues_eq_nil_iff : patchIssues seen patches = [] ↔
    (∀ p ∈ patches, p.WellFormed) ∧ (patches.map (·.id)).Nodup ∧ ∀ p ∈ patches, p.id ∉ seen := by
  induction patches generalizing seen with
  | nil => simp [patchIssues]
  | cons p rest ih =>
    rw [patchIssues, List.append_eq_nil_iff, Patch.issues_eq_nil_iff, ih, List.map_cons,
      List.nodup_cons, List.mem_map, List.forall_mem_cons, List.forall_mem_cons]
    simp only [List.mem_cons, not_or, not_exists, not_and]
    constructor
    · rintro ⟨⟨hp, hnew⟩, hrest, hids, hnews⟩
      exact ⟨⟨hp, hrest⟩, ⟨fun q hq => (hnews q hq).1, hids⟩, hnew, fun q hq => (hnews q hq).2⟩
    · rintro ⟨⟨hp, hrest⟩, ⟨hother, hids⟩, hnew, hnews⟩
      exact ⟨⟨hp, hnew⟩, hrest, hids, fun q hq => ⟨hother q hq, hnews q hq⟩⟩

theorem rootMarkerIssues_eq_nil_iff {m : Metadata} : rootMarkerIssues m = [] ↔
    ∀ marker, m.rootMarker = some marker → StaysBelow marker := by
  unfold rootMarkerIssues
  split <;> simp [issueIf_eq_nil_iff, isTreeRelative_iff_staysBelow, *]

theorem issues_eq_nil_iff : s.issues = [] ↔ s.WellFormed := by
  rw [issues, List.append_eq_nil_iff, List.append_eq_nil_iff, issueIf_eq_nil_iff,
    rootMarkerIssues_eq_nil_iff, patchIssues_eq_nil_iff]
  constructor
  · rintro ⟨⟨hne, hmarker⟩, hpatches, hids, -⟩
    exact ⟨by simpa using hne, hmarker, hpatches, hids⟩
  · rintro ⟨hne, hmarker, hpatches, hids⟩
    exact ⟨⟨by simpa using hne, hmarker⟩, hpatches, hids, by simp⟩

theorem validate_cases (s : PatchSet) : s.validate = .ok () ∧ s.issues = [] ∨
    s.validate = .error s.issues ∧ s.issues ≠ [] := by
  unfold validate
  split
  · next h => exact .inl ⟨rfl, List.isEmpty_iff.1 h⟩
  · next h => exact .inr ⟨rfl, fun hnil => h (by simp [hnil])⟩

theorem validate_eq_ok_iff : s.validate = .ok () ↔ s.WellFormed := by
  rw [← issues_eq_nil_iff]
  obtain ⟨hok, hnil⟩ | ⟨herr, hne⟩ := validate_cases s
  · simp [hok, hnil]
  · simp [herr, hne]

end PatchSet

end SourcePatch
