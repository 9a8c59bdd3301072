import SourcePatch.Proofs.PatchSet.WellFormed

/-!
# What validation promises

A set that passes is well formed, and so is each of its patches. What later steps ask of a patch is
told here in the words of these steps.
-/

namespace SourcePatch.PatchSet

variable {s : PatchSet} {p : Patch}

theorem wellFormed_of_validate (h : s.validate = .ok ()) (hp : p ∈ s.patches) : p.WellFormed :=
  (validate_eq_ok_iff.1 h).patches p hp

/-- In a valid set every file has a name, and is below wherever it starts. -/
theorem file_of_validate (h : s.validate = .ok ()) (hp : p ∈ s.patches) :
    isBlank p.file = false ∧ (Path.ofString p.file).isTreeRelative = true := by
  have hwell := wellFormed_of_validate h hp
  exact ⟨hwell.file, isTreeRelative_iff_staysBelow.2 hwell.below⟩

theorem isTreeRelative_of_validate (h : s.validate = .ok ()) (hp : p ∈ s.patches) :
    (Path.ofString p.file).isTreeRelative = true :=
  (file_of_validate h hp).2

/-- The rules of a valid set are there, and lack no field. -/
theorem rules_of_validate {rules : List Rule} {appliedMarker : Option String}
    (h : s.validate = .ok ()) (hp : p ∈ s.patches)
    (hop : p.operation = .transform rules appliedMarker) :
    rules ≠ [] ∧ ∀ rule ∈ rules, rule.missingField? = none := by
  have hwell := (wellFormed_of_validate h hp).operation
  rw [hop] at hwell
  obtain ⟨hne, -, hrules⟩ := hwell
  exact ⟨hne, fun rule hrule => Rule.missingField?_eq_none_iff.2 (hrules rule hrule)⟩

/-- In a valid set no id is used more than once. -/
theorem nodup_ids_of_validate (h : s.validate = .ok ()) : s.ids.Nodup :=
  (validate_eq_ok_iff.1 h).ids

/-- In a valid set every fragment holds something, and contains its marker. -/
theorem fragment_of_validate {marker fragment : String} (h : s.validate = .ok ())
    (hp : p ∈ s.patches) (hop : p.operation = .appendGuarded marker fragment) :
    isBlank fragment = false ∧ Literal.occursIn marker fragment = true := by
  have hwell := (wellFormed_of_validate h hp).operation
  rw [hop] at hwell
  obtain ⟨-, hblank, hinfix⟩ := hwell
  exact ⟨hblank, Literal.occursIn_iff.2 hinfix⟩

theorem occursIn_of_validate {marker fragment : String} (h : s.validate = .ok ())
    (hp : p ∈ s.patches) (hop : p.operation = .appendGuarded marker fragment) :
    Literal.occursIn marker fragment = true :=
  (fragment_of_validate h hp hop).2

end SourcePatch.PatchSet
