import SourcePatch.Proofs.Text.Scan
import SourcePatch.Text.Literal

/-!
# Literal search and replacement

A text contains what is searched for exactly if that is a part of it. Replacement goes on behind
each occurrence that it finds.
-/

namespace SourcePatch.Literal

variable {search replacement text : List Char} {c : Char}

/-- The occurrence at the front of a text. -/
def found (search text : List Char) : Option (Occurrence Unit) :=
  if search.isPrefixOf text then some ⟨search.length, ()⟩ else none

theorem occurrences_eq (search text : List Char) :
    occurrences search text = text.tails.map (found search) := by
  induction text with
  | nil => cases search <;> rfl
  | cons c text ih => rw [occurrences, ih]; rfl

theorem starts_iff : Starts (fun span _ => span = search) text ↔ search <+: text := by
  constructor
  · rintro ⟨_, rest, rfl, rfl⟩
    exact List.prefix_append _ _
  · rintro ⟨rest, rfl⟩
    exact ⟨search, rest, rfl, rfl⟩

/-- A search for a literal finds it wherever it stands. -/
theorem finds (h : search ≠ []) : Finds (fun span _ => span = search) (found search) where
  starts {text o} ho := by
    rw [starts_iff, ← List.isPrefixOf_iff_prefix]
    unfold found at ho
    split at ho
    · assumption
    · cases ho
  find_append := by
    rintro _ rest rfl
    exact ⟨(), if_pos (List.isPrefixOf_iff_prefix.2 (List.prefix_append _ _))⟩
  ne_nil := by
    rintro _ _ rfl
    exact h

theorem anyOccurrence_iff : anyOccurrence (occurrences search text) = true ↔ search <:+: text := by
  by_cases h : search = []
  · subst h
    cases text <;> simp [occurrences, anyOccurrence]
  · simp only [occurrences_eq, (finds h).anyOccurrence_iff, starts_iff,
      List.infix_iff_prefix_suffix, and_comm]

theorem occursIn_iff {search text : String} :
    occursIn search text = true ↔ search.toList <:+: text.toList := anyOccurrence_iff

/-! ## Replacement -/

theorem replaceAll_cons (h : ¬ search <+: c :: text) :
    replaceAll search replacement (c :: text) = c :: replaceAll search replacement text := by
  have hne : search ≠ [] := fun hnil => h (hnil ▸ List.nil_prefix)
  simp only [replaceAll, occurrences_eq]
  exact (finds hne).replace_cons _ (mt starts_iff.1 h)

theorem replaceAll_append (h : search ≠ []) (replacement text : List Char) :
    replaceAll search replacement (search ++ text) =
      replacement ++ replaceAll search replacement text := by
  simp only [replaceAll, occurrences_eq]
  exact ((finds h).replace_append _ rfl).elim fun _ heq => heq

/-- A literal is replaced as by a scan. -/
theorem scan (h : search ≠ []) (replacement text : List Char) :
    ∃ spans, Scan (fun span _ => span = search) replacement text spans
        (replaceAll search replacement text) ∧
      (anyOccurrence (occurrences search text) = true ↔ spans ≠ []) := by
  rw [replaceAll, occurrences_eq]
  exact (finds h).scan (fun _ => rfl) text

end SourcePatch.Literal
