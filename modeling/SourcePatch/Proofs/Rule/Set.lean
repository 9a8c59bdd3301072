import SourcePatch.Rule.Set

/-!
# Rule sets that change nothing

A set none of whose rules finds anything gives back its text, so the check for a second pass asks
exactly whether that pass changes anything.
-/

namespace SourcePatch.RuleSet

theorem presentIn_isEmpty_iff {s : RuleSet} {text : String} :
    (s.presentIn text).isEmpty = true ↔ ∀ r ∈ s.rules, r.isPresent text = false := by
  simp [presentIn]

theorem apply_of_presentIn_isEmpty {s : RuleSet} {text : String}
    (h : (s.presentIn text).isEmpty = true) : s.apply text = text := by
  have hnone := presentIn_isEmpty_iff.1 h
  unfold apply
  -- the text that the rules hand on stays the first one, so nothing is found in it either
  generalize s.rules = rules at hnone
  induction rules with
  | nil => rfl
  | cons r rules ih =>
    rw [List.foldl_cons, r.apply_of_not_isPresent (hnone r (by simp))]
    exact ih fun r hr => hnone r (by simp [hr])

theorem checkIdempotent_eq_ok_iff {s : RuleSet} {text : String} :
    s.checkIdempotent text = .ok () ↔ s.apply text = text := by
  unfold checkIdempotent
  by_cases h : (s.presentIn text).isEmpty = true
  · simp [h, apply_of_presentIn_isEmpty h]
  · simp [h]

/-- What is refused is reported with the rules that still find something. -/
theorem checkIdempotent_of_ne {s : RuleSet} {text : String} (h : s.apply text ≠ text) :
    s.checkIdempotent text = .error (.notIdempotent (s.presentIn text)) := by
  have hpresent : ¬ (s.presentIn text).isEmpty = true := fun hnone =>
    h (apply_of_presentIn_isEmpty hnone)
  simp [checkIdempotent, hpresent, h]

end SourcePatch.RuleSet
