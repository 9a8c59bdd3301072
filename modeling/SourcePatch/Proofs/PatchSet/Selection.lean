import SourcePatch.PatchSet.Selection

/-!
# The choice of patches

An id that is known to no set is refused, and the first such id is named. What is suggested in its
place is a known id that scores above the threshold and higher than any other, or as high as some
before it.

## Main definitions

* `Selection.LastBest`: a member of a list that scores highest, the last one among equals.

## Main statements

* `Selection.suggest_eq_some_iff`, `Selection.suggest_eq_none_iff`: what is suggested.
* `Selection.check_eq_ok_iff`, `Selection.check_eq_error_iff`: which requests are refused, and how.
-/

namespace SourcePatch.Selection

variable {α : Type} {score : α → UInt64} {xs : List α} {x : α}

/-! ## The best of a list -/

/-- `x` stands where nothing before it scores higher, and nothing behind it as high. -/
def LastBest (score : α → UInt64) (xs : List α) (x : α) : Prop :=
  ∃ front back, xs = front ++ x :: back ∧ (∀ y ∈ front, score y ≤ score x) ∧
    ∀ y ∈ back, score y < score x

theorem best_eq_none_iff : best score xs = none ↔ xs = [] := by
  cases xs with
  | nil => simp [best]
  | cons x rest => cases h : best score rest <;> grind [best]

theorem LastBest.cons {y : α} (h : LastBest score xs x) (hy : score y ≤ score x) :
    LastBest score (y :: xs) x := by
  obtain ⟨front, back, rfl, hfront, hback⟩ := h
  exact ⟨y :: front, back, rfl, by simpa using ⟨hy, hfront⟩, hback⟩

theorem LastBest.le {y : α} (h : LastBest score xs x) (hy : y ∈ xs) : score y ≤ score x := by
  obtain ⟨front, back, rfl, hfront, hback⟩ := h
  grind

theorem lastBest_of_best (h : best score xs = some x) : LastBest score xs x := by
  induction xs generalizing x with
  | nil => cases h
  | cons y rest ih =>
    rw [best] at h
    cases hrest : best score rest with
    | none =>
      obtain rfl := best_eq_none_iff.1 hrest
      obtain rfl : y = x := by simpa [best] using h
      exact ⟨[], [], rfl, by simp, by simp⟩
    | some z =>
      have hz := ih hrest
      rw [hrest] at h
      dsimp only at h
      split at h
      · next hlt =>
        obtain rfl := Option.some.inj h
        refine ⟨[], rest, rfl, by simp, ?_⟩
        intro w hw
        have := hz.le hw
        grind
      · next hle =>
        obtain rfl := Option.some.inj h
        exact hz.cons (by grind)

theorem best_of_lastBest (h : LastBest score xs x) : best score xs = some x := by
  obtain ⟨front, back, rfl, hfront, hback⟩ := h
  induction front with
  | nil =>
    rw [List.nil_append, best]
    cases hbest : best score back with
    | none => rfl
    | some y =>
      obtain ⟨_, _, rfl, -, -⟩ := lastBest_of_best hbest
      exact if_pos (hback y (by simp))
  | cons y front ih =>
    have hrest := ih fun z hz => hfront z (by simp [hz])
    have hy := hfront y (by simp)
    rw [List.cons_append, best, hrest]
    exact if_neg (by grind)

theorem best_eq_some_iff : best score xs = some x ↔ LastBest score xs x :=
  ⟨lastBest_of_best, best_of_lastBest⟩

/-- What scores too low to count does not keep anything from being the best. -/
theorem lastBest_filter_iff {t : UInt64} :
    LastBest score (xs.filter fun y => t < score y) x ↔ t < score x ∧ LastBest score xs x := by
  constructor
  · rintro ⟨front, back, hsplit, hfront, hback⟩
    obtain ⟨xs₁, xs₂, rfl, rfl, htail⟩ := List.filter_eq_append_iff.1 hsplit
    obtain ⟨skipped, rest, rfl, hskipped, hx, rfl⟩ := List.filter_eq_cons_iff.1 htail
    simp only [List.mem_filter, decide_eq_true_eq] at hfront hback hskipped hx
    refine ⟨hx, xs₁ ++ skipped, rest, by simp, ?_, ?_⟩
    · intro y hy
      rcases List.mem_append.1 hy with hy | hy
      · by_cases hlow : t < score y <;> grind
      · have := hskipped y hy
        grind
    · intro y hy
      by_cases hlow : t < score y <;> grind
  · rintro ⟨hx, front, back, rfl, hfront, hback⟩
    refine ⟨front.filter fun y => t < score y, back.filter fun y => t < score y, ?_, ?_, ?_⟩
    · rw [List.filter_append, List.filter_cons_of_pos (by simpa using hx)]
    · exact fun y hy => hfront y (List.mem_filter.1 hy).1
    · exact fun y hy => hback y (List.mem_filter.1 hy).1

/-! ## Suggestions -/

variable {known only : List String} {id k : String}

theorem suggest_eq_some_iff : suggest known id = some k ↔
    Similarity.threshold < Similarity.score id k ∧ LastBest (Similarity.score id) known k := by
  rw [suggest, best_eq_some_iff, lastBest_filter_iff]

theorem suggest_eq_none_iff : suggest known id = none ↔
    ∀ k ∈ known, ¬ Similarity.threshold < Similarity.score id k := by
  simp [suggest, best_eq_none_iff, List.filter_eq_nil_iff]

/-! ## The check -/

theorem check_eq_ok_iff : check known only = .ok () ↔ ∀ id ∈ only, id ∈ known := by
  unfold check
  cases h : only.find? (!known.contains ·) with
  | none => simpa using h
  | some id =>
    have hmem := List.mem_of_find?_eq_some h
    have hunknown := List.find?_some h
    simp only [reduceCtorEq, false_iff]
    grind

/-- The first id that is unknown is named. -/
theorem check_eq_error_iff {e : UnknownPatch} : check known only = .error e ↔
    (∃ before after, only = before ++ e.id :: after ∧ (∀ id ∈ before, id ∈ known) ∧
      e.id ∉ known) ∧ e.suggestion = suggest known e.id := by
  have hfind (id : String) : only.find? (!known.contains ·) = some id ↔
      ∃ before after, only = before ++ id :: after ∧ (∀ id ∈ before, id ∈ known) ∧ id ∉ known := by
    rw [List.find?_eq_some_iff_append]
    simp only [Bool.not_eq_true', List.contains_eq_mem, decide_eq_false_iff_not, Bool.not_not,
      decide_eq_true_eq]
    constructor
    · rintro ⟨hid, before, after, rfl, hbefore⟩
      exact ⟨before, after, rfl, hbefore, hid⟩
    · rintro ⟨before, after, rfl, hbefore, hid⟩
      exact ⟨hid, before, after, rfl, hbefore⟩
  rw [← hfind, check]
  obtain ⟨id, suggestion⟩ := e
  cases only.find? (!known.contains ·) with
  | none => simp
  | some id' =>
    simp only [Except.error.injEq, UnknownPatch.mk.injEq, Option.some.injEq]
    constructor
    · rintro ⟨rfl, rfl⟩
      exact ⟨rfl, rfl⟩
    · rintro ⟨rfl, rfl⟩
      exact ⟨rfl, rfl⟩

end SourcePatch.Selection
