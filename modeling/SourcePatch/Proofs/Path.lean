import Mathlib.Data.List.DropRight
import SourcePatch.Path

/-!
# Parents of absolute paths

An absolute path is a slash and names behind it. Its parent goes through all of these but the last
one that moves, and is written without what does not move at its end. Going from parent to parent
comes to an end, and so it does not matter how often one tries.

## Main definitions

* `Path.EndsIn`: the last name of a path that moves, with what is before and behind it.
-/

namespace SourcePatch.Path

variable {p q : Path} {names above : List String} {name : String}

theorem isIdle_iff : isIdle false name = true ↔ name = "" ∨ name = "." := by
  simp [isIdle]

theorem componentOf_eq_parent_iff : componentOf name = .parent ↔ name = ".." := by
  unfold componentOf
  split
  · next h => simp [h]
  · split <;> simp_all

/-! ## Ends that do not move -/

theorem trimmed_cons (name : String) (names : List String) : trimmed false (name :: names) =
    if trimmed false names = [] then if isIdle false name then [] else [name]
    else name :: trimmed false names := by
  rw [trimmed]
  split
  · next h => rw [if_pos h]
  · next h => rw [if_neg h]

theorem trimmed_eq_rdropWhile (names : List String) :
    trimmed false names = names.rdropWhile (isIdle false) := by
  induction names with
  | nil => rfl
  | cons name names ih =>
    rw [trimmed_cons, ih]
    simp only [List.rdropWhile, List.reverse_cons, List.dropWhile_append, List.reverse_eq_nil_iff,
      List.isEmpty_iff]
    split
    · simp only [List.dropWhile_cons, List.dropWhile_nil]
      split <;> rfl
    · simp

theorem trimmed_concat_of_idle (h : isIdle false name = true) :
    trimmed false (above ++ [name]) = trimmed false above := by
  rw [trimmed_eq_rdropWhile, trimmed_eq_rdropWhile, List.rdropWhile_concat_pos _ _ _ h]

theorem trimmed_concat (h : ¬ isIdle false name = true) :
    trimmed false (above ++ [name]) = above ++ [name] := by
  rw [trimmed_eq_rdropWhile, List.rdropWhile_concat_neg _ _ _ h]

theorem trimmed_isPrefix (names : List String) : trimmed false names <+: names := by
  rw [trimmed_eq_rdropWhile]
  exact List.rdropWhile_prefix _ _

theorem trimmed_trimmed (names : List String) :
    trimmed false (trimmed false names) = trimmed false names := by
  rw [trimmed_eq_rdropWhile, trimmed_eq_rdropWhile]
  exact List.rdropWhile_idempotent _ _

/-- What is dropped does not move. -/
theorem exists_idle_of_trimmed (names : List String) :
    ∃ idle, names = trimmed false names ++ idle ∧ ∀ s ∈ idle, isIdle false s = true := by
  induction names using List.reverseRecOn with
  | nil => exact ⟨[], rfl, by simp⟩
  | append_singleton names name ih =>
    by_cases h : isIdle false name = true
    · obtain ⟨idle, heq, hidle⟩ := ih
      refine ⟨idle ++ [name], ?_, ?_⟩
      · rw [trimmed_concat_of_idle h, ← List.append_assoc, ← heq]
      · simpa [or_imp, forall_and] using ⟨hidle, h⟩
    · exact ⟨[], by rw [trimmed_concat h, List.append_nil], by simp⟩

/-- What is left either is nothing or ends with a name that moves. -/
theorem trimmed_cases (names : List String) : trimmed false names = [] ∨
    ∃ above name, trimmed false names = above ++ [name] ∧ ¬ isIdle false name = true := by
  induction names using List.reverseRecOn with
  | nil => exact .inl rfl
  | append_singleton names name ih =>
    by_cases h : isIdle false name = true
    · rwa [trimmed_concat_of_idle h]
    · exact .inr ⟨names, name, trimmed_concat h, h⟩

/-! ## Absolute paths -/

theorem isAbsolute_iff : p.isAbsolute = true ↔ ∃ names, p.segments = "" :: names ∧ names ≠ [] := by
  obtain ⟨segments⟩ := p
  unfold isAbsolute
  split
  · next s rest h =>
    cases h
    simp
  · next h =>
    simp only [Bool.false_eq_true, false_iff, not_exists, not_and]
    rintro names rfl hne
    obtain ⟨s, rest, rfl⟩ := List.exists_cons_of_ne_nil hne
    exact h s rest rfl

theorem isAbsolute_ofNames (names : List String) : (ofNames names).isAbsolute = true := by
  rw [isAbsolute_iff]
  cases names with
  | nil => exact ⟨[""], rfl, by simp⟩
  | cons name names => exact ⟨name :: names, rfl, by simp⟩

theorem segments_ofNames (h : names ≠ []) : (ofNames names).segments = "" :: names := by
  rw [ofNames, if_neg (by simpa using h)]

/-- The parent of an absolute path. -/
theorem parent?_eq (h : p.segments = "" :: names) (hne : names ≠ []) : p.parent? =
    if trimmed false names = [] then none
    else some (ofNames (trimmed false (trimmed false names).dropLast)) := by
  have habs : p.isAbsolute = true := isAbsolute_iff.2 ⟨names, h, hne⟩
  simp only [parent?, habs, h, if_true, List.tail_cons, Bool.not_true]
  split
  · next hnil => rw [if_pos hnil]
  · next hcons => rw [if_neg hcons]

theorem parent?_concat (h : p.segments = "" :: (above ++ [name]))
    (hn : ¬ isIdle false name = true) : p.parent? = some (ofNames (trimmed false above)) := by
  rw [parent?_eq h (by simp), trimmed_concat hn, if_neg (by simp), List.dropLast_concat]

/-- The parent goes through the first of the names, up to one that moves. -/
theorem exists_names_of_parent? (hp : p.isAbsolute = true) (h : p.parent? = some q) :
    ∃ names above, p.segments = "" :: names ∧ q = ofNames above ∧
      trimmed false above = above ∧ above <+: names := by
  obtain ⟨names, hseg, hne⟩ := isAbsolute_iff.1 hp
  rw [parent?_eq hseg hne] at h
  split at h
  · cases h
  · cases h
    have hdrop := List.dropLast_prefix (trimmed false names)
    refine ⟨names, _, hseg, rfl, trimmed_trimmed _, ?_⟩
    exact (trimmed_isPrefix _).trans (hdrop.trans (trimmed_isPrefix _))

/-! ## The last name that moves -/

section

variable {idle : List String} {last : String}

/-- An absolute path whose last name that moves is `last`. -/
structure EndsIn (p : Path) (above : List String) (last : String) (idle : List String) : Prop where
  segments : p.segments = "" :: (above ++ last :: idle)
  moves : ¬ isIdle false last = true
  idles : ∀ s ∈ idle, isIdle false s = true

theorem exists_endsIn (hp : p.isAbsolute = true) (h : p.parent? = some q) :
    ∃ above last idle, p.EndsIn above last idle ∧ q = .ofNames (trimmed false above) := by
  obtain ⟨names, hseg, hne⟩ := isAbsolute_iff.1 hp
  obtain ⟨idle, heq, hidle⟩ := exists_idle_of_trimmed names
  rw [parent?_eq hseg hne] at h
  split at h
  · cases h
  · next hkept =>
    obtain hnil | ⟨above, last, htrim, hmoves⟩ := trimmed_cases names
    · exact absurd hnil hkept
    · rw [htrim] at heq h
      rw [List.dropLast_concat] at h
      cases h
      exact ⟨above, last, idle, ⟨by rw [hseg, heq]; simp, hmoves, hidle⟩, rfl⟩

theorem trimmed_append_of_idle {names : List String} (h : ∀ s ∈ idle, isIdle false s = true) :
    trimmed false (names ++ idle) = trimmed false names := by
  induction idle using List.reverseRecOn with
  | nil => rw [List.append_nil]
  | append_singleton idle s ih =>
    rw [← List.append_assoc, trimmed_concat_of_idle (h s (by simp))]
    exact ih fun s hs => h s (by simp [hs])

theorem parent?_of_endsIn (h : p.EndsIn above last idle) :
    p.parent? = some (.ofNames (trimmed false above)) := by
  have hidle : trimmed false (above ++ last :: idle) = above ++ [last] := by
    have hsplit : above ++ last :: idle = (above ++ [last]) ++ idle := by simp
    rw [hsplit, trimmed_append_of_idle h.idles, trimmed_concat h.moves]
  rw [parent?_eq h.segments (by simp), hidle, if_neg (by simp), List.dropLast_concat]

end

/-! ## From parent to parent -/

theorem ancestorsUpTo_of_parent? (h : p.parent? = some q) (n : Nat) :
    ancestorsUpTo (n + 1) p = p :: ancestorsUpTo n q := by
  rw [ancestorsUpTo, h]

/-- The parent has fewer names. -/
theorem parent?_ofNames (names : List String) : (ofNames names).parent? = none ∨
    ∃ above, (ofNames names).parent? = some (ofNames above) ∧ above.length < names.length := by
  cases names with
  | nil => exact .inl rfl
  | cons name names =>
    rw [parent?_eq (segments_ofNames (by simp)) (by simp)]
    split
    · exact .inl rfl
    · next h =>
      refine .inr ⟨_, rfl, ?_⟩
      have h₁ := (trimmed_isPrefix (name :: names)).length_le
      have h₂ := (trimmed_isPrefix (trimmed false (name :: names)).dropLast).length_le
      have h₃ := List.length_pos_iff.2 h
      rw [List.length_dropLast] at h₂
      omega

theorem ancestorsUpTo_ofNames (names : List String) {n m : Nat} (hn : names.length < n)
    (hm : names.length < m) :
    ancestorsUpTo n (ofNames names) = ancestorsUpTo m (ofNames names) := by
  induction n generalizing m names with
  | zero => omega
  | succ n ih =>
    obtain ⟨m, rfl⟩ := Nat.exists_eq_add_one_of_ne_zero (show m ≠ 0 by omega)
    obtain h | ⟨above, h, hlen⟩ := parent?_ofNames names
    · simp only [ancestorsUpTo, h]
    · rw [ancestorsUpTo_of_parent? h, ancestorsUpTo_of_parent? h,
        ih above (by omega) (show above.length < m by omega)]

/-- Above an absolute path there are its parent and what is above that. -/
theorem ancestors_of_parent? (hp : p.isAbsolute = true) (h : p.parent? = some q) :
    p.ancestors = p :: q.ancestors := by
  obtain ⟨names, hseg, hne⟩ := isAbsolute_iff.1 hp
  have hq := parent?_eq hseg hne
  rw [h] at hq
  split at hq
  · cases hq
  · next hkept =>
    have h₁ := (trimmed_isPrefix names).length_le
    have h₂ := (trimmed_isPrefix (trimmed false names).dropLast).length_le
    have h₃ := List.length_pos_iff.2 hkept
    rw [List.length_dropLast] at h₂
    rw [ancestors, ancestorsUpTo_of_parent? h, ancestors, Option.some.inj hq]
    refine congrArg (p :: ·) (ancestorsUpTo_ofNames _ ?_ ?_)
    · rw [hseg, List.length_cons]
      omega
    · unfold ofNames
      split
      · next hnil => rw [List.isEmpty_iff.1 hnil]; simp
      · rw [List.length_cons]; omega

theorem isAbsolute_of_mem_ancestors (hp : p.isAbsolute = true) (hq : q ∈ p.ancestors) :
    q.isAbsolute = true := by
  unfold ancestors at hq
  generalize p.segments.length + 1 = n at hq
  induction n generalizing p with
  | zero => cases hq
  | succ n ih =>
    rw [ancestorsUpTo, List.mem_cons] at hq
    obtain rfl | hq := hq
    · exact hp
    · cases hparent : p.parent? with
      | none => rw [hparent] at hq; cases hq
      | some p' =>
        rw [hparent] at hq
        obtain ⟨names, above, -, rfl, -⟩ := exists_names_of_parent? hp hparent
        exact ih (isAbsolute_ofNames above) hq

/-! ## Texts and components -/

/-- The text of a path goes on with what its last segment, and then its segments, go on with. -/
theorem text_concat_isPrefix {pre rest : List String} {s s' : String}
    (h : s.toList <+: s'.toList) :
    (Path.mk (pre ++ [s])).text.toList <+: (Path.mk (pre ++ s' :: rest)).text.toList := by
  simp only [text, String.toList_intercalate, List.map_append, List.map_cons, List.map_nil]
  generalize pre.map String.toList = xs, rest.map String.toList = ys
  induction xs with
  | nil =>
    cases ys with
    | nil => simpa using h
    | cons y ys =>
      rw [List.nil_append, List.nil_append, List.intercalate_singleton,
        List.intercalate_cons_cons, List.append_assoc]
      exact h.trans (List.prefix_append _ _)
  | cons x xs ih =>
    obtain ⟨z, zs, hz⟩ := List.exists_cons_of_ne_nil (l := xs ++ [s.toList]) (by simp)
    obtain ⟨w, ws, hw⟩ := List.exists_cons_of_ne_nil (l := xs ++ s'.toList :: ys) (by simp)
    rw [List.cons_append, List.cons_append, hz, hw, List.intercalate_cons_cons,
      List.intercalate_cons_cons, ← hz, ← hw]
    exact (List.prefix_append_right_inj _).2 ih

theorem text_isPrefix {segments rest : List String} :
    (Path.mk segments).text.toList <+: (Path.mk (segments ++ rest)).text.toList := by
  obtain rfl | ⟨pre, last, rfl⟩ := segments.eq_nil_or_concat
  · exact List.nil_prefix
  · rw [List.concat_eq_append, List.append_assoc]
    exact text_concat_isPrefix (List.prefix_refl _)

theorem componentsFrom_append (names more : List String) : componentsFrom false (names ++ more) =
    componentsFrom false names ++ componentsFrom false more := by
  induction names with
  | nil => rfl
  | cons name names ih =>
    rw [List.cons_append, componentsFrom, componentsFrom, ih]
    split <;> rfl

theorem componentsFrom_idle (h : ∀ s ∈ names, isIdle false s = true) :
    componentsFrom false names = [] := by
  induction names with
  | nil => rfl
  | cons name names ih =>
    rw [componentsFrom, if_pos (h name (by simp)), ih fun s hs => h s (by simp [hs])]

theorem componentsFrom_trimmed (names : List String) :
    componentsFrom false (trimmed false names) = componentsFrom false names := by
  obtain ⟨idle, heq, hidle⟩ := exists_idle_of_trimmed names
  conv_rhs => rw [heq, componentsFrom_append, componentsFrom_idle hidle, List.append_nil]

theorem components_of_absolute (h : p.segments = "" :: names) (hne : names ≠ []) :
    p.components = .root :: componentsFrom false names := by
  rw [components, if_pos (isAbsolute_iff.2 ⟨names, h, hne⟩), h, componentsFrom,
    if_pos (isIdle_iff.2 (.inl rfl))]

theorem components_ofNames (names : List String) :
    (ofNames names).components = .root :: componentsFrom false names := by
  cases names with
  | nil => rfl
  | cons name names => rw [components_of_absolute (segments_ofNames (by simp)) (by simp)]

end SourcePatch.Path
