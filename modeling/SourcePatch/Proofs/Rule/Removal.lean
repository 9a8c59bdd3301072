import SourcePatch.Proofs.Rule.Compile

/-!
# Rules that remove

A rule that puts less in place than it takes away makes every text shorter in which it finds
something. So if rules of this kind leave a text as it is, none of them finds anything in it, even
though one rule may put together what another one looks for.

## Main definitions

* `Rule.Removes`: a rule puts less in place than it takes away.

## Main statements

* `RuleSet.absent_of_fixed`: nothing is left of what such rules look for in a text that they leave
  as it is.
-/

namespace SourcePatch

/-- A rule puts less in place than it takes away: a literal with fewer bytes, or nothing for a
block. -/
def Rule.Removes (r : Rule) : Prop :=
  match r.target with
  | .literal search => r.replacement.utf8ByteSize < search.utf8ByteSize
  | .regex _ => False
  | .block .. => r.replacement = ""

/-- A rule loses bytes of every text in which it finds something. -/
def CompiledRule.Shrinks (c : CompiledRule) : Prop :=
  ∀ text, (c.apply text).utf8ByteSize ≤ text.utf8ByteSize ∧
    (c.isPresent text = true → (c.apply text).utf8ByteSize < text.utf8ByteSize)

theorem size_of_scan {At : List Char → List Char → Prop} {replacement text : String}
    {out : List Char} {present : Bool}
    (hAt : ∀ span rest, At span rest →
      replacement.utf8ByteSize < (String.ofList span).utf8ByteSize)
    (h : ∃ spans, Scan At replacement.toList text.toList spans out ∧
      (present = true ↔ spans ≠ [])) :
    (String.ofList out).utf8ByteSize ≤ text.utf8ByteSize ∧
      (present = true → (String.ofList out).utf8ByteSize < text.utf8ByteSize) := by
  obtain ⟨spans, hscan, hpresent⟩ := h
  have hsize := hscan.size_lt fun span rest hspan => by
    rw [String.ofList_toList]
    exact hAt span rest hspan
  rw [String.ofList_toList] at hsize
  exact ⟨hsize.1, fun h => hsize.2 (hpresent.1 h)⟩

theorem Rule.shrinks_of_removes {r : Rule} {c : CompiledRule} (h : r.Removes)
    (hcompile : r.compile = .ok c) : c.Shrinks := by
  intro text
  unfold Removes at h
  split at h
  · next search htarget =>
    obtain ⟨hne, rfl⟩ := eq_of_compile_literal htarget hcompile
    refine size_of_scan ?_ (Literal.scan (by simpa using hne) r.replacement.toList text.toList)
    rintro _ rest rfl
    rwa [String.ofList_toList]
  · cases h
  · next header indent htarget =>
    obtain ⟨hblank, rfl⟩ := eq_of_compile_block htarget hcompile
    have hheader := isBlank_eq_false_iff.1 hblank
    refine size_of_scan (fun block rest hblock => ?_)
      (Regex.scan_ofBlock hheader indent r.replacement.toList text.toList)
    have hne := (Regex.finds_blockForm hheader).ne_nil hblock
    rw [h, String.utf8ByteSize_empty, Nat.pos_iff_ne_zero, Ne, String.utf8ByteSize_eq_zero_iff]
    simpa using hne

namespace RuleSet

variable {s : RuleSet} {text : String}

/-- Rules that lose bytes where they find something lose none only where they find nothing. -/
theorem foldl_eq_self {rules : List CompiledRule} (h : ∀ c ∈ rules, c.Shrinks) (text : String) :
    (rules.foldl (fun t c => c.apply t) text).utf8ByteSize ≤ text.utf8ByteSize ∧
      ((rules.foldl (fun t c => c.apply t) text).utf8ByteSize = text.utf8ByteSize →
        ∀ c ∈ rules, c.isPresent text = false) := by
  induction rules generalizing text with
  | nil => exact ⟨Nat.le_refl _, fun _ c hc => by cases hc⟩
  | cons c rules ih =>
    obtain ⟨hle, hlt⟩ := h c (by simp) text
    obtain ⟨hrest, hnone⟩ := ih (fun c hc => h c (by simp [hc])) (c.apply text)
    rw [List.foldl_cons]
    refine ⟨Nat.le_trans hrest hle, fun hsame => ?_⟩
    have habsent : c.isPresent text = false := by
      cases hpresent : c.isPresent text with
      | false => rfl
      | true => have := hlt hpresent; omega
    rw [c.apply_of_not_isPresent habsent] at hnone hsame
    intro c' hc'
    obtain rfl | hc' := List.mem_cons.1 hc'
    · exact habsent
    · exact hnone hsame c' hc'

/-- Nothing is left of what the rules look for in a text that they leave as it is. -/
theorem absent_of_fixed {rules : List Rule} (hcompile : compile rules = .ok s)
    (h : ∀ r ∈ rules, r.Removes) (hfix : s.apply text = text) :
    (s.presentIn text).isEmpty = true ∧ ∀ r ∈ rules, ¬ r.target.OccursIn text.toList := by
  obtain ⟨hran, hfrom⟩ := compile_eq_ok hcompile
  have hshrinks : ∀ c ∈ s.rules, c.Shrinks := fun c hc => by
    obtain ⟨r, hr, hrc⟩ := hfrom c hc
    exact Rule.shrinks_of_removes (h r hr) hrc
  have habsent := (foldl_eq_self hshrinks text).2 (congrArg String.utf8ByteSize hfix)
  refine ⟨presentIn_isEmpty_iff.2 habsent, fun r hr hoccurs => ?_⟩
  obtain ⟨c, hc, hrc⟩ := hran r hr
  rw [← Rule.isPresent_iff hrc, habsent c hc] at hoccurs
  cases hoccurs

end RuleSet

end SourcePatch
