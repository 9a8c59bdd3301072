import SourcePatch.Proofs.Rule.Block
import SourcePatch.Proofs.Rule.Set
import SourcePatch.Proofs.Text.Literal

/-!
# Rules that can run

What the rules that are ready to run have come from, and why the first of them cannot run, if one
cannot.

## Main definitions

* `Target.OccursIn`: a text holds what a rule looks for.

## Main statements

* `Rule.isPresent_iff`: a rule that can run finds something just where that occurs.
* `RuleSet.forall₂_of_compile`, `RuleSet.compile_eq_error`: the rules of a set, one by one.
-/

namespace SourcePatch

/-- A text holds what a rule looks for. -/
def Target.OccursIn : Target → List Char → Prop
  | .literal search, text => search.toList <:+: text
  | .regex pattern, text =>
    ∃ regex, Regex.compile? pattern.toList = some regex ∧ regex.occursIn text = true
  | .block header indent, text =>
    ∃ rest, rest <:+ text ∧ Starts (IsBlock header.toList indent) rest

namespace Rule

variable {r : Rule} {c : CompiledRule} {e : RuleError}

/-! ## One rule -/

theorem compile_literal {search : String} (htarget : r.target = .literal search) :
    r.compile = if search.isEmpty then .error (.emptySearch r.name)
      else .ok ⟨r.name, .literal search r.replacement⟩ := by
  rw [compile, htarget]

theorem eq_of_compile_literal {search : String} (htarget : r.target = .literal search)
    (h : r.compile = .ok c) :
    search ≠ "" ∧ c = ⟨r.name, .literal search r.replacement⟩ := by
  rw [compile_literal htarget] at h
  split at h
  · cases h
  · next hne => exact ⟨by simpa using hne, (Except.ok.inj h).symm⟩

theorem compile_regex {pattern : String} (htarget : r.target = .regex pattern) :
    r.compile = match Regex.compile? pattern.toList with
      | none => .error (.invalidPattern r.name)
      | some regex =>
        if regex.occursIn [] then .error (.matchesEmpty r.name)
        else .ok ⟨r.name, .template regex (.ofList r.replacement.toList)⟩ := by
  simp only [compile, htarget, compileRegex]
  cases Regex.compile? pattern.toList with
  | none => rfl
  | some regex =>
    dsimp only
    split <;> rfl

theorem eq_of_compile_regex {pattern : String} (htarget : r.target = .regex pattern)
    (h : r.compile = .ok c) :
    ∃ regex, Regex.compile? pattern.toList = some regex ∧
      c = ⟨r.name, .template regex (.ofList r.replacement.toList)⟩ := by
  rw [compile_regex htarget] at h
  split at h
  · cases h
  · next regex hregex =>
    split at h
    · cases h
    · exact ⟨regex, hregex, (Except.ok.inj h).symm⟩

/-- A rule that can run finds something just where that occurs. -/
theorem isPresent_iff (h : r.compile = .ok c) (text : String) :
    c.isPresent text = true ↔ r.target.OccursIn text.toList := by
  cases htarget : r.target with
  | literal search =>
    obtain ⟨-, rfl⟩ := eq_of_compile_literal htarget h
    exact Literal.occursIn_iff
  | regex pattern =>
    obtain ⟨regex, hregex, rfl⟩ := eq_of_compile_regex htarget h
    constructor
    · exact fun hpresent => ⟨regex, hregex, hpresent⟩
    · rintro ⟨regex', hregex', hpresent⟩
      obtain rfl := Option.some.inj (hregex.symm.trans hregex')
      exact hpresent
  | block header indent =>
    obtain ⟨hblank, rfl⟩ := eq_of_compile_block htarget h
    exact Regex.occursIn_ofBlock_iff (isBlank_eq_false_iff.1 hblank) indent text.toList

/-- Why a rule cannot run. Only a regular expression is refused for matching the empty text. -/
theorem compile_eq_error (h : r.compile = .error e) :
    e = .emptySearch r.name ∧
        (r.target = .literal "" ∨ ∃ header indent, r.target = .block header indent ∧
          isBlank header = true) ∨
      e = .invalidPattern r.name ∨
      e = .matchesEmpty r.name ∧ ∃ pattern, r.target = .regex pattern := by
  cases htarget : r.target with
  | literal search =>
    rw [compile_literal htarget] at h
    split at h
    · next hempty =>
      cases h
      exact .inl ⟨rfl, .inl (by simpa using hempty)⟩
    · cases h
  | regex pattern =>
    rw [compile_regex htarget] at h
    split at h
    · cases h
      exact .inr (.inl rfl)
    · split at h
      · cases h
        exact .inr (.inr ⟨rfl, pattern, rfl⟩)
      · cases h
  | block header indent =>
    cases hblank : isBlank header with
    | true =>
      rw [compile_block_of_isBlank htarget hblank] at h
      cases h
      exact .inl ⟨rfl, .inr ⟨header, indent, rfl, hblank⟩⟩
    | false =>
      rw [compile_block htarget hblank] at h
      split at h
      · cases h
        exact .inr (.inl rfl)
      · cases h

end Rule

/-! ## The rules of a set -/

/-- The results of the members stand in their order. -/
theorem forall₂_of_mapM_ok {α β ε : Type} {f : α → Except ε β} {l : List α} {l' : List β}
    (h : l.mapM f = .ok l') : List.Forall₂ (fun a b => f a = .ok b) l l' := by
  induction l generalizing l' with
  | nil => cases h; exact .nil
  | cons a l ih =>
    rw [List.mapM_cons] at h
    cases ha : f a with
    | error e => rw [ha] at h; cases h
    | ok b =>
      cases hl : l.mapM f with
      | error e => rw [ha, hl] at h; cases h
      | ok bs =>
        rw [ha, hl] at h
        cases h
        exact .cons ha (ih hl)

/-- The first that fails is reported. -/
theorem mapM_eq_error {α β ε : Type} {f : α → Except ε β} {l : List α} {e : ε}
    (h : l.mapM f = .error e) :
    ∃ before a after, l = before ++ a :: after ∧ (∀ b ∈ before, ∃ c, f b = .ok c) ∧
      f a = .error e := by
  induction l with
  | nil => cases h
  | cons a l ih =>
    rw [List.mapM_cons] at h
    cases ha : f a with
    | error e' =>
      rw [ha] at h
      cases h
      exact ⟨[], a, l, rfl, by simp, ha⟩
    | ok b =>
      cases hl : l.mapM f with
      | ok bs => rw [ha, hl] at h; cases h
      | error e' =>
        rw [ha, hl] at h
        cases h
        obtain ⟨before, a', after, rfl, hbefore, ha'⟩ := ih hl
        exact ⟨a :: before, a', after, rfl, by simpa using ⟨⟨b, ha⟩, hbefore⟩, ha'⟩

namespace RuleSet

variable {rules : List Rule} {s : RuleSet} {e : RuleError}

/-- The rules of a set are what the rules have come to, in their order. -/
theorem forall₂_of_compile (h : compile rules = .ok s) :
    List.Forall₂ (fun r c => Rule.compile r = .ok c) rules s.rules := by
  unfold compile at h
  split at h
  · cases h
  · cases hcompiled : rules.mapM Rule.compile with
    | error e => rw [hcompiled] at h; cases h
    | ok compiled =>
      rw [hcompiled] at h
      cases h
      exact forall₂_of_mapM_ok hcompiled

theorem compile_eq_ok (h : compile rules = .ok s) :
    (∀ r ∈ rules, ∃ c ∈ s.rules, Rule.compile r = .ok c) ∧
      ∀ c ∈ s.rules, ∃ r ∈ rules, Rule.compile r = .ok c := by
  have hrules := forall₂_of_compile h
  generalize s.rules = compiled at hrules
  clear h
  induction hrules with
  | nil => simp
  | cons hrule _ ih =>
    obtain ⟨hran, hfrom⟩ := ih
    simp only [List.mem_cons, exists_eq_or_imp, forall_eq_or_imp, hrule, true_or, true_and]
    exact ⟨fun r hr => .inr (hran r hr), fun c hc => .inr (hfrom c hc)⟩

/-- The first rule that cannot run is reported. -/
theorem compile_eq_error (h : compile rules = .error e) :
    rules = [] ∧ e = .emptyRuleSet ∨
      ∃ before r after, rules = before ++ r :: after ∧
        (∀ r' ∈ before, ∃ c, Rule.compile r' = .ok c) ∧ Rule.compile r = .error e := by
  unfold compile at h
  split at h
  · next hempty =>
    cases h
    exact .inl ⟨by simpa using hempty, rfl⟩
  · cases hcompiled : rules.mapM Rule.compile with
    | ok compiled => rw [hcompiled] at h; cases h
    | error e' =>
      rw [hcompiled] at h
      cases h
      exact .inr (mapM_eq_error hcompiled)

end RuleSet

end SourcePatch
