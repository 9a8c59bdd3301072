import SourcePatch.Proofs.Regex.Search
import SourcePatch.Proofs.Rule.Compile

/-!
# The check for a second pass

The check that a second pass changes nothing first looks whether any rule finds something, and runs
the rules only then. This is exact: it succeeds just where a pass leaves the text as it is, and
where it fails it names the rules whose targets stand in the text.

## Main definitions

* `Target.Stands`: a target stands in a text, whatever goes about finding it there.
* `RuleSet.holding`: the names of the rules whose targets stand in a text.

## Main statements

* `Rule.isPresent_iff_stands`: a rule that can run finds something just where its target stands.
* `RuleSet.checkIdempotent_exact`: when the check succeeds, and which rules it names when it fails.
-/

namespace SourcePatch

/-- A target stands in a text: a literal is part of it, the form of a regular expression leads from
some spot of it to another, or a block starts somewhere. -/
def Target.Stands : Target → List Char → Prop
  | .literal search, text => search.toList <:+: text
  | .regex pattern, text =>
    ∃ form names, Regex.read? pattern.toList = some (form, names) ∧ form.MatchesIn text
  | .block header indent, text =>
    ∃ rest, rest <:+ text ∧ Starts (IsBlock header.toList indent) rest

theorem Rule.name_of_compile {r : Rule} {c : CompiledRule} (h : r.compile = .ok c) :
    c.name = r.name := by
  cases htarget : r.target with
  | literal search =>
    obtain ⟨-, rfl⟩ := eq_of_compile_literal htarget h
    rfl
  | regex pattern =>
    obtain ⟨-, -, rfl⟩ := eq_of_compile_regex htarget h
    rfl
  | block header indent =>
    obtain ⟨-, rfl⟩ := eq_of_compile_block htarget h
    rfl

/-- A rule that can run finds something just where its target stands. -/
theorem Rule.isPresent_iff_stands {r : Rule} {c : CompiledRule} (h : r.compile = .ok c)
    (text : String) : c.isPresent text = true ↔ r.target.Stands text.toList := by
  rw [isPresent_iff h]
  cases htarget : r.target with
  | literal search => rfl
  | regex pattern =>
    obtain ⟨regex, hregex, -⟩ := eq_of_compile_regex htarget h
    simp only [Target.OccursIn, Target.Stands, hregex, Option.some.injEq, exists_eq_left',
      Regex.occursIn_iff hregex]
  | block header indent => rfl

namespace RuleSet

variable {rules : List Rule} {s : RuleSet}

open Classical in
/-- The names of the rules whose targets stand in `text`, in the order of the rules. -/
noncomputable def holding (rules : List Rule) (text : String) : List String :=
  (rules.filter fun r => r.target.Stands text.toList).map (·.name)

/-- The rules of a set that find something are those whose targets stand in the text. -/
theorem presentIn_eq (h : compile rules = .ok s) (text : String) :
    s.presentIn text = holding rules text := by
  classical
  have hrules := forall₂_of_compile h
  rw [presentIn, holding]
  generalize s.rules = compiled at hrules
  clear h
  induction hrules with
  | nil => rfl
  | @cons r c rules compiled hrule _ ih =>
    have hpresent : c.isPresent text = decide (r.target.Stands text.toList) := by
      rw [Bool.eq_iff_iff, Rule.isPresent_iff_stands hrule, decide_eq_true_iff]
    rw [List.filter_cons, List.filter_cons, hpresent]
    split
    · rw [List.map_cons, List.map_cons, Rule.name_of_compile hrule]
      exact congrArg _ ih
    · exact ih

/-- The check for a second pass succeeds just where a pass leaves the text as it is, although it
runs none of the rules where none finds anything. Where it fails it names, in their order, the rules
whose targets stand in the text, and there is one. -/
theorem checkIdempotent_exact (h : compile rules = .ok s) (text : String) :
    s.presentIn text = holding rules text ∧
      (s.presentIn text = [] → s.apply text = text) ∧
      (s.checkIdempotent text = .ok () ↔ s.apply text = text) ∧
      ∀ e, s.checkIdempotent text = .error e →
        e = .notIdempotent (holding rules text) ∧ holding rules text ≠ [] := by
  have hpresent := presentIn_eq h text
  have hnothing : s.presentIn text = [] → s.apply text = text := fun hnone =>
    apply_of_presentIn_isEmpty (List.isEmpty_iff.2 hnone)
  refine ⟨hpresent, hnothing, checkIdempotent_eq_ok_iff, fun e he => ?_⟩
  have hchanges : s.apply text ≠ text := fun hsame => by
    rw [checkIdempotent_eq_ok_iff.2 hsame] at he
    cases he
  rw [checkIdempotent_of_ne hchanges] at he
  cases he
  rw [← hpresent]
  exact ⟨rfl, mt hnothing hchanges⟩

/-- A literal, a regular expression and a block. -/
def mixedRules : List Rule :=
  [⟨"swap", .literal "ab", "ba"⟩, ⟨"keep", .regex "(?:b|x*?)+y", "$0"⟩,
    ⟨"body", .block "f \x7b" 0, ""⟩]

def mixedSet : RuleSet :=
  ⟨[⟨"swap", .literal "ab" "ba"⟩,
    ⟨"keep", .template ⟨.seq (.plus (some 0) true (.alt (some 1) (.set (.singleton 'b') ())
      (.star (some 2) false (.set (.singleton 'x') ())))) (.set (.singleton 'y') ()), []⟩
      (.ofList "$0".toList)⟩,
    ⟨"body", .verbatim (.ofBlock "f \x7b" 0) ""⟩]⟩

theorem compile_mixedRules : compile mixedRules = .ok mixedSet := by
  have hkeep : Rule.compile ⟨"keep", .regex "(?:b|x*?)+y", "$0"⟩ = .ok mixedSet.rules[1] := by rfl
  have hbody : Rule.compile ⟨"body", .block "f \x7b" 0, ""⟩ = .ok mixedSet.rules[2] :=
    (Rule.compile_block rfl (by decide)).trans
      (if_neg (by rw [Regex.TooLarge, Regex.blockForm_eq]; decide))
  simp only [compile, mixedRules, List.mapM_cons, List.mapM_nil, hkeep, hbody]
  rfl

/-- The rule that keeps what it finds is named along with the one that changes something. Where it
is the only one to find anything, nothing is refused. -/
theorem checkIdempotent_exact_of_mixed :
    compile mixedRules = .ok mixedSet ∧
      mixedSet.checkIdempotent "by\n f \x7b\n\x7d" = .error (.notIdempotent ["keep", "body"]) ∧
      holding mixedRules "by\n f \x7b\n\x7d" = ["keep", "body"] ∧
      mixedSet.checkIdempotent "by" = .ok () ∧ holding mixedRules "by" = ["keep"] := by
  obtain ⟨-, -, -, hnamed⟩ :=
    checkIdempotent_exact compile_mixedRules "by\n f \x7b\n\x7d"
  obtain ⟨hpresent, -, hok, -⟩ := checkIdempotent_exact compile_mixedRules "by"
  have hrefused : mixedSet.checkIdempotent "by\n f \x7b\n\x7d" =
      .error (.notIdempotent ["keep", "body"]) := by rfl
  obtain ⟨heq, -⟩ := hnamed _ hrefused
  refine ⟨compile_mixedRules, hrefused, ?_, hok.2 (by rfl), hpresent.symm.trans (by rfl)⟩
  exact (RuleError.notIdempotent.inj heq).symm

end RuleSet

end SourcePatch
