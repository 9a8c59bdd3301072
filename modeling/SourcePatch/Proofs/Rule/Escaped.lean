import SourcePatch.Proofs.Rule.Compile

/-!
# Literals as regular expressions

A literal can be written as a regular expression in which nothing has a special meaning, and its
replacement as a template without references. Such a rule does what the rule for the literal does,
unless the expression is too large.

## Main definitions

* `Regex.ofLetters`: the regular expression that goes through given letters.
* `Regex.Template.escape`: a template for exactly a text.

## Main statements

* `Regex.compile?_escape`: an escaped text is read as its letters.
* `Regex.Template.ofList_escape`: an escaped template stands for its text.
* `Rule.apply_escaped`: a rule for a literal and the rule for its expression do the same.
-/

namespace SourcePatch.Regex

/-! ## The expression -/

/-- Letters one behind the other. -/
def lettersForm (letters : List Char) : Form := .allOf (letters.map fun c => .set (.singleton c))

/-- The regular expression that goes through given letters. -/
def ofLetters (letters : List Char) : Regex := ⟨(lettersForm letters).spelledOut, []⟩

variable {letters text : List Char} {t : Trail}

theorem plain_lettersForm (letters : List Char) : (lettersForm letters).Plain := by
  refine Form.plain_allOf ?_
  intro f hf
  obtain ⟨c, -, rfl⟩ := List.mem_map.1 hf
  exact Form.plain_set _

theorem form_branch (l : Level) : l.branch.form = .allOf (l.items.reverse.map (·.form)) := by
  unfold Level.branch
  split
  · next h => rw [h]; rfl
  · next i h =>
    obtain ⟨form, height, repeatable⟩ := i
    rw [h]
    cases form <;> rfl
  · rfl

theorem height_branch_le (l : Level) :
    l.branch.height ≤ (l.items.map (·.height)).foldl max 0 + 1 := by
  unfold Level.branch
  split
  · exact Nat.zero_le _
  · next i h => simp [h]
  · exact Nat.le_refl _

/-- An escaped text is read as its letters. -/
theorem read?_escape (letters : List Char) :
    read? (escape letters) = some (lettersForm letters, []) := by
  obtain ⟨fuel, hfuel⟩ : ∃ fuel, (escape letters).length + 1 = fuel + 1 + letters.length := by
    have := length_le_escape letters
    exact ⟨(escape letters).length - letters.length, by omega⟩
  -- the letters that have been read, the last one first
  obtain ⟨items, hitems⟩ : ∃ items,
      (letters.map fun c => Item.oneOf (.singleton c) 0).reverse = items := ⟨_, rfl⟩
  have hread : readOn ((escape letters).length + 1) .start (escape letters) =
      some (.behind items) := by
    have h := @readOn_escape (fuel + 1) [] [] letters
    rw [List.append_nil, List.append_nil, hitems] at h
    rw [hfuel]
    exact h
  have hform : (Reading.behind items).level.whole.form = lettersForm letters := by
    refine (form_branch (Reading.behind items).level).trans (congrArg Form.allOf ?_)
    simp [Reading.behind, ← hitems, Item.oneOf, Function.comp_def]
  have hheight : (Reading.behind items).level.whole.height ≤ heightLimit := by
    refine (height_branch_le (Reading.behind items).level).trans ?_
    have hflat : ((Reading.behind items).level.items.map (·.height)).foldl max 0 ≤ 0 :=
      foldl_max_le (Nat.le_refl 0) (by simp [Reading.behind, ← hitems, Item.oneOf])
    have : 1 ≤ heightLimit := by decide
    omega
  rw [read?, hread, Option.bind_eq_bind, Option.bind_some, hform, guard, guard, if_pos hheight]
  rfl

/-! ## Its size -/

theorem encodedLength_eq (c : Char) : Form.encodedLength c.toNat = c.utf8Size := by
  have hle (n : UInt32) : c.val ≤ n ↔ c.toNat ≤ n.toNat := UInt32.le_iff_toNat_le
  simp only [Form.encodedLength, Char.utf8Size, hle]
  grind

theorem lettersForm_ne_empty (h : letters ≠ []) : lettersForm letters ≠ .empty := by
  cases letters with
  | nil => exact absurd rfl h
  | cons c letters =>
    obtain ⟨hempty, -⟩ | ⟨-, heq⟩ | heq :=
      Form.allOf_cons (.set (.singleton c)) (letters.map fun c => .set (.singleton c))
    · cases hempty
    · simp [lettersForm, heq]
    · simp [lettersForm, heq]

theorem lettersForm_cons (h : letters ≠ []) (c : Char) :
    lettersForm (c :: letters) = .seq (.set (.singleton c)) (lettersForm letters) := by
  obtain ⟨hempty, -⟩ | ⟨hempty, -⟩ | heq :=
    Form.allOf_cons (.set (.singleton c)) (letters.map fun c => .set (.singleton c))
  · cases hempty
  · exact absurd hempty (lettersForm_ne_empty h)
  · exact heq

/-- Each byte of a text takes one step. -/
theorem cost_lettersForm (h : letters ≠ []) :
    (lettersForm letters).cost = Form.stepCost * (String.ofList letters).utf8ByteSize := by
  have hletter (c : Char) : (Form.set (.singleton c)).cost = Form.stepCost * c.utf8Size := by
    simp [Form.cost, Form.setCost, CharSet.singleton, CharSet.range, encodedLength_eq]
  induction letters with
  | nil => exact absurd rfl h
  | cons c letters ih =>
    rw [String.ofList_cons, String.utf8ByteSize_append, String.utf8ByteSize_singleton, Nat.mul_add]
    by_cases hnil : letters = []
    · subst hnil
      exact hletter c
    · rw [lettersForm_cons hnil, Form.cost, hletter, ih hnil]

/-- An escaped text is a regular expression, unless it is too long. -/
theorem compile?_escape (h : letters ≠ []) : compile? (escape letters) =
    if Form.costLimit < Form.stepCost * (String.ofList letters).utf8ByteSize then none
    else some (ofLetters letters) := by
  have hform := Form.toPattern_of_plain (plain_lettersForm letters)
  rw [compile?, read?_escape, Option.bind_eq_bind, Option.bind_some]
  dsimp only
  rw [cost_lettersForm h]
  by_cases hlarge : Form.costLimit < Form.stepCost * (String.ofList letters).utf8ByteSize
  · rw [if_pos hlarge, guard, if_neg (Nat.not_le.2 hlarge)]
    rfl
  · rw [if_neg hlarge, guard, if_pos (Nat.not_lt.1 hlarge), hform]
    rfl

/-! ## Its matches -/

theorem first_lettersForm : (lettersForm letters).first Pattern.stop text = some t ↔
    ∃ rest, text = letters ++ rest ∧ t = ⟨rest.length, []⟩ := by
  have hend : (Form.allOf []).first Pattern.stop = Pattern.stop := Form.first_empty
  rw [lettersForm, ← List.append_nil (letters.map _), Form.first_letters, hend]
  simp [Pattern.stop, eq_comm]

/-- The expression for letters finds them wherever they stand. -/
theorem finds_lettersForm (h : letters ≠ []) :
    Finds (fun span _ => span = letters) (found (lettersForm letters).spelledOut) where
  starts {text o} ho := by
    obtain ⟨t, ht, -⟩ := Option.map_eq_some_iff.1 ho
    obtain ⟨rest, rfl, -⟩ := first_lettersForm.1 ht
    exact ⟨letters, rest, rfl, rfl⟩
  find_append {_ rest} hspan := by
    subst hspan
    exact exists_found (first_lettersForm.2 ⟨rest, rfl, rfl⟩)
  ne_nil := by
    rintro _ _ rfl
    exact h

/-- The expression for letters replaces them as a scan does. -/
theorem scan_ofLetters (h : letters ≠ []) (replacement text : List Char) :
    ∃ spans, Scan (fun span _ => span = letters) replacement text spans
        ((ofLetters letters).replaceAll (replacement.map .char) text) ∧
      ((ofLetters letters).occursIn text = true ↔ spans ≠ []) :=
  scan_replaceAll (plain_lettersForm letters).1 (finds_lettersForm h) _ _

/-- What a rule for letters looks for is not in the empty text. -/
theorem not_occursIn_ofLetters_nil (h : letters ≠ []) :
    (ofLetters letters).occursIn [] = false := by
  rw [occursIn, occurrences_eq (plain_lettersForm letters).1]
  exact (finds_lettersForm h).not_anyOccurrence_nil

/-! ## The template -/

namespace Template

/-- A template for exactly `text`, in which every dollar sign is doubled. -/
def escape (text : List Char) : List Char :=
  text.flatMap fun c => if c = '$' then ['$', '$'] else [c]

/-- An escaped template stands for its text. -/
theorem ofList_escape (text : List Char) : ofList (escape text) = text.map .char := by
  induction text with
  | nil => rfl
  | cons c text ih =>
    rw [ofList, escape] at ih ⊢
    by_cases hc : c = '$'
    · subst hc
      simpa [pieces] using ih
    · simpa [pieces, hc] using ih

end Template

end Regex

namespace Rule

/-- A rule for a literal does the same as the rule for the escaped literal with the escaped
replacement, whether or not it finds anything. Only the length of the literal can make one of them
refuse what the other accepts. -/
theorem apply_escaped {search : String} (hsearch : search ≠ "") (name replacement : String) :
    ∃ literal escaped,
      compile ⟨name, .literal search, replacement⟩ = .ok literal ∧
      compile ⟨name, .regex (.ofList (Regex.escape search.toList)),
          .ofList (Regex.Template.escape replacement.toList)⟩ =
        (if Regex.Form.costLimit < Regex.Form.stepCost * search.utf8ByteSize then
          .error (.invalidPattern name)
        else .ok escaped) ∧
      ∀ text, escaped.isPresent text = literal.isPresent text ∧
        escaped.apply text = literal.apply text := by
  have hne : search.toList ≠ [] := by simpa using hsearch
  refine ⟨⟨name, .literal search replacement⟩,
    ⟨name, .template (.ofLetters search.toList) (replacement.toList.map .char)⟩, ?_, ?_, ?_⟩
  · rw [compile_literal rfl, if_neg (by simpa using hsearch)]
  · rw [compile_regex rfl, String.toList_ofList, Regex.compile?_escape hne, String.ofList_toList]
    by_cases hlarge : Regex.Form.costLimit < Regex.Form.stepCost * search.utf8ByteSize
    · rw [if_pos hlarge, if_pos hlarge]
    · rw [if_neg hlarge, if_neg hlarge]
      simp [Regex.not_occursIn_ofLetters_nil hne, Regex.Template.ofList_escape]
  · intro text
    obtain ⟨spans, hscan, hpresent⟩ := Literal.scan hne replacement.toList text.toList
    obtain ⟨spans', hscan', hpresent'⟩ :=
      Regex.scan_ofLetters hne replacement.toList text.toList
    obtain ⟨rfl, hout⟩ := hscan.unique (fun _ _ _ _ h h' _ => h.trans h'.symm) hscan'
    refine ⟨?_, congrArg String.ofList hout.symm⟩
    rw [Bool.eq_iff_iff]
    exact hpresent'.trans hpresent.symm

/-- Of two occurrences that overlap the first one is replaced, the point is no wildcard, and what is
put in place is no reference. -/
theorem apply_escaped_metacharacters :
    "a.a" ≠ "" ∧ String.ofList (Regex.escape "a.a".toList) = "a\\.a" ∧
    String.ofList (Regex.Template.escape "$1".toList) = "$$1" ∧
    ∃ escaped, compile ⟨"r", .regex "a\\.a", "$$1"⟩ = .ok escaped ∧
      escaped.isPresent "aba" = false ∧ escaped.apply "a.a.a aba" = "$1.a aba" := by
  obtain ⟨literal, escaped, hliteral, hescaped, hsame⟩ :=
    apply_escaped (show "a.a" ≠ "" by decide) "r" "$1"
  obtain rfl := Except.ok.inj (hliteral.symm.trans rfl)
  refine ⟨by decide, by decide, by decide, escaped, ?_, ?_, ?_⟩
  · exact hescaped.trans (if_neg (by decide))
  · rw [(hsame _).1]
    rfl
  · rw [(hsame _).2]
    rfl

end Rule

end SourcePatch
