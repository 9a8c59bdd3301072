import SourcePatch.Proofs.Text.Newline

/-!
# Where a fragment goes

A fragment is put behind a text on lines of its own. Between the two stands a line ending if the
last line of the text has none; the line endings of the fragment become those of the text; and the
new text is closed with a line ending if the old one was.

## Main definitions

* `closeBreaks`: a text with a CR before every LF that has none.
* `Join.newline`, `Join.separator`, `Join.added`, `Join.closing`: what stands behind the text.

## Main statements

* `joinFragment_lines`: the new text part by part, and what follows for its lines.
-/

namespace SourcePatch

variable {text : List Char}

/-! ## Line endings of a fragment -/

/-- The character `c` of a text, behind a CR if it is an LF and `before` is none. -/
def closeBreak (before : Option Char) (c : Char) : List Char :=
  if c = '\n' ∧ before ≠ some '\r' then ['\r', c] else [c]

/-- Every character of a text and the one before it, of which the first is `before`. -/
def neighbours (before : Option Char) (text : List Char) : List (Option Char × Char) :=
  (before :: text.map some).zip text

/-- `text` with a CR put before exactly those LFs that do not follow one. -/
def closeBreaks (text : List Char) : List Char :=
  (neighbours none text).flatMap fun place => closeBreak place.1 place.2

theorem neighbours_cons (before : Option Char) (c : Char) (text : List Char) :
    neighbours before (c :: text) = (before, c) :: neighbours (some c) text := rfl

theorem convert_eq_flatMap (before : Option Char) (text : List Char) :
    convert (before == some '\r') text =
      (neighbours before text).flatMap fun place => closeBreak place.1 place.2 := by
  induction text generalizing before with
  | nil => rfl
  | cons c text ih =>
    have hnext : (c == '\r') = (some c == some '\r') := rfl
    rw [convert, hnext, ih, neighbours_cons, List.flatMap_cons, closeBreak]
    by_cases hc : c = '\n'
    · subst hc
      simp [crLf]
    · simp [hc]

theorem toCrLf_eq_closeBreaks (text : List Char) : toCrLf text = closeBreaks text :=
  (toCrLf_eq_convert text).trans (convert_eq_flatMap none text)

theorem hasCrLf_iff : hasCrLf text = true ↔ crLf <:+: text := Literal.anyOccurrence_iff

theorem endsLine_iff : endsLine text = true ↔ ['\n'] <:+ text := by
  rw [endsLine, beq_iff_eq, List.singleton_suffix_iff_getLast?_eq_some]

/-! ## The parts of the new text -/

namespace Join

/-- CR LF for a text that contains it, LF for any other. -/
def newline (content : List Char) : List Char := if crLf <:+: content then crLf else ['\n']

/-- What ends the last line of a text that has one which does not end. -/
def separator (content : List Char) : List Char :=
  if content ≠ [] ∧ ¬ ['\n'] <:+ content then newline content else []

/-- A fragment with the line endings of the text. -/
def added (content fragment : List Char) : List Char :=
  if crLf <:+: content then closeBreaks fragment else fragment

/-- What ends the last line of the fragment, if that of the text ended. -/
def closing (content fragment : List Char) : List Char :=
  if ['\n'] <:+ content ∧ ¬ ['\n'] <:+ added content fragment then newline content else []

variable {content : List Char}

theorem newline_eq (content : List Char) :
    (if hasCrLf content = true then crLf else ['\n']) = newline content := by
  simp only [hasCrLf_iff, newline]

theorem newline_ends (content : List Char) : ['\n'] <:+ newline content := by
  unfold newline
  split
  · exact ⟨['\r'], rfl⟩
  · exact List.suffix_refl _

theorem addition_eq (content fragment : List Char) :
    addition content fragment =
      separator content ++ added content fragment ++ closing content fragment := by
  have hadded : (if hasCrLf content = true then toCrLf fragment else fragment) =
      added content fragment := by
    simp only [hasCrLf_iff, toCrLf_eq_closeBreaks, added]
  have hempty : (content.isEmpty || endsLine content) = true ↔
      ¬ (content ≠ [] ∧ ¬ ['\n'] <:+ content) := by
    rw [Bool.or_eq_true, List.isEmpty_iff, endsLine_iff]
    tauto
  have hclosed : (endsLine content && !endsLine (added content fragment)) = true ↔
      ['\n'] <:+ content ∧ ¬ ['\n'] <:+ added content fragment := by
    rw [Bool.and_eq_true, Bool.not_eq_true', ← Bool.not_eq_true, endsLine_iff, endsLine_iff]
  unfold addition
  rw [hadded, newline_eq]
  simp only [hempty, hclosed, ite_not, separator, closing]

/-- What is added starts the text, or follows an LF. -/
theorem separator_ends (content : List Char) :
    content ++ separator content = [] ∨ ['\n'] <:+ content ++ separator content := by
  unfold separator
  split
  · exact .inr ((newline_ends content).trans (List.suffix_append _ _))
  · next h =>
    rw [List.append_nil]
    tauto

/-- Behind a text that ends with an LF, what is added does too. -/
theorem closing_ends (fragment : List Char) (h : ['\n'] <:+ content) :
    ['\n'] <:+ added content fragment ++ closing content fragment := by
  unfold closing
  split
  · exact (newline_ends content).trans (List.suffix_append _ _)
  · next hclosed =>
    rw [List.append_nil]
    tauto

end Join

/-! ## The new text -/

theorem toList_joinFragment_eq (content fragment : String) :
    (joinFragment content fragment).toList =
      content.toList ++ Join.separator content.toList ++
        Join.added content.toList fragment.toList ++
        Join.closing content.toList fragment.toList := by
  rw [toList_joinFragment, Join.addition_eq]
  simp only [List.append_assoc]

theorem ends_joinFragment {content : String} (h : ['\n'] <:+ content.toList) (fragment : String) :
    ['\n'] <:+ (joinFragment content fragment).toList := by
  rw [toList_joinFragment_eq, List.append_assoc]
  exact (Join.closing_ends _ h).trans (List.suffix_append _ _)

theorem converted_joinFragment {content : String} (h : crLf <:+: content.toList)
    (hall : Converted content.toList) (fragment : String) :
    Converted (joinFragment content fragment).toList := by
  rw [toList_joinFragment]
  exact hall.append (converted_addition (hasCrLf_iff.2 h) _)

/-- A fragment is joined to a text by the line endings of the text: what the new text is made of,
and what follows. It goes on where the old one ended; the fragment starts on a line of its own; the
new text is closed if the old one was, and has CR LF everywhere if the old one had; in a text
without CR LF the fragment stands as it was given. -/
theorem joinFragment_lines (content fragment : String) :
    (joinFragment content fragment).toList =
      content.toList ++ Join.separator content.toList ++
        Join.added content.toList fragment.toList ++
        Join.closing content.toList fragment.toList ∧
    content.toList <+: (joinFragment content fragment).toList ∧
    (content.toList ++ Join.separator content.toList = [] ∨
      ['\n'] <:+ content.toList ++ Join.separator content.toList) ∧
    (['\n'] <:+ content.toList → ['\n'] <:+ (joinFragment content fragment).toList) ∧
    (crLf <:+: content.toList → Converted content.toList →
      crLf <:+: (joinFragment content fragment).toList ∧
        Converted (joinFragment content fragment).toList) ∧
    (¬ crLf <:+: content.toList →
      content.toList ++ Join.separator content.toList ++ fragment.toList <+:
        (joinFragment content fragment).toList) := by
  have hfront : content.toList <+: (joinFragment content fragment).toList := by
    rw [toList_joinFragment]
    exact List.prefix_append _ _
  refine ⟨toList_joinFragment_eq content fragment, hfront, Join.separator_ends _,
    fun h => ends_joinFragment h fragment,
    fun h hall => ⟨h.trans hfront.isInfix, converted_joinFragment h hall fragment⟩, fun h => ?_⟩
  rw [toList_joinFragment_eq, Join.added, if_neg h]
  exact List.prefix_append _ _

/-- A CR that stands alone counts for the LF behind it only. -/
example : joinFragment "a\r\n" "\r\r\nb\n\r" = "a\r\n\r\r\nb\r\n\r\r\n" := by decide

end SourcePatch
