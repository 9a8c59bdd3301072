import Mathlib.Data.List.Induction
import SourcePatch.Proofs.Text.Literal
import SourcePatch.Text.Newline

/-!
# What an append keeps

A fragment that is appended to a text with CR LF gets a CR before every LF that has none. So what is
looked for in the fragment is not in the new text if it has a bare LF inside, unless it starts in
the old text by chance.

## Main definitions

* `BareBreak`: behind the first character there is an LF without a CR before it.
* `addition`: what an append puts behind a text.
* `Survives`: when a part of a fragment is found in the text to which the fragment is appended.

## Main statements

* `occursIn_joinFragment_iff`: a part of a fragment is found exactly if it survives.
-/

namespace SourcePatch

/-- Behind the first character there is an LF without a CR before it. -/
def BareBreak (text : List Char) : Prop :=
  ∃ before c after, text = before ++ c :: '\n' :: after ∧ c ≠ '\r'

/-- Every LF has a CR before it. -/
def Converted (text : List Char) : Prop :=
  ∀ before after, text = before ++ '\n' :: after → ['\r'] <:+ before

/-- What an append puts behind a text. -/
def addition (content fragment : List Char) : List Char :=
  let newline := if hasCrLf content then crLf else ['\n']
  let separator := if content.isEmpty || endsLine content then [] else newline
  let added := if hasCrLf content then toCrLf fragment else fragment
  let closing := if endsLine content && !endsLine added then newline else []
  separator ++ added ++ closing

/-- When a part of a fragment is found in a text to which the fragment is appended, and that did not
contain it before. -/
def Survives (part content fragment : List Char) : Prop :=
  hasCrLf content = false ∨ ¬ BareBreak part ∨
    ∃ head tail, part = head ++ tail ∧ head <:+ content ∧ tail <+: addition content fragment

variable {text : List Char} {c : Char}

theorem bareBreak_cons_cons {a b : Char} {text : List Char} : BareBreak (a :: b :: text) ↔
    (b = '\n' ∧ a ≠ '\r') ∨ BareBreak (b :: text) := by
  constructor
  · rintro ⟨before, c, after, h, hc⟩
    cases before with
    | nil =>
      cases h
      exact .inl ⟨rfl, hc⟩
    | cons x before =>
      rw [List.cons_append, List.cons.injEq] at h
      exact .inr ⟨before, c, after, h.2, hc⟩
  · rintro (⟨rfl, ha⟩ | ⟨before, c, after, h, hc⟩)
    · exact ⟨[], a, text, rfl, ha⟩
    · exact ⟨a :: before, c, after, by rw [h, List.cons_append], hc⟩

instance decidableBareBreak : (text : List Char) → Decidable (BareBreak text)
  | [] => .isFalse fun ⟨before, c, after, h, _⟩ => by simp at h
  | [a] => .isFalse fun ⟨before, c, after, h, _⟩ => by
    have hlen := congrArg List.length h
    simp at hlen
    omega
  | _ :: b :: text =>
    have := decidableBareBreak (b :: text)
    decidable_of_iff _ bareBreak_cons_cons.symm

/-! ## Conversion -/

theorem toCrLf_crLf (text : List Char) :
    toCrLf ('\r' :: '\n' :: text) = crLf ++ toCrLf text := by
  have hfirst := Literal.replaceAll_append (show crLf ≠ [] by simp [crLf]) ['\n'] text
  unfold toCrLf
  rw [show '\r' :: '\n' :: text = crLf ++ text from rfl, hfirst]
  exact Literal.replaceAll_append (by simp) _ _

theorem toCrLf_cons (h : ¬ crLf <+: c :: text) : toCrLf (c :: text) =
    (if c = '\n' then crLf else [c]) ++ toCrLf text := by
  unfold toCrLf
  rw [Literal.replaceAll_cons h]
  split
  · next hc =>
    subst hc
    exact Literal.replaceAll_append (show ['\n'] ≠ [] by simp) _ _
  · next hc =>
    have hne : ¬ ['\n'] <+: c :: Literal.replaceAll crLf ['\n'] text := by
      simpa [List.cons_prefix_cons] using Ne.symm hc
    exact Literal.replaceAll_cons hne

/-- Induction along the lines of a text: one step for CR LF, one for any other character. -/
theorem line_induction {motive : List Char → Prop} (nil : motive [])
    (crLf : ∀ text, motive text → motive ('\r' :: '\n' :: text))
    (cons : ∀ c text, ¬ SourcePatch.crLf <+: c :: text → motive text → motive (c :: text))
    (text : List Char) : motive text := by
  induction text using List.twoStepInduction with
  | nil => exact nil
  | singleton c => exact cons c [] (by simp [SourcePatch.crLf]) nil
  | cons_cons a b text ih ih' =>
    by_cases h : SourcePatch.crLf <+: a :: b :: text
    · obtain ⟨rfl, rfl⟩ : '\r' = a ∧ '\n' = b := by
        simpa [SourcePatch.crLf, List.cons_prefix_cons] using h
      exact crLf text ih
    · exact cons a (b :: text) h (ih' b)

namespace Converted

theorem nil : Converted [] := by
  intro before after h
  simp at h

theorem crLf : Converted crLf := by
  intro before after h
  cases before with
  | nil => cases h
  | cons a before =>
    obtain ⟨rfl, h⟩ := List.cons.inj h
    cases before with
    | nil => exact List.suffix_refl _
    | cons b before =>
      have hlen := congrArg List.length h
      simp only [SourcePatch.crLf, List.length_append, List.length_cons, List.length_nil] at hlen
      omega

theorem singleton (h : c ≠ '\n') : Converted [c] := by
  intro before after hsplit
  have hmem : '\n' ∈ [c] := by simp [hsplit]
  exact absurd (List.mem_singleton.1 hmem).symm h

theorem append {a b : List Char} (ha : Converted a) (hb : Converted b) : Converted (a ++ b) := by
  intro before after h
  obtain ⟨rest, rfl, hb'⟩ | ⟨rest, rfl, hrest⟩ := List.append_eq_append_iff.1 h
  · exact (hb rest after hb').trans (List.suffix_append _ _)
  · cases rest with
    | nil =>
      -- the LF is the first character of the second part, which has none there
      have hsuffix := hb [] after hrest.symm
      simp at hsuffix
    | cons c rest =>
      obtain ⟨rfl, -⟩ := List.cons.inj hrest
      exact ha before rest rfl

/-- No part of a converted text has a bare LF behind its first character. -/
theorem not_bareBreak {part : List Char} (h : Converted text) (hpart : part <:+: text) :
    ¬ BareBreak part := by
  rintro ⟨before, c, after, rfl, hc⟩
  obtain ⟨front, back, rfl⟩ := hpart
  have hsuffix := h (front ++ before ++ [c]) (after ++ back) (by simp)
  rw [List.singleton_suffix_append_singleton_iff] at hsuffix
  exact hc hsuffix.symm

end Converted

theorem converted_toCrLf (text : List Char) : Converted (toCrLf text) := by
  induction text using line_induction with
  | nil => exact .nil
  | crLf text ih =>
    rw [toCrLf_crLf]
    exact Converted.crLf.append ih
  | cons c text h ih =>
    rw [toCrLf_cons h]
    split
    · exact Converted.crLf.append ih
    · next hc => exact (Converted.singleton hc).append ih

/-- `text` with a CR put before every LF that has none; `closed` says that one precedes it. -/
def convert : (closed : Bool) → List Char → List Char
  | _, [] => []
  | closed, c :: text =>
    (if c = '\n' ∧ closed = false then crLf else [c]) ++ convert (c == '\r') text

theorem toCrLf_eq_convert (text : List Char) : toCrLf text = convert false text := by
  induction text using line_induction with
  | nil => rfl
  | crLf text ih =>
    rw [toCrLf_crLf, ih]
    rfl
  | cons c text h ih =>
    have hnext : convert (c == '\r') text = convert false text := by
      cases text with
      | nil => rfl
      | cons b text =>
        by_cases hc : c = '\r'
        · subst hc
          have hb : b ≠ '\n' := by
            rintro rfl
            exact h ⟨text, rfl⟩
          simp [convert, hb]
        · rw [beq_eq_false_iff_ne.2 hc]
    rw [toCrLf_cons h, ih, convert, hnext]
    simp

theorem convert_append (closed : Bool) (a b : List Char) :
    ∃ closed', convert closed (a ++ b) = convert closed a ++ convert closed' b := by
  induction a generalizing closed with
  | nil => exact ⟨closed, rfl⟩
  | cons c a ih =>
    obtain ⟨closed', h⟩ := ih (c == '\r')
    exact ⟨closed', by rw [List.cons_append, convert, h, convert, List.append_assoc]⟩

/-- A text without bare LF stays as it is behind its first character. -/
theorem convert_of_not_bareBreak (h : ¬ BareBreak (c :: text)) :
    convert (c == '\r') text = text := by
  induction text generalizing c with
  | nil => rfl
  | cons b text ih =>
    rw [bareBreak_cons_cons, not_or] at h
    obtain ⟨hbreak, hrest⟩ := h
    have hb : ¬ (b = '\n' ∧ (c == '\r') = false) := by simpa using hbreak
    rw [convert, if_neg hb, ih hrest]
    rfl

/-- A part of a fragment without bare LF is a part of the converted fragment. -/
theorem infix_toCrLf {part : List Char} (h : ¬ BareBreak part) (hpart : part <:+: text) :
    part <:+: toCrLf text := by
  obtain ⟨front, back, rfl⟩ := hpart
  cases part with
  | nil => exact List.nil_infix
  | cons c part =>
    rw [toCrLf_eq_convert, List.append_assoc]
    obtain ⟨closed, hfront⟩ := convert_append false front (c :: part ++ back)
    obtain ⟨closed', hback⟩ := convert_append closed (c :: part) back
    have hhead : c :: part <:+ convert closed (c :: part) := by
      rw [convert, convert_of_not_bareBreak h]
      split
      · next hc => exact ⟨['\r'], by simp [crLf, hc.1]⟩
      · exact List.suffix_refl _
    rw [hfront, hback]
    exact (hhead.isInfix.trans List.infix_append_left).trans List.infix_append_right

/-! ## The new text -/

theorem toList_joinFragment (content fragment : String) :
    (joinFragment content fragment).toList =
      content.toList ++ addition content.toList fragment.toList := by
  simp only [joinFragment, addition, String.toList_ofList, List.append_assoc]

theorem infix_addition (content fragment : List Char) :
    (if hasCrLf content then toCrLf fragment else fragment) <:+: addition content fragment := by
  unfold addition
  exact List.infix_append _ _ _

theorem toCrLf_ne_nil (h : text ≠ []) : toCrLf text ≠ [] := by
  obtain ⟨c, text, rfl⟩ := List.exists_cons_of_ne_nil h
  rw [toCrLf_eq_convert, convert]
  split <;> simp [crLf]

/-- A fragment that is not empty changes every text. -/
theorem joinFragment_ne {fragment : String} (h : fragment.toList ≠ []) (content : String) :
    joinFragment content fragment ≠ content := by
  intro heq
  have hlist := congrArg String.toList heq
  rw [toList_joinFragment, List.append_right_eq_self] at hlist
  have hadded := infix_addition content.toList fragment.toList
  rw [hlist, List.infix_nil] at hadded
  split at hadded
  · exact toCrLf_ne_nil h hadded
  · exact h hadded

theorem converted_addition {content : List Char} (h : hasCrLf content = true)
    (fragment : List Char) : Converted (addition content fragment) := by
  have hline : ∀ b : Bool, Converted (if b = true then [] else crLf) := by
    intro b
    cases b
    · exact .crLf
    · exact .nil
  simp only [addition, h, if_true]
  refine ((hline _).append (converted_toCrLf fragment)).append ?_
  split
  · exact .crLf
  · exact .nil

/-- A part of a fragment that a text does not contain is found, once the fragment is appended,
exactly if it survives. -/
theorem occursIn_joinFragment_iff {part content fragment : String}
    (hpart : Literal.occursIn part fragment = true)
    (hnew : Literal.occursIn part content = false) :
    Literal.occursIn part (joinFragment content fragment) = true ↔
      Survives part.toList content.toList fragment.toList := by
  rw [Literal.occursIn_iff] at hpart ⊢
  have hnew : ¬ part.toList <:+: content.toList := by
    rw [← Literal.occursIn_iff, hnew]
    exact Bool.false_ne_true
  have hadded := infix_addition content.toList fragment.toList
  rw [toList_joinFragment, List.infix_append_iff]
  constructor
  · rintro (hold | hinside | hboth)
    · exact absurd hold hnew
    · cases hcr : hasCrLf content.toList with
      | false => exact .inl hcr
      | true => exact .inr (.inl ((converted_addition hcr _).not_bareBreak hinside))
    · exact .inr (.inr hboth)
  · rintro (hcr | hbare | hboth)
    · rw [hcr, if_neg Bool.false_ne_true] at hadded
      exact .inr (.inl (hpart.trans hadded))
    · refine .inr (.inl ?_)
      split at hadded
      · exact (infix_toCrLf hbare hpart).trans hadded
      · exact hpart.trans hadded
    · exact .inr (.inr hboth)

end SourcePatch
