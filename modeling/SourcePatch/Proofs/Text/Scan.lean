import Mathlib.Data.List.Infix
import SourcePatch.Text.Occurrence

/-!
# Scanning a text for spans

A scan looks for the first span of a text, puts something in its place and goes on behind it. A
search that looks at each place of a text, and finds there just what is a span, comes to the same.

What counts as a span may hang on what follows it, so it is a relation between a span and the text
behind.

## Main definitions

* `Scan`: a text, its spans from left to right, and the text in which they are replaced.
* `Finds`: a search finds a span wherever one starts.

## Main statements

* `Scan.unique`: a scan has one result.
* `Finds.scan`: the replacement of what is found is a scan.
* `Scan.size_lt`: a text shrinks if its spans take more bytes than what is put in their place.
-/

namespace SourcePatch

variable {At : List Char → List Char → Prop} {replacement text : List Char}

/-- A span starts at the front of `text`. -/
def Starts (At : List Char → List Char → Prop) (text : List Char) : Prop :=
  ∃ span rest, text = span ++ rest ∧ At span rest

/-- The spans of a text are replaced from left to right. Each is the first one from the place where
the one before ends, and all that stands outside of them is kept. -/
inductive Scan (At : List Char → List Char → Prop) (replacement : List Char) :
    List Char → List (List Char) → List Char → Prop
  | done {text : List Char} (hnone : ∀ rest, rest <:+ text → ¬ Starts At rest) :
    Scan At replacement text [] text
  | found {before span rest out : List Char} {spans : List (List Char)} (hspan : At span rest)
    (hfirst : ∀ part, part <:+ before → part ≠ [] → ¬ Starts At (part ++ (span ++ rest)))
    (later : Scan At replacement rest spans out) :
    Scan At replacement (before ++ (span ++ rest)) (span :: spans) (before ++ (replacement ++ out))

namespace Scan

variable {spans spans' : List (List Char)} {out out' : List Char}

/-- A character at which no span starts is passed over. -/
theorem cons {c : Char} (hc : ¬ Starts At (c :: text)) (h : Scan At replacement text spans out) :
    Scan At replacement (c :: text) spans (c :: out) := by
  cases h with
  | done hnone =>
    refine .done fun rest hrest => ?_
    obtain rfl | hrest := List.suffix_cons_iff.1 hrest
    · exact hc
    · exact hnone rest hrest
  | @found before span rest out spans hspan hfirst later =>
    rw [← List.cons_append, ← List.cons_append]
    refine .found hspan (fun part hpart hne => ?_) later
    obtain rfl | hpart := List.suffix_cons_iff.1 hpart
    · exact hc
    · exact hfirst part hpart hne

/-- One text is cut in two ways at its first span: the first way does not come later. -/
theorem eq_nil_of_first {before span rest part span' rest' : List Char}
    (hfirst : ∀ part, part <:+ before → part ≠ [] → ¬ Starts At (part ++ (span ++ rest)))
    (hspan' : At span' rest') (hpart : part <:+ before)
    (heq : part ++ (span ++ rest) = span' ++ rest') : part = [] := by
  by_contra hne
  exact hfirst part hpart hne ⟨span', rest', heq, hspan'⟩

/-- A scan has one result, if the span that starts at a place is unique. -/
theorem unique (hAt : ∀ span rest span' rest', At span rest → At span' rest' →
      span ++ rest = span' ++ rest' → span = span')
    (h : Scan At replacement text spans out) (h' : Scan At replacement text spans' out') :
    spans = spans' ∧ out = out' := by
  generalize heq : text = text' at h'
  induction h generalizing text' spans' out' with
  | done hnone =>
    cases h' with
    | done _ => exact ⟨rfl, heq⟩
    | found hspan' _ _ =>
      subst heq
      exact absurd ⟨_, _, rfl, hspan'⟩ (hnone _ (List.suffix_append _ _))
  | @found before span rest out spans hspan hfirst later ih =>
    cases h' with
    | done hnone' =>
      subst heq
      exact absurd ⟨_, _, rfl, hspan⟩ (hnone' _ (List.suffix_append _ _))
    | @found before' span' rest' out' spans' hspan' hfirst' later' =>
      obtain ⟨hbefore, htext⟩ : before = before' ∧ span ++ rest = span' ++ rest' := by
        obtain ⟨part, hbefore, htext⟩ | ⟨part, hbefore, htext⟩ := List.append_eq_append_iff.1 heq
        · obtain rfl := eq_nil_of_first hfirst' hspan ⟨before, hbefore.symm⟩ htext.symm
          exact ⟨by simp [hbefore], htext⟩
        · obtain rfl := eq_nil_of_first hfirst hspan' ⟨before', hbefore.symm⟩ htext.symm
          exact ⟨by simp [hbefore], htext.symm⟩
      obtain rfl := hAt _ _ _ _ hspan hspan' htext
      obtain ⟨rfl, rfl⟩ := ih _ (List.append_cancel_left htext) later'
      exact ⟨rfl, by rw [hbefore]⟩

theorem ne_nil_iff (h : Scan At replacement text spans out) :
    spans ≠ [] ↔ ∃ rest, rest <:+ text ∧ Starts At rest := by
  cases h with
  | done hnone => simpa using hnone
  | found hspan _ _ => simpa using ⟨_, List.suffix_append _ _, _, _, rfl, hspan⟩

/-- Where spans are replaced that take more bytes than the replacement, bytes are lost. -/
theorem size_lt
    (hAt : ∀ span rest, At span rest →
      (String.ofList replacement).utf8ByteSize < (String.ofList span).utf8ByteSize)
    (h : Scan At replacement text spans out) :
    (String.ofList out).utf8ByteSize ≤ (String.ofList text).utf8ByteSize ∧
      (spans ≠ [] → (String.ofList out).utf8ByteSize < (String.ofList text).utf8ByteSize) := by
  induction h with
  | done _ => exact ⟨Nat.le_refl _, fun hne => absurd rfl hne⟩
  | found hspan _ _ ih =>
    have hlt := hAt _ _ hspan
    simp only [String.ofList_append, String.utf8ByteSize_append]
    exact ⟨by omega, fun _ => by omega⟩

end Scan

/-! ## Searches -/

/-- `find` finds at the front of a text just the span that starts there. -/
structure Finds {α : Type} (At : List Char → List Char → Prop)
    (find : List Char → Option (Occurrence α)) : Prop where
  starts : ∀ {text o}, find text = some o → Starts At text
  find_append : ∀ {span rest}, At span rest →
    ∃ detail, find (span ++ rest) = some ⟨span.length, detail⟩
  ne_nil : ∀ {span rest}, At span rest → span ≠ []

namespace Finds

variable {α : Type} {find : List Char → Option (Occurrence α)} (h : Finds At find)
include h

theorem find_eq_none (htext : ¬ Starts At text) : find text = none :=
  Option.eq_none_iff_forall_not_mem.2 fun _ ho => htext (h.starts ho)

theorem anyOccurrence_iff :
    anyOccurrence (text.tails.map find) = true ↔ ∃ rest, rest <:+ text ∧ Starts At rest := by
  simp only [anyOccurrence, List.any_map, List.any_eq_true, List.mem_tails, Function.comp_apply]
  refine exists_congr fun rest => and_congr_right fun _ => ?_
  rw [Option.isSome_iff_exists]
  constructor
  · rintro ⟨o, ho⟩
    exact h.starts ho
  · rintro ⟨span, rest, rfl, hspan⟩
    exact (h.find_append hspan).imp' _ fun _ hfind => hfind

/-- Nothing is found in an empty text, since no span is empty. -/
theorem not_anyOccurrence_nil : anyOccurrence (([] : List Char).tails.map find) = false := by
  rw [Bool.eq_false_iff, Ne, h.anyOccurrence_iff]
  rintro ⟨_, hsuffix, span, rest, rfl, hspan⟩
  rw [List.suffix_nil, List.append_eq_nil_iff] at hsuffix
  exact h.ne_nil hspan hsuffix.1

section

variable (render : α → List Char)

omit h in
theorem splice_skip (closed : Bool) (skipped text : List Char) :
    splice render skipped.length closed (skipped ++ text) ((skipped ++ text).tails.map find) =
      splice render 0 closed text (text.tails.map find) := by
  induction skipped with
  | nil => rfl
  | cons c skipped ih => exact ih

/-- Behind a span it does not matter that one ended there, since none is empty. -/
theorem splice_closed (text : List Char) :
    splice render 0 true text (text.tails.map find) =
      splice render 0 false text (text.tails.map find) := by
  cases hfind : find text with
  | none => cases text <;> simp [splice, hfind]
  | some o =>
    obtain ⟨span, rest, rfl, hspan⟩ := h.starts hfind
    obtain ⟨detail, hfound⟩ := h.find_append hspan
    obtain ⟨c, span, rfl⟩ := List.exists_cons_of_ne_nil (h.ne_nil hspan)
    rw [List.cons_append] at hfound ⊢
    simp [splice, hfound]

theorem replace_cons {c : Char} (hc : ¬ Starts At (c :: text)) :
    replaceOccurrences render (c :: text) ((c :: text).tails.map find) =
      c :: replaceOccurrences render text (text.tails.map find) := by
  rw [replaceOccurrences, List.tails, List.map_cons, h.find_eq_none hc]
  rfl

theorem replace_append {span rest : List Char} (hspan : At span rest) :
    ∃ detail, replaceOccurrences render (span ++ rest) ((span ++ rest).tails.map find) =
      render detail ++ replaceOccurrences render rest (rest.tails.map find) := by
  obtain ⟨detail, hfind⟩ := h.find_append hspan
  obtain ⟨c, span, rfl⟩ := List.exists_cons_of_ne_nil (h.ne_nil hspan)
  refine ⟨detail, ?_⟩
  rw [replaceOccurrences, List.cons_append, List.tails, List.map_cons, ← List.cons_append, hfind,
    List.cons_append, List.length_cons, splice]
  dsimp only
  rw [splice_skip, h.splice_closed render]
  rfl

end

/-- What a search finds is replaced as by a scan. -/
theorem scan {render : α → List Char} (hrender : ∀ detail, render detail = replacement)
    (text : List Char) :
    ∃ spans, Scan At replacement text spans
        (replaceOccurrences render text (text.tails.map find)) ∧
      (anyOccurrence (text.tails.map find) = true ↔ spans ≠ []) := by
  suffices hscan : ∃ spans, Scan At replacement text spans
      (replaceOccurrences render text (text.tails.map find)) by
    obtain ⟨spans, hscan⟩ := hscan
    refine ⟨spans, hscan, ?_⟩
    rw [h.anyOccurrence_iff]
    exact hscan.ne_nil_iff.symm
  induction hn : text.length using Nat.strongRecOn generalizing text with
  | _ n ih =>
    subst hn
    by_cases hstarts : Starts At text
    · obtain ⟨span, rest, rfl, hspan⟩ := hstarts
      have hlength := List.length_pos_iff.2 (h.ne_nil hspan)
      obtain ⟨spans, hscan⟩ := ih rest.length (by simp; omega) rest rfl
      obtain ⟨detail, heq⟩ := h.replace_append render hspan
      have hfront : ∀ part, part <:+ [] → part ≠ [] → ¬ Starts At (part ++ (span ++ rest)) :=
        fun part hpart hne => absurd (List.suffix_nil.1 hpart) hne
      rw [heq, hrender]
      exact ⟨span :: spans, .found hspan hfront hscan⟩
    · cases text with
      | nil =>
        rw [replaceOccurrences_of_none]
        · exact ⟨[], .done (by simpa using hstarts)⟩
        · simp [anyOccurrence, h.find_eq_none hstarts]
      | cons c text =>
        obtain ⟨spans, hscan⟩ := ih text.length (by simp) text rfl
        rw [h.replace_cons render hstarts]
        exact ⟨spans, hscan.cons hstarts⟩

end Finds

end SourcePatch
