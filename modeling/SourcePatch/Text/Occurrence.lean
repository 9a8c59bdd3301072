/-!
# Occurrences and their replacement

A search reports, for every place of a text, the occurrence that starts there, if there is one. A
text of `n` characters has `n + 1` places. Replacement takes the occurrences from left to right:
the next one starts no earlier than the last one stops, and an empty occurrence right behind
another is passed over.

## Main definitions

* `Occurrence`: how far an occurrence reaches, and what else is known of it.
* `splice`: a text with its occurrences replaced.
-/

namespace SourcePatch

/-- An occurrence of `length` characters. -/
structure Occurrence (α : Type) where
  length : Nat
  detail : α
  deriving Repr

/-- Replaces occurrences. The next `skip` characters belong to the occurrence before; `closed` says
that it ends behind them, so that an empty one has no room there. -/
def splice {α : Type} (render : α → List Char) :
    Nat → Bool → List Char → List (Option (Occurrence α)) → List Char
  | _, _, text, [] => text
  | _, closed, [], found :: _ =>
    match found with
    | some o => if closed then [] else render o.detail
    | none => []
  | skip + 1, closed, _ :: text, _ :: later => splice render skip closed text later
  | 0, closed, c :: text, found :: later =>
    match found with
    | none => c :: splice render 0 false text later
    | some o =>
      match o.length with
      | 0 => (if closed then [] else render o.detail) ++ c :: splice render 0 false text later
      | k + 1 => render o.detail ++ splice render k true text later

/-- The text in which every occurrence of `found` is rendered instead. -/
def replaceOccurrences {α : Type} (render : α → List Char) (text : List Char)
    (found : List (Option (Occurrence α))) : List Char :=
  splice render 0 false text found

/-- Whether there is an occurrence at all. -/
def anyOccurrence {α : Type} (found : List (Option (Occurrence α))) : Bool :=
  found.any Option.isSome

theorem splice_of_none {α : Type} (render : α → List Char) (closed : Bool) (text : List Char)
    {found : List (Option (Occurrence α))} (h : anyOccurrence found = false) :
    splice render 0 closed text found = text := by
  induction found generalizing text closed with
  | nil => cases text <;> simp [splice]
  | cons o later ih =>
    simp only [anyOccurrence, List.any_cons, Bool.or_eq_false_iff] at h
    obtain ⟨ho, hl⟩ := h
    cases o with
    | some _ => simp at ho
    | none =>
      cases text with
      | nil => simp [splice]
      | cons c text => simp [splice, ih false text hl]

/-- A text without occurrences stays as it is. -/
theorem replaceOccurrences_of_none {α : Type} (render : α → List Char) (text : List Char)
    {found : List (Option (Occurrence α))} (h : anyOccurrence found = false) :
    replaceOccurrences render text found = text :=
  splice_of_none render false text h

end SourcePatch
