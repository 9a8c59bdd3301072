import SourcePatch.PatchSet.Basic
import SourcePatch.Text.Similarity

/-!
# Choosing patches by id

A run may be restricted to some patches. An id that no loaded set knows is refused, with a
suggestion if a known id is similar enough.
-/

namespace SourcePatch

structure UnknownPatch where
  id : String
  suggestion : Option String
  deriving DecidableEq, Repr

def UnknownPatch.message (u : UnknownPatch) : String :=
  "unknown patch id '" ++ u.id ++ "'" ++ match u.suggestion with
    | some s => " (did you mean '" ++ s ++ "'?)"
    | none => ""

namespace Selection

/-- The candidate with the highest score, the last one among equals. -/
def best {α : Type} (score : α → UInt64) : List α → Option α
  | [] => none
  | x :: rest =>
    match best score rest with
    | some y => if score y < score x then some x else some y
    | none => some x

/-- The known id that is most similar to `id`, if one is similar enough. -/
def suggest (known : List String) (id : String) : Option String :=
  best (Similarity.score id) (known.filter fun k => Similarity.threshold < Similarity.score id k)

/-- Checks that all ids of `only` are known; the first that is not is reported. -/
def check (known : List String) (only : List String) : Except UnknownPatch Unit :=
  match only.find? (!known.contains ·) with
  | some id => .error ⟨id, suggest known id⟩
  | none => .ok ()

/-- Whether a run restricted to `only` includes a patch; an empty list does not restrict it. -/
def includes (only : List String) (id : String) : Bool := only.isEmpty || only.contains id

end Selection

end SourcePatch
