import SourcePatch.Text.Occurrence

/-!
# Literal search

A literal occurs wherever the text goes on with exactly its characters.
-/

namespace SourcePatch.Literal

/-- The places of `text` at which `search` occurs. -/
def occurrences (search : List Char) : List Char → List (Option (Occurrence Unit))
  | [] => [if search.isEmpty then some ⟨0, ()⟩ else none]
  | c :: text =>
    (if search.isPrefixOf (c :: text) then some ⟨search.length, ()⟩ else none) ::
      occurrences search text

/-- Whether `text` contains `search`. -/
def occursIn (search text : String) : Bool :=
  anyOccurrence (occurrences search.toList text.toList)

/-- `text` with every occurrence of `search` replaced, from left to right. -/
def replaceAll (search replacement : List Char) (text : List Char) : List Char :=
  replaceOccurrences (fun _ => replacement) text (occurrences search text)

end SourcePatch.Literal
