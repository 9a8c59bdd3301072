/-!
# Similar words

The Jaro–Winkler similarity of two words, between 0 and 1. Two characters match if they are equal
and not too far apart; matching characters in another order count half, and a common beginning
raises the score.

The scores are compared, so they are computed in binary floating point, step by step in the order
written here. Numbers that are not negative are ordered like the words that hold them, so the word
is the score.
-/

namespace SourcePatch.Similarity

/-- Looks in `b` from place `j` on, up to place `last`, for an unused `c`. The flags say which
places are used. -/
def useFirst (c : Char) (first last j : Nat) : List (Char × Bool) → Option (List (Char × Bool))
  | [] => none
  | (x, used) :: rest =>
    if last < j then none
    else if first ≤ j ∧ x = c ∧ used = false then some ((x, true) :: rest)
    else (useFirst c first last (j + 1) rest).map ((x, used) :: ·)

/-- The characters of `a` that match, in order, and the places of `b` with those that are
matched. -/
def matching (reach i : Nat) (b : List (Char × Bool)) : List Char → List Char × List (Char × Bool)
  | [] => ([], b)
  | c :: rest =>
    match useFirst c (i - reach) (i + reach) 0 b with
    | some b =>
      let (found, b) := matching reach (i + 1) b rest
      (c :: found, b)
    | none => matching reach (i + 1) b rest

/-- How far apart equal characters may be. -/
def reachOf (m n : Nat) : Nat := max m n / 2 - 1

/-- The Jaro similarity. -/
def jaro (a b : List Char) : Float :=
  if a.isEmpty && b.isEmpty then 1.0
  else
    let (found, used) := matching (reachOf a.length b.length) 0 (b.map fun c => (c, false)) a
    if found.isEmpty then 0.0
    else
      let other := (used.filter (·.2)).map (·.1)
      let misplaced := ((found.zip other).filter fun p => p.1 != p.2).length / 2
      let m := Float.ofNat found.length
      (m / Float.ofNat a.length + m / Float.ofNat b.length
        + (m - Float.ofNat misplaced) / m) / 3.0

def commonPrefix : List Char → List Char → Nat
  | a :: as, b :: bs => if a = b then commonPrefix as bs + 1 else 0
  | _, _ => 0

/-- The Jaro–Winkler similarity. -/
def jaroWinkler (a b : List Char) : Float :=
  let score := jaro a b
  if score > 0.7 then score + 0.1 * Float.ofNat (min 4 (commonPrefix a b)) * (1.0 - score)
  else score

/-- How similar two words are. -/
def score (a b : String) : UInt64 := (jaroWinkler a.toList b.toList).toBits

/-- The score of words that are similar enough to be mistaken for one another. -/
def threshold : UInt64 := (0.8 : Float).toBits

end SourcePatch.Similarity
