/-!
# Where two halves of an edit meet

One sequence is turned into another by deleting and inserting elements. With the elements of the
first sequence counted along `x` and those of the second along `y`, an edit is a way from one corner
of a grid to the other: a step along `x` deletes, a step along `y` inserts, and a step along both
keeps an element that the two sequences share.

A shortest way is looked for from both corners at once. After `d` steps that are no diagonal ones,
each search knows how far it can come on every diagonal `x - y = k` with `k = d, d - 2, …, -d`; it
keeps these as the list of the furthest `x`, from the highest diagonal down.

## Main definitions

* `Diff.advance`: one more step of a search.
* `Diff.meetingPoint`: a point through which a shortest way passes.
-/

namespace SourcePatch.Diff

variable {α : Type} [DecidableEq α]

/-- How many elements the sequences share from `x` and `y` on. -/
def sharedFrom (a b : Array α) (x y : Nat) : Nat :=
  if h : x < a.size ∧ y < b.size then
    if a[x] = b[y] then sharedFrom a b (x + 1) (y + 1) + 1 else 0
  else 0
termination_by a.size - x

/-- A diagonal is entered from above by an insertion, and from below by a deletion. -/
def startsBelow (above : Nat) : List Nat → List Nat
  | [] => [above]
  | below :: rest => max above (below + 1) :: startsBelow below rest

/-- Where a search starts on each diagonal, given how far it came one step earlier. -/
def starts : List Nat → List Nat
  | [] => [0]
  | top :: rest => (top + 1) :: startsBelow top rest

/-- Where a search starts on a diagonal and where it stops. -/
structure Stretch where
  startX : Nat
  startY : Nat
  stopX : Nat
  stopY : Nat

/-- Follows each diagonal as far as the sequences agree; `d` is the number of the step. -/
def advance (a b : Array α) (d : Nat) (furthest : List Nat) : List Stretch :=
  (starts furthest).mapIdx fun i x =>
    let y := x + 2 * i - d
    let n := sharedFrom a b x y
    ⟨x, y, x + n, y + n⟩

/-- How far the other search came on the diagonal that the `i`-th one of step `d` is for it; `none`
if it did not get to that diagonal. `shift` is the diagonal of the far corner. -/
def opposite (shift : Int) (d i : Nat) (other : Array Nat) : Option Nat :=
  let twice := (other.size : Int) - 1 + d - shift
  let j := twice / 2 - i
  if twice % 2 = 0 ∧ 0 ≤ j then other[j.toNat]? else none

/-- The first diagonal on which a search has come as far as the other one. -/
def firstMeeting (size : Nat) (shift : Int) (d : Nat) (ways : List Stretch) (other : Array Nat) :
    Option Stretch :=
  (ways.zipIdx.find? fun (s, i) =>
    match opposite shift d i other with
    | some x => size ≤ s.stopX + x
    | none => false).map Prod.fst

/-- Searches from both corners, for up to `steps` more steps; `a'` and `b'` are the sequences read
backwards. -/
def searchFrom (a b a' b' : Array α) : (steps : Nat) → (d : Nat) → (forward backward : List Nat) →
    Option (Nat × Nat)
  | 0, _, _, _ => none
  | steps + 1, d, forward, backward =>
    let shift : Int := a.size - b.size
    let ahead := advance a b d forward
    match firstMeeting a.size shift d ahead backward.toArray with
    | some s => some (s.startX, s.startY)
    | none =>
      let back := advance a' b' d backward
      let forward := ahead.map (·.stopX)
      match firstMeeting a.size shift d back forward.toArray with
      | some s => some (a.size - s.stopX, b.size - s.stopY)
      | none => searchFrom a b a' b' steps (d + 1) forward (back.map (·.stopX))

/-- A point through which a shortest way from corner to corner passes. -/
def meetingPoint (a b : List α) : Option (Nat × Nat) :=
  searchFrom a.toArray b.toArray a.reverse.toArray b.reverse.toArray
    ((a.length + b.length + 1) / 2 + 1) 0 [] []

end SourcePatch.Diff
