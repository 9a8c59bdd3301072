import SourcePatch.Diff.Search

/-!
# Edit scripts

A script turns one sequence into another. It is made of runs of elements that are kept, deleted or
inserted.

## Main definitions

* `Diff.Run`: a run of a script.
* `Diff.script`: a shortest script between two sequences.
-/

namespace SourcePatch.Diff

variable {α : Type}

inductive Run (α : Type)
  | keep (elements : List α)
  | delete (elements : List α)
  | insert (elements : List α)
  deriving DecidableEq, Repr

namespace Run

def reverse : Run α → Run α
  | keep l => keep l.reverse
  | delete l => delete l.reverse
  | insert l => insert l.reverse

def isInsertion : Run α → Bool
  | insert _ => true
  | _ => false

end Run

/-- One run, unless there is nothing in it. -/
def runOf (make : List α → Run α) : List α → List (Run α)
  | [] => []
  | l => [make l]

/-- Deletes all of `a` and inserts all of `b`. -/
def replaceRuns (a b : List α) : List (Run α) := runOf .delete a ++ runOf .insert b

variable [DecidableEq α]

/-- Cuts off what two sequences start with in common. -/
def cutPrefix : List α → List α → List α × List α × List α
  | x :: a, y :: b =>
    if x = y then
      let (shared, a, b) := cutPrefix a b
      (x :: shared, a, b)
    else ([], x :: a, y :: b)
  | a, b => ([], a, b)

/-- Cuts off what two sequences end with in common. -/
def cutSuffix (a b : List α) : List α × List α × List α :=
  let (shared, a, b) := cutPrefix a.reverse b.reverse
  (shared.reverse, a.reverse, b.reverse)

/-- A script, made by cutting both sequences in two up to `depth` times. -/
def scriptWithin : (depth : Nat) → List α → List α → List (Run α)
  | 0, a, b => replaceRuns a b
  | depth + 1, a, b =>
    let (front, a, b) := cutPrefix a b
    let (tail, a, b) := cutSuffix a b
    let core :=
      match a, b with
      | [], _ | _, [] => replaceRuns a b
      | a, b =>
        match meetingPoint a b with
        | some (x, y) =>
          scriptWithin depth (a.take x) (b.take y) ++ scriptWithin depth (a.drop x) (b.drop y)
        | none => replaceRuns a b
    runOf .keep front ++ core ++ runOf .keep tail

/-- A shortest script from `a` to `b`. Both parts of a cut are smaller than the whole, so the depth
is enough. -/
def script (a b : List α) : List (Run α) := scriptWithin (a.length + b.length) a b

end SourcePatch.Diff
