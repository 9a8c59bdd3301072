import SourcePatch.Diff.Script

/-!
# Sliding insertions

A run of inserted elements can trade places with a kept element next to it if its own far end is
that same element. Each insertion is slid up as far as it goes and then down as far as it goes; on
its way it passes deletions and takes in other insertions.

A place in a script is given by the runs behind it and the runs ahead. The runs behind are
reversed: the nearest comes first, and its elements are in reverse order. To turn around is to swap
the two, so that sliding up is sliding down with the ends of the script exchanged.

## Main definitions

* `Diff.slide`: slides an insertion along one kept run.
* `Diff.shift`: slides an insertion as far as it goes.
* `Diff.settle`: slides all insertions of a script.
-/

namespace SourcePatch.Diff

variable {α : Type}

/-- The runs of a script as they are seen from its other end. -/
def reversed (runs : List (Run α)) : List (Run α) := (runs.map Run.reverse).reverse

/-- Puts kept elements in front of runs. -/
def keepBefore (kept : List α) : List (Run α) → List (Run α)
  | .keep l :: runs => .keep (kept ++ l) :: runs
  | runs => runOf .keep kept ++ runs

variable [DecidableEq α]

/-- Slides `block` along the elements behind it: those it passes, the block as it is then, and those
that it does not pass. -/
def slide : (block kept : List α) → List α × List α × List α
  | b :: block, x :: kept =>
    if b = x then
      let (passed, block, kept) := slide (block ++ [b]) kept
      (x :: passed, block, kept)
    else ([], b :: block, x :: kept)
  | block, kept => ([], block, kept)

/-- Slides an insertion ahead as far as it goes: the block, what is then ahead, and what is then
behind. -/
def shift (block : List α) : (ahead behind : List (Run α)) → List α × List (Run α) × List (Run α)
  | .keep kept :: ahead, behind =>
    let (passed, block, rest) := slide block kept
    let behind := keepBefore passed.reverse behind
    match rest with
    | [] => shift block ahead behind
    | rest => (block, .keep rest :: ahead, behind)
  | .delete l :: ahead, behind => shift block ahead (.delete l.reverse :: behind)
  | .insert l :: ahead, behind => shift (block ++ l) ahead behind
  | [], behind => (block, [], behind)

/-- Slides the next `count` insertions that are ahead. -/
def settleFrom : (count : Nat) → (behind ahead : List (Run α)) → List (Run α)
  | 0, behind, ahead => reversed behind ++ ahead
  | count + 1, behind, ahead =>
    let passed := ahead.takeWhile (!·.isInsertion)
    match ahead.dropWhile (!·.isInsertion) with
    | .insert block :: ahead =>
      let (block, behind, ahead) := shift block.reverse (reversed passed ++ behind) ahead
      let (block, ahead, behind) := shift block.reverse ahead behind
      settleFrom count (.insert block.reverse :: behind) ahead
    | _ => reversed behind ++ ahead

/-- Slides all insertions of a script, from the first to the last. -/
def settle (runs : List (Run α)) : List (Run α) := settleFrom runs.length [] runs

end SourcePatch.Diff
