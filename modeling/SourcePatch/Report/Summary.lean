import SourcePatch.Engine.Outcome

/-!
# Reports and tallies

## Main definitions

* `PatchReport`: what became of one patch in a run.
* `Summary`: how many patches came to each outcome.
-/

namespace SourcePatch

/-- The text of a file before and after a planned write; empty before if there was no file. -/
structure FileChange where
  file : Path
  before : String
  after : String
  deriving DecidableEq, Repr

structure PatchReport where
  id : String
  kind : String
  result : Except EngineError PatchResult
  change : Option FileChange

structure Summary where
  applied : Nat
  unchanged : Nat
  skippedMissing : Nat
  skippedPresent : Nat
  skippedNoOp : Nat
  /-- Rules that find nothing to do, where nothing shows that this was done. -/
  noMatch : Nat
  failed : Nat
  deriving DecidableEq, Repr

namespace Summary

def empty : Summary := ⟨0, 0, 0, 0, 0, 0, 0⟩

/-- Counts one outcome. -/
def record (s : Summary) : Except EngineError PatchResult → Summary
  | .error _ => { s with failed := s.failed + 1 }
  | .ok (.applied _) => { s with applied := s.applied + 1 }
  | .ok (.unchanged _) => { s with unchanged := s.unchanged + 1 }
  | .ok (.skippedMissing _) => { s with skippedMissing := s.skippedMissing + 1 }
  | .ok (.skippedPresent _) => { s with skippedPresent := s.skippedPresent + 1 }
  | .ok (.skippedNoOp _ .noRuleMatched) => { s with noMatch := s.noMatch + 1 }
  | .ok (.skippedNoOp _ _) => { s with skippedNoOp := s.skippedNoOp + 1 }

def ofReports (reports : List PatchReport) : Summary :=
  reports.foldl (fun s r => s.record r.result) empty

def total (s : Summary) : Nat :=
  s.applied + s.unchanged + s.skippedMissing + s.skippedPresent + s.skippedNoOp + s.noMatch
    + s.failed

/-- The patches that the tree is known to reflect. -/
def settled (s : Summary) : Nat := s.unchanged + s.skippedPresent + s.skippedNoOp

/-- The exit code of a run: 1 if any patch failed. -/
def exitCode (s : Summary) : Nat := if 0 < s.failed then 1 else 0

end Summary

end SourcePatch
