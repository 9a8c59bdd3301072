import SourcePatch.Edit.Basic
import SourcePatch.Rule.Set
import SourcePatch.Tree.Locate

/-!
# Outcomes of patches

## Main definitions

* `PatchResult`: what became of a patch that did not fail.
* `EngineError`: why a patch failed.
-/

namespace SourcePatch

/-- Why rules change nothing. -/
inductive NoOpReason
  /-- No rule finds anything, and the patch's marker shows that it was applied before. -/
  | alreadyApplied
  /-- No rule finds anything, and nothing shows that the patch was applied. -/
  | noRuleMatched
  /-- The rules find something, but give back the same text. -/
  | unchanged
  deriving DecidableEq, Repr

inductive PatchResult
  | applied (file : Path)
  | unchanged (file : Path)
  | skippedMissing (file : Path)
  | skippedPresent (file : Path)
  | skippedNoOp (file : Path) (reason : NoOpReason)
  deriving DecidableEq, Repr

namespace PatchResult

def file : PatchResult → Path
  | applied file | unchanged file | skippedMissing file | skippedPresent file
  | skippedNoOp file _ => file

/-- The name of a result in reports. -/
def label : PatchResult → String
  | applied _ => "applied"
  | unchanged _ => "unchanged"
  | skippedMissing _ => "skipped-missing"
  | skippedPresent _ => "skipped-present"
  | skippedNoOp _ .noRuleMatched => "no-match"
  | skippedNoOp _ _ => "skipped-noop"

/-- Whether the tree reflected the patch already. -/
def isSettled : PatchResult → Bool
  | unchanged _ | skippedPresent _ | skippedNoOp .. => true
  | applied _ | skippedMissing _ => false

def message : PatchResult → String
  | applied file => "Applied to " ++ file.text
  | unchanged file => "Unchanged " ++ file.text
  | skippedMissing file => "Skipped (missing target): " ++ file.text
  | skippedPresent file => "Skipped (marker present): " ++ file.text
  | skippedNoOp file .alreadyApplied => "Already applied to " ++ file.text
  | skippedNoOp file .noRuleMatched => "No rule matched in " ++ file.text
  | skippedNoOp file .unchanged => "Skipped (no change): " ++ file.text

end PatchResult

/-- Why a patch failed. -/
inductive EngineError
  | rule (e : RuleError)
  | safety (e : SafetyError)
  | locate (e : LocateError)
  | edit (e : EditError)
  deriving DecidableEq

namespace EngineError

def message : EngineError → String
  | rule e => "rule configuration error: " ++ e.message
  | safety e => e.message
  | locate e => e.message
  | edit e => e.message

/-- Whether the fault lies in the patch and not in the tree. -/
def isConfiguration : EngineError → Bool
  | rule _ | safety _ => true
  | locate _ | edit _ => false

end EngineError

end SourcePatch
