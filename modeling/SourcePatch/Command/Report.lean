import SourcePatch.Command.Output
import SourcePatch.Command.Preparation
import SourcePatch.Diff.Basic
import SourcePatch.Report.Run

/-!
# Reports of commands

How the reports of patches are shown by the commands that work on a tree.

## Main definitions

* `applyLines`: the report of one patch that is applied.
* `StatusGroup`, `statusLines`: the reports of patches in four groups.
* `verifyLines`: the report of one patch that is checked.
-/

namespace SourcePatch.Command

/-- A count, and what is counted. -/
def countLine (n : Nat) (what : String) : Printed := resultLine ("  " ++ toString n ++ " " ++ what)

def treeLine (r : Root) : Printed := resultLine ("Tree: " ++ r.path.text)

def blankLine : Printed := resultLine ""

/-- The warnings that come with a report. -/
def reportWarnings (r : PatchReport) : List Printed :=
  match r.result with
  | .ok (.skippedNoOp file .noRuleMatched) =>
    [warning ("no rule matched; assuming already patched file=" ++ file.text)]
  | .ok _ => []
  | .error e => [warning ("patch failed error=" ++ e.message)]

/-! ## Applying -/

/-- What became of a patch. -/
def applyLines (dryRun : Bool) (r : PatchReport) : List Printed :=
  match r.result with
  | .ok (.applied file) =>
    let verb := if dryRun then "Would apply to " else "Applied to "
    [resultLine ("✓ " ++ r.id ++ ": " ++ verb ++ file.text)]
  | .ok result@(.skippedNoOp _ .noRuleMatched) =>
    [resultLine ("⚠ " ++ r.id ++ ": " ++ result.message),
      resultLine "  No rule matched; the file may have changed upstream"]
  | .ok result@(.skippedMissing _) => [resultLine ("⊘ " ++ r.id ++ ": " ++ result.message)]
  | .ok result => [resultLine ("⊙ " ++ r.id ++ ": " ++ result.message)]
  | .error e =>
    problemLine ("✗ " ++ r.id ++ ": Error - " ++ e.message) ::
      if e.isConfiguration then
        [problemLine "  Fix the patch definition; other patches still ran"]
      else []

def changeLines (c : FileChange) : List Printed :=
  [blankLine, resultLine ("--- " ++ c.file.text ++ " (original)"),
    resultLine ("+++ " ++ c.file.text ++ " (patched)"), .result (Diff.render c.before c.after)]

/-- The reports of one set, if there are any. -/
def applySetLines (dryRun : Bool) (name : String) (reports : List PatchReport) : List Printed :=
  if reports.isEmpty then []
  else
    resultLine ("[" ++ name ++ "]") ::
      reports.flatMap (fun r => applyLines dryRun r ++ (r.change.map changeLines).getD []) ++
      [blankLine]

def applySummary (s : Summary) : List Printed :=
  [resultLine "Summary:", countLine s.applied "applied", countLine s.settled "unchanged",
    countLine s.skippedMissing "skipped (missing target)"] ++
    (if s.noMatch > 0 then [countLine s.noMatch "no rule matched"] else []) ++
    [countLine s.failed "failed"]

/-! ## Status -/

inductive StatusGroup
  | applied
  | pending
  | missing
  | failed
  deriving DecidableEq, Repr

namespace StatusGroup

/-- The groups in the order in which they are shown. -/
def all : List StatusGroup := [applied, pending, missing, failed]

def title : StatusGroup → String
  | applied => "✓ APPLIED"
  | pending => "⊙ PENDING"
  | missing => "⊘ MISSING"
  | failed => "✗ FAILED"

/-- The group of a report. -/
def ofReport (r : PatchReport) : StatusGroup :=
  match r.result with
  | .ok (.applied _) => pending
  | .ok (.skippedMissing _) => missing
  | .ok _ => applied
  | .error _ => failed

end StatusGroup

/-- What is shown of a report in its group. -/
def statusDetail (r : PatchReport) : String :=
  match r.result with
  | .ok (.applied file) | .ok (.skippedMissing file) => file.text
  | .ok (.skippedNoOp _ .noRuleMatched) => "no rule matched; unconfirmed"
  | .ok result => result.label
  | .error e => e.message

def groupLines (reports : List PatchReport) (g : StatusGroup) : List Printed :=
  match reports.filter fun r => StatusGroup.ofReport r == g with
  | [] => []
  | members =>
    resultLine (g.title ++ " (" ++ toString members.length ++ " patches)") ::
      members.map (fun r => resultLine ("  - " ++ r.id ++ " (" ++ statusDetail r ++ ")")) ++
      [blankLine]

def statusLines (r : Root) (reports : List PatchReport) : List Printed :=
  [resultLine "Patch Status Report", treeLine r, blankLine] ++
    StatusGroup.all.flatMap (groupLines reports)

/-! ## Verifying -/

/-- Whether the tree reflects a patch. -/
def verifyLines (r : PatchReport) : List Printed :=
  match r.result with
  | .ok (.applied file) =>
    [problemLine ("✗ " ++ r.id ++ ": MISMATCH"), problemLine "  Expected: patch already applied",
      problemLine "  Found: patch not yet applied", problemLine ("  Location: " ++ file.text)]
  | .ok (.skippedMissing file) =>
    [resultLine ("⊘ " ++ r.id ++ ": Skipped (missing " ++ file.text ++ ")")]
  | .ok result@(.skippedNoOp _ .noRuleMatched) =>
    [resultLine ("⚠ " ++ r.id ++ ": Unconfirmed (" ++ result.message ++ ")")]
  | .ok _ => [resultLine ("✓ " ++ r.id ++ ": Verified (already applied)")]
  | .error e =>
    [problemLine ("✗ " ++ r.id ++ ": MISMATCH"), problemLine ("  Error: " ++ e.message)]

/-- The patches that the tree does not reflect, as far as it can be told. -/
def mismatches (s : Summary) : Nat := s.applied + s.failed

def verifySummary (s : Summary) : List Printed :=
  [blankLine, resultLine "Summary:", countLine s.settled "verified",
    countLine s.noMatch "unconfirmed", countLine (mismatches s) "mismatch",
    countLine s.skippedMissing "skipped"]

/-! ## Listing -/

/-- A line for a text that may be missing. -/
def optionalLine (before : String) : Option String → List Printed
  | some text => [resultLine (before ++ text)]
  | none => []

def listPatchLines (p : Patch) : List Printed :=
  resultLine ("  - " ++ p.id ++ " [" ++ p.operation.kind ++ "] " ++ p.file) ::
    optionalLine "      " p.description

def listSetLines (s : LoadedSet) : List Printed :=
  resultLine s.name :: optionalLine "  " s.set.metadata.description ++
    optionalLine "  root marker: " s.set.metadata.rootMarker ++
    s.set.patches.flatMap listPatchLines ++ [blankLine]

end SourcePatch.Command
