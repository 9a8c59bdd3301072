import SourcePatch.Engine.Outcome
import SourcePatch.Text.Newline

/-!
# Plans

A plan says what a patch would do: one write, or nothing. Making a plan reads the target and changes
nothing; committing it makes the write, unless the target has changed since.

## Main definitions

* `planAuthor`, `planTransform`, `planAppend`: the plans of the three kinds of patches.
* `Plan.commit`: carries a plan out.
-/

namespace SourcePatch

/-- A write that a patch asks for, and the text that was there before, as far as it can be shown. -/
structure PlannedWrite where
  edit : Edit
  previous : Option String
  deriving DecidableEq

inductive Plan
  | write (w : PlannedWrite)
  | skip (result : PatchResult)
  deriving DecidableEq

/-- The result of a plan if it can be carried out. -/
def Plan.expectedResult : Plan → PatchResult
  | write w => .applied w.edit.file
  | skip result => result

section

variable (r : Root) (d : Disk) (target : Path)

/-- The path of a target. -/
def resolveTarget : Except EngineError Path := (r.resolve d target).mapError .safety

/-- Writes a whole file, whatever is there. -/
def planAuthor (content : String) : Except EngineError Plan := do
  let file ← resolveTarget r d target
  let current ← (readBytes d file).mapError .edit
  if current = some content.toUTF8 then return .skip (.unchanged file)
  else return .write ⟨⟨file, content, .ofCurrent current⟩, current.map Decoding.lossy⟩

/-- Why rules that find nothing in `text` have nothing to do. -/
def noMatchReason (appliedMarker : Option String) (text : String) : NoOpReason :=
  match appliedMarker with
  | some marker => if Literal.occursIn marker text then .alreadyApplied else .noRuleMatched
  | none => .noRuleMatched

/-- Runs rules over an existing file, unless a second pass would change it again. -/
def planTransform (rules : RuleSet) (appliedMarker : Option String) : Except EngineError Plan := do
  let file ← resolveTarget r d target
  match ← (readText d file).mapError .edit with
  | none => return .skip (.skippedMissing file)
  | some text =>
    if (rules.presentIn text).isEmpty then
      return .skip (.skippedNoOp file (noMatchReason appliedMarker text))
    let changed := rules.apply text
    if changed = text then return .skip (.skippedNoOp file .unchanged)
    (rules.checkIdempotent changed).mapError .rule
    return .write ⟨.ofCurrent file changed (some text), some text⟩

/-- Appends a fragment to an existing file, unless a marker shows that this was done. -/
def planAppend (marker fragment : String) : Except EngineError Plan := do
  let file ← resolveTarget r d target
  match ← (readText d file).mapError .edit with
  | none => return .skip (.skippedMissing file)
  | some text =>
    if Literal.occursIn marker text then return .skip (.skippedPresent file)
    return .write ⟨.ofCurrent file (joinFragment text fragment) (some text), some text⟩

end

/-- Carries out a write in a tree. -/
def Edit.applyIn (e : Edit) (d : Disk) (f : WriteFaults := .none) :
    Except EngineError PatchResult × Disk :=
  match e.apply d f with
  | (.ok (.applied file _), d) => (.ok (.applied file), d)
  | (.ok (.alreadyApplied file), d) => (.ok (.unchanged file), d)
  | (.error error, d) => (.error (.edit error), d)

/-- Carries a plan out. A file that is to be new gets its directories first. -/
def Plan.commit (p : Plan) (r : Root) (d : Disk) (f : WriteFaults := .none) :
    Except EngineError PatchResult × Disk :=
  match p with
  | skip result => (.ok result, d)
  | write w =>
    if w.edit.createsFile then
      match r.ensureParent d w.edit.file with
      | (.ok (), d) => w.edit.applyIn d f
      | (.error e, d) => (.error (.locate e), d)
    else w.edit.applyIn d f

/-- Carries a plan out, if there is one. -/
def commitPlan (plan : Except EngineError Plan) (r : Root) (d : Disk) :
    Except EngineError PatchResult × Disk :=
  match plan with
  | .ok p => p.commit r d
  | .error e => (.error e, d)

/-- Writes a whole file. -/
def authorFile (r : Root) (d : Disk) (target : Path) (content : String) :
    Except EngineError PatchResult × Disk :=
  commitPlan (planAuthor r d target content) r d

/-- Runs rules over an existing file. -/
def transformFile (r : Root) (d : Disk) (target : Path) (rules : List Rule) :
    Except EngineError PatchResult × Disk :=
  let plan := do planTransform r d target (← (RuleSet.compile rules).mapError .rule) none
  commitPlan plan r d

/-- Appends a fragment that carries its marker. -/
def appendGuarded (r : Root) (d : Disk) (target : Path) (marker fragment : String) :
    Except EngineError PatchResult × Disk :=
  commitPlan (planAppend r d target marker fragment) r d

end SourcePatch
