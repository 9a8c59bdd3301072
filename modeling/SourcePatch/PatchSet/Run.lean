import SourcePatch.Engine.Plan
import SourcePatch.PatchSet.Selection
import SourcePatch.Report.Summary

/-!
# Running patch sets

The patches of a set run in order, each on the tree that the ones before it leave. A patch that
fails does not stop the others.

## Main definitions

* `Patch.plan`: what a patch would do.
* `PatchSet.run`: the reports of a run, and the disk after it.
* `PatchSet.status`: the reports of all patches, with nothing changed.
-/

namespace SourcePatch

structure RunOptions where
  /-- Plan, but do not write. -/
  dryRun : Bool
  /-- Keep the text before and after each planned write. -/
  captureChanges : Bool
  /-- Run these patches only; an empty list means all. -/
  only : List String

/-- What a patch would do. -/
def Patch.plan (p : Patch) (r : Root) (d : Disk) : Except EngineError Plan :=
  let target := Path.ofString p.file
  match p.operation with
  | .author content => planAuthor r d target content
  | .transform rules appliedMarker =>
    match RuleSet.compile rules with
    | .error e => .error (.rule e)
    | .ok rules => planTransform r d target rules appliedMarker
  | .appendGuarded marker fragment => planAppend r d target marker fragment

/-- The change that a plan would make. -/
def Plan.change? : Plan → Option FileChange
  | .write w => some ⟨w.edit.file, w.previous.getD "", w.edit.newText⟩
  | .skip _ => none

/-- Runs one patch, with what goes wrong with its temporary file. -/
def Patch.run (p : Patch) (r : Root) (options : RunOptions) (d : Disk) (f : WriteFaults := .none) :
    PatchReport × Disk :=
  match p.plan r d with
  | .error e => (⟨p.id, p.operation.kind, .error e, none⟩, d)
  | .ok plan =>
    let change := if options.captureChanges then plan.change? else none
    if options.dryRun then (⟨p.id, p.operation.kind, .ok plan.expectedResult, change⟩, d)
    else
      let (result, d) := plan.commit r d f
      (⟨p.id, p.operation.kind, result, change⟩, d)

/-- Runs patches in order. With the temporary file of the `n`-th of them, from zero on, goes wrong
what `f n` says. -/
def runPatches (r : Root) (options : RunOptions) (d : Disk) (patches : List Patch)
    (f : Nat → WriteFaults := fun _ => .none) : List PatchReport × Disk :=
  match patches with
  | [] => ([], d)
  | p :: rest =>
    let (report, d) := p.run r options d (f 0)
    let (reports, d) := runPatches r options d rest fun n => f (n + 1)
    (report :: reports, d)

namespace PatchSet

/-- Runs the chosen patches of a set. -/
def run (s : PatchSet) (r : Root) (options : RunOptions) (d : Disk)
    (f : Nat → WriteFaults := fun _ => .none) : List PatchReport × Disk :=
  runPatches r options d (s.patches.filter fun p => Selection.includes options.only p.id) f

/-- What each patch of a set would do. -/
def status (s : PatchSet) (r : Root) (d : Disk) : List PatchReport :=
  (s.run r ⟨true, false, []⟩ d).1

end PatchSet

end SourcePatch
