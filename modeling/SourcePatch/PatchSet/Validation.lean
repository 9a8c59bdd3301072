import SourcePatch.PatchSet.Basic
import SourcePatch.Path

/-!
# Valid patch sets

A patch set is checked as a whole before any of it runs: ids, paths, and what each operation needs.
Whether a regular expression is well formed is not checked here, so that a faulty one stops its own
patch only.

## Main definitions

* `PatchSet.issues`: all that is wrong with a set, in the order of its patches.
* `PatchSet.validate`: nothing is.
-/

namespace SourcePatch

inductive Issue
  | emptyPatchList
  | rootMarkerNotRelative (marker : String)
  | missingId
  | duplicateId (id : String)
  | missingField (id field : String)
  | fileNotRelative (id file : String)
  /-- A fragment without its marker would be appended again and again. -/
  | markerNotInFragment (id : String)
  deriving DecidableEq, Repr

def Issue.message : Issue → String
  | emptyPatchList => "patch set contains no patches"
  | rootMarkerNotRelative marker =>
    "invalid patch set: root_marker '" ++ marker ++ "' must be a relative path"
  | missingId => "patch missing required field 'id'"
  | duplicateId id => "patch id '" ++ id ++ "' is used more than once"
  | missingField id field => "patch '" ++ id ++ "' missing required field '" ++ field ++ "'"
  | fileNotRelative id file =>
    "patch '" ++ id ++ "' has invalid configuration: file '" ++ file
      ++ "' must be relative to the tree root without '..'"
  | markerNotInFragment id =>
    "patch '" ++ id ++ "' has invalid configuration: fragment must contain its marker"
      ++ " or it would be appended on every run"

/-- The text of several issues, one a line. -/
def issuesMessage (issues : List Issue) : String := "\n".intercalate (issues.map Issue.message)

/-- The first field that a rule lacks. -/
def Rule.missingField? (r : Rule) : Option String :=
  if isBlank r.name then some "rules.name"
  else match r.target with
    | .literal search => if search.isEmpty then some "rules.search" else none
    | .regex pattern => if pattern.isEmpty then some "rules.pattern" else none
    | .block header _ => if isBlank header then some "rules.header" else none

/-- An issue if a condition holds. -/
def issueIf (condition : Bool) (issue : Issue) : List Issue := if condition then [issue] else []

namespace Patch

/-- What is wrong with the id of a patch, where `seen` are the ids of those before. -/
def idIssues (seen : List String) (p : Patch) : List Issue :=
  if isBlank p.id then [.missingId] else issueIf (seen.contains p.id) (.duplicateId p.id)

def fileIssues (p : Patch) : List Issue :=
  if isBlank p.file then [.missingField p.id "file"]
  else issueIf (!(Path.ofString p.file).isTreeRelative) (.fileNotRelative p.id p.file)

def operationIssues (p : Patch) : List Issue :=
  match p.operation with
  | .author _ => []
  | .transform rules appliedMarker =>
    issueIf rules.isEmpty (.missingField p.id "operation.rules")
      ++ issueIf (appliedMarker == some "") (.missingField p.id "operation.applied_marker")
      ++ (rules.filterMap Rule.missingField?).map (.missingField p.id)
  | .appendGuarded marker fragment =>
    issueIf marker.isEmpty (.missingField p.id "operation.marker")
      ++ if isBlank fragment then [.missingField p.id "operation.fragment"]
        else
          issueIf (!marker.isEmpty && !Literal.occursIn marker fragment)
            (.markerNotInFragment p.id)

def issues (seen : List String) (p : Patch) : List Issue :=
  p.idIssues seen ++ p.fileIssues ++ p.operationIssues

end Patch

namespace PatchSet

def patchIssues (seen : List String) : List Patch → List Issue
  | [] => []
  | p :: rest => p.issues seen ++ patchIssues (p.id :: seen) rest

/-- Whether the marker stays below the root of the tree. -/
def rootMarkerIssues (m : Metadata) : List Issue :=
  match m.rootMarker with
  | some marker =>
    issueIf (!(Path.ofString marker).isTreeRelative) (.rootMarkerNotRelative marker)
  | none => []

/-- All that is wrong with a set. -/
def issues (s : PatchSet) : List Issue :=
  issueIf s.patches.isEmpty .emptyPatchList ++ rootMarkerIssues s.metadata
    ++ patchIssues [] s.patches

def validate (s : PatchSet) : Except (List Issue) Unit :=
  if s.issues.isEmpty then .ok () else .error s.issues

end PatchSet

end SourcePatch
