import SourcePatch.Json.Value
import SourcePatch.Report.Summary

/-!
# The report of a run

A run can be reported as JSON, with one line for each patch.
-/

namespace SourcePatch

structure ReportLine where
  set : String
  id : String
  operation : String
  status : String
  file : Option String
  error : Option String
  deriving DecidableEq, Repr

/-- The line of a report: a file if the patch did not fail, and an error if it did. -/
def ReportLine.ofReport (set : String) (r : PatchReport) : ReportLine :=
  match r.result with
  | .ok result => ⟨set, r.id, r.kind, result.label, some result.file.text, none⟩
  | .error e => ⟨set, r.id, r.kind, "failed", none, some e.message⟩

structure RunReport where
  root : String
  dryRun : Bool
  lines : List ReportLine
  summary : Summary
  deriving DecidableEq, Repr

open Json (Value)

/-- A field that is left out if it has no value. -/
def optionalField (key : String) : Option String → List (String × Value)
  | some s => [(key, .string s)]
  | none => []

def ReportLine.toJson (l : ReportLine) : Value :=
  .object ([("set", .string l.set), ("id", .string l.id), ("operation", .string l.operation),
    ("status", .string l.status)] ++ optionalField "file" l.file ++ optionalField "error" l.error)

def Summary.toJson (s : Summary) : Value :=
  .object [("applied", .number s.applied), ("unchanged", .number s.unchanged),
    ("skipped_missing", .number s.skippedMissing), ("skipped_present", .number s.skippedPresent),
    ("skipped_noop", .number s.skippedNoOp), ("no_match", .number s.noMatch),
    ("failed", .number s.failed)]

/-- A report as JSON. -/
def RunReport.toJson (r : RunReport) : Value :=
  .object [("root", .string r.root), ("dry_run", .bool r.dryRun),
    ("patches", .array (r.lines.map ReportLine.toJson)), ("summary", r.summary.toJson)]

/-- The text of a report. -/
def RunReport.text (r : RunReport) : String := r.toJson.pretty

end SourcePatch
