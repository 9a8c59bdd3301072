import SourcePatch.Proofs.Json.Reader
import SourcePatch.Report.Run
import Mathlib.Data.List.Forall2

/-!
# Reports are read back from their JSON

A line leaves out the file or the error that it does not have, so what is read for these is optional
as well.

## Main definitions

* `RunReport.ofJson?`: the report that a JSON value stands for.

## Main statements

* `RunReport.ofJson?_toJson`: a report is read back from its JSON value.
* `RunReport.read?_text`: a report is read back from its text.
-/

namespace SourcePatch

/-! ## Reading the fields of an object -/

namespace Json.Value

def bool? : Value → Option Bool
  | .bool b => some b
  | _ => none

def number? : Value → Option Nat
  | .number n => some n
  | _ => none

def string? : Value → Option String
  | .string s => some s
  | _ => none

def array? : Value → Option (List Value)
  | .array items => some items
  | _ => none

/-- The value of a field, if there is one. -/
def field? (v : Value) (key : String) : Option Value :=
  match v with
  | .object fields => fields.lookup key
  | _ => none

/-- The text of a field that may be left out, but has to hold a text if it is there. -/
def optionalString? (v : Value) (key : String) : Option (Option String) :=
  match v.field? key with
  | some w => w.string?.map some
  | none => some none

end Json.Value

open Json (Value)

/-! ## Reading reports -/

def ReportLine.ofJson? (v : Value) : Option ReportLine := do
  some {
    set := ← (← v.field? "set").string?
    id := ← (← v.field? "id").string?
    operation := ← (← v.field? "operation").string?
    status := ← (← v.field? "status").string?
    file := ← v.optionalString? "file"
    error := ← v.optionalString? "error" }

def Summary.ofJson? (v : Value) : Option Summary := do
  some {
    applied := ← (← v.field? "applied").number?
    unchanged := ← (← v.field? "unchanged").number?
    skippedMissing := ← (← v.field? "skipped_missing").number?
    skippedPresent := ← (← v.field? "skipped_present").number?
    skippedNoOp := ← (← v.field? "skipped_noop").number?
    noMatch := ← (← v.field? "no_match").number?
    failed := ← (← v.field? "failed").number? }

/-- The report that a JSON value stands for. -/
def RunReport.ofJson? (v : Value) : Option RunReport := do
  some {
    root := ← (← v.field? "root").string?
    dryRun := ← (← v.field? "dry_run").bool?
    lines := ← (← (← v.field? "patches").array?).mapM ReportLine.ofJson?
    summary := ← Summary.ofJson? (← v.field? "summary") }

/-! ## What is written is read back -/

section Fields

variable (l : ReportLine)

theorem ReportLine.field?_file : l.toJson.field? "file" = l.file.map .string := by
  rcases l with ⟨set, id, operation, status, _ | file, _ | error⟩ <;> rfl

theorem ReportLine.field?_error : l.toJson.field? "error" = l.error.map .string := by
  rcases l with ⟨set, id, operation, status, _ | file, _ | error⟩ <;> rfl

theorem ReportLine.ofJson?_toJson : ofJson? l.toJson = some l := by
  have hfile : l.toJson.optionalString? "file" = some l.file := by
    rw [Value.optionalString?, l.field?_file]
    cases l.file <;> rfl
  have herror : l.toJson.optionalString? "error" = some l.error := by
    rw [Value.optionalString?, l.field?_error]
    cases l.error <;> rfl
  rw [ofJson?, hfile, herror]
  rfl

end Fields

theorem Summary.ofJson?_toJson (s : Summary) : ofJson? s.toJson = some s := rfl

theorem ReportLine.mapM_ofJson?_toJson (lines : List ReportLine) :
    lines.mapM (ofJson? ∘ toJson) = some lines := by
  induction lines with
  | nil => rfl
  | cons l lines ih => simp [ofJson?_toJson, ih]

theorem RunReport.ofJson?_toJson (r : RunReport) : ofJson? r.toJson = some r := by
  have hfield (key : String) : r.toJson.field? key = List.lookup key [("root", .string r.root),
      ("dry_run", .bool r.dryRun), ("patches", .array (r.lines.map ReportLine.toJson)),
      ("summary", r.summary.toJson)] := rfl
  simp [ofJson?, hfield, List.lookup_cons, Value.string?, Value.bool?, Value.array?,
    ReportLine.mapM_ofJson?_toJson, Summary.ofJson?_toJson]

theorem RunReport.read?_text (r : RunReport) : (Json.read? r.text).bind ofJson? = some r := by
  rw [text, Json.read?_pretty, Option.bind_some, ofJson?_toJson]

theorem RunReport.text_injective : Function.Injective text := by
  intro r other h
  have hother := other.read?_text
  rw [← h, r.read?_text] at hother
  exact Option.some.inj hother

/-! ## The file and the error of a line -/

/-- In the JSON of a line, a file or an error stands just if the line has one. -/
def ReportLine.ShownBy (l : ReportLine) (v : Value) : Prop :=
  v.field? "file" = l.file.map .string ∧ v.field? "error" = l.error.map .string

theorem RunReport.shownBy_lines (r : RunReport) :
    List.Forall₂ ReportLine.ShownBy r.lines (r.lines.map ReportLine.toJson) := by
  rw [List.forall₂_map_right_iff, List.forall₂_same]
  exact fun l _ => ⟨l.field?_file, l.field?_error⟩

theorem PatchResult.label_ne_failed (result : PatchResult) : result.label ≠ "failed" := by
  fun_cases PatchResult.label result <;> decide

theorem ReportLine.ofReport_file_iff (set : String) (report : PatchReport) :
    (ofReport set report).file.isSome ↔ (ofReport set report).error = none := by
  unfold ofReport
  cases report.result <;> simp

theorem ReportLine.ofReport_error_iff (set : String) (report : PatchReport) :
    (ofReport set report).error.isSome ↔ (ofReport set report).status = "failed" := by
  unfold ofReport
  cases report.result with
  | error e => simp
  | ok result => simp [result.label_ne_failed]

/-- The text of a report is JSON from which the report is read back, whatever the texts in it and
however many lines it has, and no other report has the same text. A line that a patch is reported
with has either a file or an error, the error if the patch failed. -/
theorem RunReport.text_faithful (r : RunReport) :
    (∃ v items, Json.read? r.text = some v ∧ ofJson? v = some r ∧
      v.field? "patches" = some (.array items) ∧
      List.Forall₂ ReportLine.ShownBy r.lines items) ∧
    (∀ other : RunReport, other.text = r.text ↔ other = r) ∧
    ∀ (set : String) (report : PatchReport),
      ((ReportLine.ofReport set report).file.isSome ↔
        (ReportLine.ofReport set report).error = none) ∧
      ((ReportLine.ofReport set report).error.isSome ↔
        (ReportLine.ofReport set report).status = "failed") := by
  refine ⟨⟨r.toJson, _, Json.read?_pretty _, r.ofJson?_toJson, rfl, r.shownBy_lines⟩,
    fun _ => text_injective.eq_iff, fun set report => ⟨?_, ?_⟩⟩
  · exact ReportLine.ofReport_file_iff set report
  · exact ReportLine.ofReport_error_iff set report

end SourcePatch
