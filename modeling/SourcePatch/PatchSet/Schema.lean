import SourcePatch.PatchSet.Basic
import SourcePatch.Text.Quoted
import SourcePatch.Toml.Value

/-!
# From documents to patch sets

A record may be written as a table or as an array of its fields in order. Fields are read in the
order in which they are written, and the first fault is reported; what is missing comes last. Keys
that a record does not know are ignored.

An operation and a rule are records of several kinds, told apart by their `type`, which comes first
in an array.

## Main definitions

* `Mismatch`: why a document is no patch set.
* `PatchSet.ofEntries`.
-/

namespace SourcePatch

open Toml (Value Entries)

/-- Why a document is no patch set. -/
inductive Mismatch
  | wrongType (found expected : String)
  | wrongValue (found expected : String)
  | wrongLength (length : Nat) (expected : String)
  | missingField (field : String)
  | unknownVariant (name : String) (known : List String)
  deriving DecidableEq, Repr

def Mismatch.message : Mismatch → String
  | wrongType found expected => "invalid type: " ++ found ++ ", expected " ++ expected
  | wrongValue found expected => "invalid value: " ++ found ++ ", expected " ++ expected
  | wrongLength length expected => "invalid length " ++ toString length ++ ", expected " ++ expected
  | missingField field => "missing field `" ++ field ++ "`"
  | unknownVariant name known =>
    "unknown variant `" ++ name ++ "`, expected one of "
      ++ ", ".intercalate (known.map fun k => "`" ++ k ++ "`")

namespace Schema

/-! ## Plain values -/

def describeNumber : Toml.Number → String
  | .finite negative x => (if negative then "-" else "") ++ x.shortest.positional
  | .infinity negative => if negative then "-inf" else "inf"
  | .nan => "NaN"

/-- What a value is called in messages. -/
def describe : Value → String
  | .string s => "string " ++ Quoted.quote s
  | .integer n => "integer `" ++ toString n ++ "`"
  | .float x => "floating point `" ++ describeNumber x ++ "`"
  | .boolean b => "boolean `" ++ toString b ++ "`"
  | .datetime => "map"
  | .array .. => "sequence"
  | .table .. => "map"

def string : Value → Except Mismatch String
  | .string s => .ok s
  | v => .error (.wrongType (describe v) "a string")

def items : Value → Except Mismatch (List Value)
  | .array _ items => .ok items
  | v => .error (.wrongType (describe v) "a sequence")

def natural : Value → Except Mismatch Nat
  | .integer n =>
    if 0 ≤ n then .ok n.toNat else .error (.wrongValue (describe (.integer n)) "usize")
  | v => .error (.wrongType (describe v) "usize")

/-! ## Records -/

/-- What a record is called in messages, and its fields in order. -/
structure Record where
  name : String
  fields : List String

/-- The fields of a record as written: by their names, or by their places. -/
structure Fields where
  byPlace : Bool
  entries : Entries

/-- The fields of a record. A date is a table without any of them. -/
def Record.fieldsOf (r : Record) : Value → Except Mismatch Fields
  | .table _ es => .ok ⟨false, es⟩
  | .datetime => .ok ⟨false, []⟩
  | .array _ items => .ok ⟨true, r.fields.zip items⟩
  | v => .error (.wrongType (describe v) r.name)

def elementCount (n : Nat) : String := toString n ++ if n = 1 then " element" else " elements"

/-- The fault that a field is missing; in an array that is a fault of its length. -/
def Record.missing (r : Record) (byPlace : Bool) (field : String) : Mismatch :=
  if byPlace then
    .wrongLength (r.fields.idxOf field) (r.name ++ " with " ++ elementCount r.fields.length)
  else .missingField field

/-- A field that must be there. -/
def Record.require {α : Type} (r : Record) (byPlace : Bool) (field : String) :
    Option α → Except Mismatch α
  | some a => .ok a
  | none => .error (r.missing byPlace field)

/-! ## Records of several kinds -/

/-- The kind of a record, and the record without it. -/
def kindOf (name : String) : Value → Except Mismatch (Value × Value)
  | .table origin es =>
    match es.lookup "type" with
    | some kind => .ok (kind, .table origin (es.filter (·.1 != "type")))
    | none => .error (.missingField "type")
  | .array _ (kind :: rest) => .ok (kind, .array false rest)
  | .array _ [] | .datetime => .error (.missingField "type")
  | v => .error (.wrongType (describe v) ("internally tagged enum " ++ name))

/-- The name of a kind. -/
def kindName : Value → Except Mismatch String
  | .string s => .ok s
  | v => .error (.wrongType (describe v) "variant identifier")

/-- Checks that an array has no items behind the fields of a record. -/
def Record.checkLength (r : Record) : Value → Except Mismatch Unit
  | .array _ items =>
    if r.fields.length < items.length then
      .error (.wrongLength items.length (elementCount r.fields.length ++ " in sequence"))
    else .ok ()
  | _ => .ok ()

/-! ## Rules -/

def literalRecord : Record :=
  ⟨"struct variant RuleDefinition::Literal", ["name", "search", "replace"]⟩

def regexRecord : Record := ⟨"struct variant RuleDefinition::Regex", ["name", "pattern", "replace"]⟩

def blockRecord : Record :=
  ⟨"struct variant RuleDefinition::Block", ["name", "header", "indent", "replace"]⟩

/-- The fields of a rule that have been read. -/
structure RuleFields where
  name : Option String
  /-- What the rule looks for, under whatever name its kind has for it. -/
  target : Option String
  indent : Option Nat
  replacement : Option String

/-- Reads one field of a rule whose target has the name `targetField`. -/
def ruleField (targetField : String) (hasIndent : Bool) (f : RuleFields) (e : String × Value) :
    Except Mismatch RuleFields := do
  if e.1 = "name" then return { f with name := some (← string e.2) }
  else if e.1 = targetField then return { f with target := some (← string e.2) }
  else if e.1 = "indent" ∧ hasIndent then return { f with indent := some (← natural e.2) }
  else if e.1 = "replace" then return { f with replacement := some (← string e.2) }
  else return f

def rule (v : Value) : Except Mismatch Rule := do
  let (kind, body) ← kindOf "RuleDefinition" v
  let read (r : Record) (targetField : String) (hasIndent : Bool)
      (build : RuleFields → Bool → String → Except Mismatch Target) : Except Mismatch Rule := do
    let fields ← r.fieldsOf body
    let f ← fields.entries.foldlM (ruleField targetField hasIndent) ⟨none, none, none, none⟩
    let name ← r.require fields.byPlace "name" f.name
    let text ← r.require fields.byPlace targetField f.target
    let target ← build f fields.byPlace text
    r.checkLength body
    return ⟨name, target, f.replacement.getD ""⟩
  match ← kindName kind with
  | "literal" => read literalRecord "search" false fun _ _ s => .ok (.literal s)
  | "regex" => read regexRecord "pattern" false fun _ _ s => .ok (.regex s)
  | "block" => read blockRecord "header" true fun f byPlace s => do
    return .block s (← blockRecord.require byPlace "indent" f.indent)
  | other => .error (.unknownVariant other ["literal", "regex", "block"])

/-! ## Operations -/

def authorRecord : Record := ⟨"struct variant Operation::Author", ["content"]⟩

def transformRecord : Record := ⟨"struct variant Operation::Rewrite", ["rules", "applied_marker"]⟩

def appendRecord : Record := ⟨"struct variant Operation::AppendGuarded", ["marker", "fragment"]⟩

/-- The fields of an operation that have been read. -/
structure OperationFields where
  content : Option String
  rules : Option (List Rule)
  appliedMarker : Option String
  marker : Option String
  fragment : Option String

/-- Reads one field of an operation. -/
def operationField (r : Record) (f : OperationFields) (e : String × Value) :
    Except Mismatch OperationFields := do
  if !r.fields.contains e.1 then return f
  match e.1 with
  | "content" => return { f with content := some (← string e.2) }
  | "rules" => return { f with rules := some (← (← items e.2).mapM rule) }
  | "applied_marker" => return { f with appliedMarker := some (← string e.2) }
  | "marker" => return { f with marker := some (← string e.2) }
  | "fragment" => return { f with fragment := some (← string e.2) }
  | _ => return f

def operation (v : Value) : Except Mismatch Operation := do
  let (kind, body) ← kindOf "Operation" v
  let read (r : Record) (build : OperationFields → Bool → Except Mismatch Operation) :
      Except Mismatch Operation := do
    let fields ← r.fieldsOf body
    let f ← fields.entries.foldlM (operationField r) ⟨none, none, none, none, none⟩
    let op ← build f fields.byPlace
    r.checkLength body
    return op
  match ← kindName kind with
  | "author" => read authorRecord fun f byPlace => do
    return .author (← authorRecord.require byPlace "content" f.content)
  | "rewrite" => read transformRecord fun f byPlace => do
    return .transform (← transformRecord.require byPlace "rules" f.rules) f.appliedMarker
  | "append-guarded" => read appendRecord fun f byPlace => do
    return .appendGuarded (← appendRecord.require byPlace "marker" f.marker)
      (← appendRecord.require byPlace "fragment" f.fragment)
  | other => .error (.unknownVariant other ["author", "rewrite", "append-guarded"])

/-! ## Patches and sets -/

def patchRecord : Record := ⟨"struct PatchDefinition", ["id", "file", "description", "operation"]⟩

structure PatchFields where
  id : Option String
  file : Option String
  description : Option String
  operation : Option Operation

def patchField (f : PatchFields) (e : String × Value) : Except Mismatch PatchFields := do
  match e.1 with
  | "id" => return { f with id := some (← string e.2) }
  | "file" => return { f with file := some (← string e.2) }
  | "description" => return { f with description := some (← string e.2) }
  | "operation" => return { f with operation := some (← operation e.2) }
  | _ => return f

def patch (v : Value) : Except Mismatch Patch := do
  let r := patchRecord
  let fields ← r.fieldsOf v
  let f ← fields.entries.foldlM patchField ⟨none, none, none, none⟩
  return ⟨← r.require fields.byPlace "id" f.id, ← r.require fields.byPlace "file" f.file,
    f.description, ← r.require fields.byPlace "operation" f.operation⟩

def metadataRecord : Record := ⟨"struct Metadata", ["name", "description", "root_marker"]⟩

def metadataField (m : Metadata) (e : String × Value) : Except Mismatch Metadata := do
  match e.1 with
  | "name" => return { m with name := ← string e.2 }
  | "description" => return { m with description := some (← string e.2) }
  | "root_marker" => return { m with rootMarker := some (← string e.2) }
  | _ => return m

def metadata (v : Value) : Except Mismatch Metadata := do
  (← metadataRecord.fieldsOf v).entries.foldlM metadataField PatchSet.emptyMetadata

def patchSetField (s : PatchSet) (e : String × Value) : Except Mismatch PatchSet := do
  match e.1 with
  | "meta" => return { s with metadata := ← metadata e.2 }
  | "patches" => return { s with patches := ← (← items e.2).mapM patch }
  | _ => return s

end Schema

/-- The patch set that the entries of a document describe. -/
def PatchSet.ofEntries (es : Toml.Entries) : Except Mismatch PatchSet :=
  es.foldlM Schema.patchSetField ⟨emptyMetadata, []⟩

end SourcePatch
