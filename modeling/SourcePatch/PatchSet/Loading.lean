import SourcePatch.Disk.Operations
import SourcePatch.PatchSet.Schema
import SourcePatch.PatchSet.Validation
import SourcePatch.Toml.Reader

/-!
# Loading patch sets

A patch set is read from a text, which is usually a file: the text must be a document, the document
a patch set, and the patch set valid.

## Main definitions

* `PatchSet.load`, `PatchSet.loadFile`.
* `LoadError`: why that fails.
-/

namespace SourcePatch

/-- Why a text is no valid patch set. -/
inductive LoadFault
  | notToml
  | mismatch (m : Mismatch)
  | invalid (issues : List Issue)
  deriving DecidableEq, Repr

/-- Why a patch set cannot be loaded, and from where. -/
inductive LoadError
  | unreadable (file : Path) (cause : IoError)
  | fault (source : Option String) (f : LoadFault)
  deriving DecidableEq, Repr

def LoadError.message : LoadError → String
  | unreadable file cause => "failed to read patch set " ++ file.text ++ ": " ++ cause.message
  | fault source f =>
    let place := match source with
      | some s => " (" ++ s ++ ")"
      | none => ""
    match f with
    | .notToml | .mismatch _ => "failed to parse patch set TOML" ++ place ++ ": <toml error>"
    | .invalid issues => "invalid patch set" ++ place ++ ":\n" ++ issuesMessage issues

namespace PatchSet

/-- Reads and checks a patch set. -/
def parse (text : String) : Except LoadFault PatchSet :=
  match Toml.read? text.toList with
  | none => .error .notToml
  | some es =>
    match ofEntries es with
    | .error m => .error (.mismatch m)
    | .ok s =>
      match s.validate with
      | .error issues => .error (.invalid issues)
      | .ok () => .ok s

/-- Loads a patch set from a text, which may have a name for messages. -/
def load (source : Option String) (text : String) : Except LoadError PatchSet :=
  (parse text).mapError (.fault source)

/-- The text of a file. -/
def readFile (d : Disk) (p : Path) : Except IoError String := do
  match String.fromUTF8? (← d.read p) with
  | some text => .ok text
  | none => .error .notText

/-- Loads a patch set from a file. -/
def loadFile (d : Disk) (p : Path) : Except LoadError PatchSet :=
  match readFile d p with
  | .error e => .error (.unreadable p e)
  | .ok text => load (some p.text) text

end PatchSet

end SourcePatch
