import SourcePatch.Command.Scan
import SourcePatch.Path

/-!
# The commands

## Main definitions

* `Command`: what the program is asked to do.
* `Request.parse`: reads a command line.
-/

namespace SourcePatch

inductive OutputFormat
  | text
  | json
  deriving DecidableEq, Repr

/-- On which tree, and with which patches, a command works. -/
structure TreeOptions where
  root : Option Path
  marker : Option Path
  patchFiles : List Path
  only : List String
  deriving DecidableEq, Repr

inductive Command
  /-- Apply patches. -/
  | apply (tree : TreeOptions) (dryRun showDiff : Bool) (format : OutputFormat)
  /-- Show what each patch would do. -/
  | status (tree : TreeOptions)
  /-- Check that the tree reflects every patch. -/
  | verify (tree : TreeOptions)
  /-- Show the patch sets. -/
  | list (patchFiles : List Path)
  deriving DecidableEq, Repr

inductive Request
  | run (verbose : Bool) (command : Command)
  | version
  | help
  deriving DecidableEq, Repr

namespace Command

def commandNames : List String := ["apply", "status", "verify", "list"]

def isPath (value : String) : Bool := value != ""

def isFormat (value : String) : Bool := value == "text" || value == "json"

def verboseSwitch : Switch := ⟨"verbose", some 'v', .flag⟩

def helpSwitch : Switch := ⟨"help", some 'h', .final⟩

def patchesSwitch : Switch := ⟨"patches", some 'p', .repeated isPath⟩

/-- The options in front of a command. -/
def programSwitches : List Switch := [verboseSwitch, helpSwitch, ⟨"version", some 'V', .final⟩]

def rootSwitch : Switch := ⟨"root", some 'r', .single isPath⟩

def treeSwitches : List Switch :=
  [verboseSwitch, helpSwitch, rootSwitch, ⟨"marker", some 'm', .single isPath⟩, patchesSwitch,
    ⟨"only", none, .repeated fun _ => true⟩]

def applySwitches : List Switch :=
  treeSwitches ++
    [⟨"dry-run", some 'n', .flag⟩, ⟨"diff", some 'd', .flag⟩, ⟨"format", none, .single isFormat⟩]

def listSwitches : List Switch := [verboseSwitch, helpSwitch, patchesSwitch]

/-- The options of a command. -/
def switchesOf : String → Option (List Switch)
  | "apply" => some applySwitches
  | "status" | "verify" => some treeSwitches
  | "list" => some listSwitches
  | _ => none

def pathsOf (g : Given) (name : String) : List Path := (g.values name).map Path.ofString

/-- The tree options; `top` is the root if none is given. -/
def treeOptions (g : Given) (top : Option String) : Except UsageError TreeOptions := do
  let g ← match top with
    | some top => if g.has rootSwitch.name then pure g else g.add rootSwitch top
    | none => pure g
  return ⟨(g.value? "root").map Path.ofString, (g.value? "marker").map Path.ofString,
    pathsOf g "patches", g.values "only"⟩

/-- The command of a name and its options. -/
def ofGiven (name : String) (g : Given) (top : Option String) : Except UsageError Command :=
  match name with
  | "apply" => do
    let format := if g.value? "format" = some "json" then OutputFormat.json else .text
    return .apply (← treeOptions g top) (g.has "dry-run") (g.has "diff") format
  | "status" => .status <$> treeOptions g top
  | "verify" => .verify <$> treeOptions g top
  | _ => .ok (.list (pathsOf g "patches"))

end Command

namespace Request

open Command

/-- The request that an option in `Ending.final` makes. -/
def ofFinal (name : String) : Request := if name = "version" then .version else .help

/-- Help may be asked for a command. -/
def parseHelp : List String → Except UsageError Request
  | [] => .ok .help
  | name :: rest =>
    if !(commandNames.contains name || name == "help") then .error (.unexpectedArgument name)
    else match rest with
      | [] => .ok .help
      | extra :: _ => .error (.unexpectedArgument extra)

/-- Reads a command line; `top` is the root of a tree if no other is given. -/
def parse (top : Option String) (arguments : List String) : Except UsageError Request := do
  let (outer, ending) ← scan programSwitches [] arguments
  match ending with
  | .final name => return ofFinal name
  | .done | .dashes [] => .error .missingCommand
  | .dashes (argument :: _) => .error (.unexpectedArgument argument)
  | .word "help" rest => parseHelp rest
  | .word name rest =>
    match switchesOf name with
    | none => .error (.unexpectedArgument name)
    | some switches =>
      let (given, ending) ← scan switches [] rest
      match ending with
      | .final name => return ofFinal name
      | .word argument _ | .dashes (argument :: _) => .error (.unexpectedArgument argument)
      | .done | .dashes [] =>
        return .run (outer.has "verbose" || given.has "verbose") (← ofGiven name given top)

end Request

end SourcePatch
