import SourcePatch.Command.Report
import SourcePatch.PatchSet.Run

/-!
# Running commands

A command is a function of the command line, what surrounds the program, and the disk. It yields
what is printed, an exit code, and the disk as the command leaves it.

## Main definitions

* `Surroundings`, `Outcome`.
* `Command.run`: runs a command.
* `runProgram`: reads a command line and does what it asks for.
-/

namespace SourcePatch

/-- What a program finds around it, besides its arguments and the disk. -/
structure Surroundings where
  /-- The root of a tree if no other is given. -/
  top : Option String
  /-- Whether warnings are printed. -/
  warns : Bool
  deriving DecidableEq, Repr

/-- What a program leaves behind. -/
structure Outcome where
  exitCode : Nat
  printed : List Command.Printed
  disk : Disk

namespace Command

def programName : String := "tree-patcher"

def version : String := "0.1.0"

/-- The reports of one set. -/
structure SetReports where
  name : String
  reports : List PatchReport

/-- Runs the chosen patches of sets in order, each on the tree that the ones before it leave. -/
def runSets (r : Root) (options : RunOptions) (d : Disk) :
    List LoadedSet → List SetReports × Disk
  | [] => ([], d)
  | s :: rest =>
    let (reports, d) := s.set.run r options d
    let (more, d) := runSets r options d rest
    (⟨s.name, reports⟩ :: more, d)

/-- Plans all patches of sets, and gives the reports of the chosen ones beside all of them. -/
def checkSets (r : Root) (only : List String) (d : Disk) (sets : List LoadedSet) :
    List (List PatchReport × List PatchReport) :=
  sets.map fun s =>
    let reports := s.set.status r d
    (reports, reports.filter fun report => Selection.includes only report.id)

def allReports (sets : List SetReports) : List PatchReport := sets.flatMap (·.reports)

/-- Prints warnings only where they are wanted. -/
def ifWarns (warns : Bool) (warnings : List Printed) : List Printed :=
  if warns then warnings else []

def reportLines (sets : List SetReports) : List ReportLine :=
  sets.flatMap fun s => s.reports.map (ReportLine.ofReport s.name)

/-- What `apply` prints about its reports as text. -/
def applyText (warns dryRun : Bool) (r : Root) (sets : List SetReports) : List Printed :=
  [treeLine r] ++
    (if dryRun then [resultLine "[DRY RUN - showing what would be applied]"] else []) ++
    [blankLine] ++
    sets.flatMap (fun s =>
      ifWarns warns (s.reports.flatMap reportWarnings) ++ applySetLines dryRun s.name s.reports) ++
    applySummary (.ofReports (allReports sets))

/-- What `apply` prints about its reports as JSON. -/
def applyJson (warns dryRun : Bool) (r : Root) (sets : List SetReports) : List Printed :=
  let report : RunReport :=
    ⟨r.path.text, dryRun, reportLines sets, .ofReports (allReports sets)⟩
  ifWarns warns (sets.flatMap fun s => s.reports.flatMap reportWarnings) ++
    [resultLine report.text]

/-- Ends a command that does not get to its tree. -/
def fail (d : Disk) (e : PreparationError) : Outcome :=
  let text := "error: " ++ e.message
  ⟨1, [if e.isOpenEnded then .problem text else problemLine text], d⟩

/-- Runs a command. -/
def run (c : Command) (warns : Bool) (d : Disk) : Outcome :=
  match c with
  | .apply tree dryRun showDiff format =>
    match prepare d tree with
    | .error e => fail d e
    | .ok (sets, r, warnings) =>
      let options : RunOptions := ⟨dryRun, showDiff && format == .text, tree.only⟩
      let (reports, d) := runSets r options d sets
      let body := match format with
        | .text => applyText warns dryRun r reports
        | .json => applyJson warns dryRun r reports
      ⟨(Summary.ofReports (allReports reports)).exitCode, ifWarns warns warnings ++ body, d⟩
  | .status tree =>
    match prepare d tree with
    | .error e => fail d e
    | .ok (sets, r, warnings) =>
      let reports := allReports (runSets r ⟨true, false, tree.only⟩ d sets).1
      ⟨(Summary.ofReports reports).exitCode,
        ifWarns warns (warnings ++ reports.flatMap reportWarnings) ++ statusLines r reports, d⟩
  | .verify tree =>
    match prepare d tree with
    | .error e => fail d e
    | .ok (sets, r, warnings) =>
      let checked := checkSets r tree.only d sets
      let summary := Summary.ofReports (checked.flatMap Prod.snd)
      let body := checked.flatMap fun (all, chosen) =>
        ifWarns warns (all.flatMap reportWarnings) ++ chosen.flatMap verifyLines
      ⟨if 0 < mismatches summary then 1 else 0,
        ifWarns warns warnings ++ [resultLine "Verifying patches...", treeLine r, blankLine] ++
          body ++ verifySummary summary, d⟩
  | .list patchFiles =>
    match loadSets d patchFiles with
    | .error e => fail d (.load e)
    | .ok sets => ⟨0, sets.flatMap listSetLines, d⟩

def usage : List String :=
  ["Usage: " ++ programName ++ " [-v] <command> [options]", "",
    "Commands:",
    "  apply   Apply patches to a tree",
    "  status  Check the status of patches without applying them",
    "  verify  Fail unless every patch is already reflected in the tree",
    "  list    List the loaded patch sets and their patches", "",
    "Options of apply, status and verify:",
    "  -r, --root <ROOT>        Tree root, or a directory one level below it",
    "  -m, --marker <MARKER>    Path that only exists inside the tree root",
    "  -p, --patches <PATCHES>  Patch set file to load, repeatable; also for list",
    "      --only <ID>          Only run the patch with this id, repeatable", "",
    "Options of apply:",
    "  -n, --dry-run            Show what would be changed without changing files",
    "  -d, --diff               Show the changes",
    "      --format <FORMAT>    text or json", "",
    "Other options:",
    "  -v, --verbose            Print warnings",
    "  -h, --help               Print this text",
    "  -V, --version            Print the version"]

end Command

open Command in
/-- Reads a command line and does what it asks for. -/
def runProgram (s : Surroundings) (arguments : List String) (d : Disk) : Outcome :=
  match Request.parse s.top arguments with
  | .error e => ⟨2, [problemLine ("error: " ++ e.message)], d⟩
  | .ok .version => ⟨0, [resultLine (programName ++ " " ++ version)], d⟩
  | .ok .help => ⟨0, usage.map resultLine, d⟩
  | .ok (.run verbose command) => command.run (s.warns || verbose) d

end SourcePatch
