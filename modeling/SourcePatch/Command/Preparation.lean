import SourcePatch.Command.Arguments
import SourcePatch.Command.Output
import SourcePatch.PatchSet.Builtin
import SourcePatch.PatchSet.Loading
import SourcePatch.PatchSet.Selection
import SourcePatch.Text.Quoted
import SourcePatch.Tree.Locate

/-!
# What a command works on

Before a command looks at a tree, the patch sets are loaded, the chosen patches are looked up, and
the root of the tree is found. Patch sets are the files that are named, or else those in a directory
of the working directory, or else the built-in ones.

## Main definitions

* `discover`: the patch set files in a directory.
* `loadSets`: the patch sets of a command.
* `prepare`: the patch sets and the root.
-/

namespace SourcePatch

/-- A patch set, and the name it is reported under. -/
structure LoadedSet where
  name : String
  set : PatchSet
  deriving DecidableEq, Repr

/-- Why a command does not get to its tree. -/
inductive PreparationError
  | load (e : LoadError)
  | unknownPatch (e : UnknownPatch)
  | locate (e : LocateError)
  deriving DecidableEq, Repr

namespace PreparationError

/-- The message of an error, and behind it the message of what caused it, if it has a cause. -/
def message : PreparationError → String
  | load e =>
    match e with
    | .unreadable _ cause => e.message ++ ": " ++ cause.message
    | .fault _ (.invalid issues) => e.message ++ ": " ++ issuesMessage issues
    | .fault .. => e.message
  | unknownPatch e => e.message
  | locate e =>
    match e with
    | .createDirectory _ cause | .safety (.canonicalize cause) =>
      e.message ++ ": " ++ cause.message
    | _ => e.message

/-- The fault of a text that is no patch set is left open at its end, as is the line. -/
def isOpenEnded : PreparationError → Bool
  | load (.fault _ .notToml) | load (.fault _ (.mismatch _)) => true
  | _ => false

end PreparationError

namespace Command

/-- Whether an entry of a directory is a patch set file. -/
def isPatchSetFile (name : String) (n : Option Node) : Bool :=
  match n with
  | some (.file ..) => (Path.splitName name).2 == some "toml"
  | _ => false

/-- The patch set files in a directory, sorted by name. -/
def discover (d : Disk) (directory : Path) : List Path :=
  match d.locate directory with
  | .error _ => []
  | .ok l =>
    let names := (d.namesIn l).filter fun name => isPatchSetFile name (d.node? (l ++ [name]))
    (names.mergeSort fun a b => decide (a ≤ b)).map fun name => directory.join ⟨[name]⟩

/-- The directory that patch sets are looked for in. -/
def patchesDirectory : Path := .ofString "patches"

/-- The name of a patch set: its own, or else that of its file. -/
def nameOf (file : Path) (s : PatchSet) : String :=
  if s.metadata.name = "" then file.stem?.getD file.text else s.metadata.name

def loadNamed (d : Disk) (file : Path) : Except LoadError LoadedSet := do
  let s ← PatchSet.loadFile d file
  return ⟨nameOf file s, s⟩

def builtinSets : List LoadedSet := PatchSet.builtins.map fun (name, s) => ⟨name, s⟩

/-- The patch sets of a command; the first that cannot be loaded is reported. -/
def loadSets (d : Disk) (named : List Path) : Except LoadError (List LoadedSet) :=
  match if named.isEmpty then discover d patchesDirectory else named with
  | [] => .ok builtinSets
  | files => files.mapM (loadNamed d)

def markersOf (sets : List LoadedSet) : List String :=
  sets.filterMap (·.set.metadata.rootMarker)

/-- The first marker that a set declares, or else the default. -/
def markerOf (sets : List LoadedSet) : Path :=
  match markersOf sets with
  | marker :: _ => .ofString marker
  | [] => Root.defaultMarker

/-- Warnings about declared markers that are missing under a root that was found by another. -/
def markerWarnings (sets : List LoadedSet) (d : Disk) (r : Root) (used : Path) : List Printed :=
  let missing (other : String) : Bool :=
    let marker := Path.ofString other
    marker.components != used.components && !d.leadsSomewhere (r.path.join marker)
  ((markersOf sets).filter missing).map fun other =>
    warning ("another patch set's root marker is missing under this root; " ++
      "pass --marker to choose using=" ++ used.text ++ " absent=" ++ Quoted.quote other)

/-- The patch sets and the root of a command, and warnings. -/
def prepare (d : Disk) (tree : TreeOptions) :
    Except PreparationError (List LoadedSet × Root × List Printed) := do
  let sets ← (loadSets d tree.patchFiles).mapError .load
  (Selection.check (sets.flatMap (·.set.ids)) tree.only).mapError .unknownPatch
  let start := tree.root.getD (.ofNames d.workingDirectory)
  match tree.marker with
  | some marker => return (sets, ← (Root.find d start marker).mapError .locate, [])
  | none =>
    let marker := markerOf sets
    let root ← (Root.find d start marker).mapError .locate
    return (sets, root, markerWarnings sets d root marker)

end Command

end SourcePatch
