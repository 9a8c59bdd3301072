import SourcePatch.Tree.Guard

/-!
# Finding a tree, and making directories in it

The root of a tree is recognised by a marker, a path that only exists inside such a tree. It is
looked for in the place where one starts, and in the directory above.

## Main definitions

* `Root.find`: the root at or directly above a place.
* `Root.ensureDirectory`, `Root.ensureParent`: make the directories that a target needs.
-/

namespace SourcePatch

inductive LocateError
  | rootNotFound (start marker : Path)
  | createDirectory (path : Path) (cause : IoError)
  | safety (e : SafetyError)
  deriving DecidableEq, Repr

def LocateError.message : LocateError → String
  | rootNotFound start marker =>
    "Could not find " ++ marker.text ++ " under " ++ start.text ++ " or its parent directory"
  | createDirectory path cause =>
    "Failed to create directory " ++ path.text ++ ": " ++ cause.message
  | safety e => e.message

namespace Root

/-- The marker of a tree for which none is named. -/
def defaultMarker : Path := .ofString "frameworks/base"

/-- The first of `candidates` under which `marker` exists. -/
def firstMarked (d : Disk) (marker : Path) (candidates : List Path) : Option Path :=
  candidates.find? fun c => d.leadsSomewhere (c.join marker)

/-- The root at `start` or directly above it. -/
def find (d : Disk) (start marker : Path) : Except LocateError Root :=
  let absolute := match d.canonicalize start with
    | .ok l => Path.ofNames l
    | .error _ => start
  match firstMarked d marker (absolute :: absolute.parent?.toList) with
  | none => .error (.rootNotFound start marker)
  | some candidate => (ofPath d candidate).mapError .safety

/-- Makes a directory and those above it; what was made stays, even if the rest fails. -/
def makeDirectories (d : Disk) (p : Path) : Except LocateError Unit × Disk :=
  match d.makeDirectories p with
  | (.ok (), d) => (.ok (), d)
  | (.error e, d) => (.error (.createDirectory p e), d)

/-- Makes the directory that a target names. -/
def ensureDirectory (r : Root) (d : Disk) (target : Path) : Except LocateError Path × Disk :=
  match r.resolve d target with
  | .error e => (.error (.safety e), d)
  | .ok p =>
    match makeDirectories d p with
    | (.ok (), d) => (.ok p, d)
    | (.error e, d) => (.error e, d)

/-- Makes the directory in which a file is to be, if that is inside the tree. -/
def ensureParent (r : Root) (d : Disk) (file : Path) : Except LocateError Unit × Disk :=
  match file.parent? with
  | some parent =>
    if parent.startsWith r.path then makeDirectories d parent
    else (.error (.safety (.outsideTree file r.path)), d)
  | none => (.error (.safety (.outsideTree file r.path)), d)

end Root

end SourcePatch
