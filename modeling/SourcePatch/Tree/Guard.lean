import SourcePatch.Disk.Operations

/-!
# Staying inside a tree

A target is given relative to the root of a tree. It must not be able to lead out of it, neither by
how it is written nor by links on its way. The target need not exist, so the links are checked on
the nearest place above it that does.

## Main definitions

* `Root`: the root of a tree, as a place free of links.
* `Root.resolve`: the path of a target inside the tree.
-/

namespace SourcePatch

/-- Why a target is refused, or a place cannot be found. -/
inductive SafetyError
  | absolutePath (path : Path)
  | parentTraversal (path : Path)
  | emptyPath
  | outsideTree (path root : Path)
  | canonicalize (cause : IoError)
  deriving DecidableEq, Repr

def SafetyError.message : SafetyError → String
  | absolutePath path => "Target path must be relative to the tree root: " ++ path.text
  | parentTraversal path => "Target path must not contain '..': " ++ path.text
  | emptyPath => "Target path is empty"
  | outsideTree path root => "Path is outside tree: " ++ path.text ++ " (root: " ++ root.text ++ ")"
  | canonicalize cause => "Failed to canonicalize path: " ++ cause.message

/-- The root of a tree. -/
structure Root where
  location : Location
  deriving DecidableEq, Repr

namespace Root

/-- Takes the place where `p` leads as the root. -/
def ofPath (d : Disk) (p : Path) : Except SafetyError Root :=
  match d.canonicalize p with
  | .ok l => .ok ⟨l⟩
  | .error e => .error (.canonicalize e)

def path (r : Root) : Path := .ofNames r.location

/-- The first component that makes a target leave its tree. -/
def checkComponents (p : Path) : List Component → Except SafetyError Unit
  | [] => .ok ()
  | .parent :: _ => .error (.parentTraversal p)
  | .root :: _ => .error (.absolutePath p)
  | _ :: rest => checkComponents p rest

/-- Checks that the nearest existing place at or above `p` is inside the tree. -/
def checkAncestor (r : Root) (d : Disk) (p : Path) : Except SafetyError Unit :=
  match p.ancestors.find? d.leadsSomewhere with
  | none => .ok ()
  | some existing =>
    match d.canonicalize existing with
    | .error e => .error (.canonicalize e)
    | .ok l =>
      if r.location.isPrefixOf l then .ok () else .error (.outsideTree (.ofNames l) r.path)

/-- The path of a target that is given relative to the root. -/
def resolve (r : Root) (d : Disk) (target : Path) : Except SafetyError Path := do
  if target.isEmpty then .error .emptyPath
  else
    checkComponents target target.components
    let p := r.path.join target
    r.checkAncestor d p
    return p

/-- Whether a target is there. -/
def hasTarget (r : Root) (d : Disk) (target : Path) : Except SafetyError Bool := do
  return d.leadsSomewhere (← r.resolve d target)

end Root

end SourcePatch
