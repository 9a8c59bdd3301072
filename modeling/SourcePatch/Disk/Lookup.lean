import SourcePatch.Disk.Basic

/-!
# Following paths

A path is followed name by name. A link in the middle, or at the end unless the link itself is
meant, is replaced by its target; after too many of them the path is given up.

## Main definitions

* `Disk.locate`: where a path leads, all links followed.
* `Disk.locateEntry`: the entry that a path names, which need not exist and may be a link.
* `Disk.exists`, `Disk.isDirectory`, `Disk.canonicalize`.
-/

namespace SourcePatch

namespace Disk

/-- Where a way along names ends before it meets a link. -/
inductive Stop
  | reached (l : Location)
  | redirected (start : Location) (names : List String)
  | failed (e : IoError)

/-- The longest name, in bytes. -/
def nameLimit : Nat := 255

/-- The length in bytes from which on a path is too long. -/
def pathLimit : Nat := 4096

/-- The number of links that may be followed on one way. -/
def linkLimit : Nat := 40

/-- Where a path starts. -/
def startOf (d : Disk) (p : Path) : Location := if p.isAbsolute then [] else d.workingDirectory

/-- Follows `names` from `here` up to the first link. -/
def walk (d : Disk) (here : Location) : List String → Stop
  | [] => .reached here
  | name :: rest =>
    if d.node? here = some .directory then
      if name = "" ∨ name = "." then d.walk here rest
      else if name = ".." then d.walk here.dropLast rest
      else if nameLimit < name.utf8ByteSize then .failed .nameTooLong
      else match d.node? (here ++ [name]) with
        | none => .failed .noSuchFile
        | some (.link target) =>
          .redirected (if target.isAbsolute then [] else here) (target.segments ++ rest)
        | some _ => d.walk (here ++ [name]) rest
    else .failed .notADirectory

/-- Follows `names` from `here`, and up to `links` links on the way. -/
def follow (d : Disk) : (links : Nat) → Location → List String → Except IoError Location
  | links, here, names =>
    match d.walk here names with
    | .reached l => .ok l
    | .failed e => .error e
    | .redirected start names =>
      match links with
      | 0 => .error .tooManyLinks
      | links + 1 => d.follow links start names

/-- Refuses texts that name no entry at all. -/
def checkPath (p : Path) : Except IoError Unit :=
  if p.text.toList.contains '\x00' then .error .nulInPath
  else if p.isEmpty then .error .noSuchFile
  else if pathLimit ≤ p.text.utf8ByteSize then .error .nameTooLong
  else .ok ()

/-- Where `p` leads, all links followed. -/
def locate (d : Disk) (p : Path) : Except IoError Location := do
  checkPath p
  d.follow linkLimit (d.startOf p) p.segments

/-- What is at the place where `p` leads. -/
def lookup (d : Disk) (p : Path) : Except IoError Node := do
  match d.node? (← d.locate p) with
  | some n => .ok n
  | none => .error .noSuchFile

/-- Whether `p` leads anywhere. -/
def leadsSomewhere (d : Disk) (p : Path) : Bool :=
  match d.lookup p with
  | .ok _ => true
  | .error _ => false

def isDirectory (d : Disk) (p : Path) : Bool :=
  match d.lookup p with
  | .ok .directory => true
  | _ => false

/-! ## Entries -/

/-- The entry that a path names. -/
structure Entry where
  /-- Where it is or would be; `none` for a root and for `.` and `..`, which always exist. -/
  location : Option Location
  /-- The path ends with a slash, which only a directory may. -/
  asDirectory : Bool

/-- The entry that `p` names, in a directory that exists. -/
def locateEntry (d : Disk) (p : Path) : Except IoError Entry := do
  checkPath p
  let reversed := p.segments.reverse
  let asDirectory := p.segments.getLast? == some ""
  match reversed.dropWhile (· == "") with
  | [] => .ok ⟨none, asDirectory⟩
  | name :: above =>
    let parent ← d.follow linkLimit (d.startOf p) above.reverse
    if d.node? parent ≠ some .directory then .error .notADirectory
    else if name = "." ∨ name = ".." then .ok ⟨none, asDirectory⟩
    else if nameLimit < name.utf8ByteSize then .error .nameTooLong
    else .ok ⟨some (parent ++ [name]), asDirectory⟩

end Disk

end SourcePatch
