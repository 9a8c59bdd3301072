import SourcePatch.Disk.Lookup

/-!
# Operations on disks

Reading follows links. Creating, renaming and removing act on the entry that a path names, so that
a link in its place is replaced or removed and not followed.
-/

namespace SourcePatch.Disk

/-- The bytes of a file. -/
def read (d : Disk) (p : Path) : Except IoError ByteArray := do
  match ← d.lookup p with
  | .file data _ => .ok data
  | .directory => .error .isADirectory
  | .link _ => .error .tooManyLinks

/-- The bytes of a file, or `none` if there is no such file. -/
def read? (d : Disk) (p : Path) : Except IoError (Option ByteArray) :=
  match d.read p with
  | .ok bytes => .ok (some bytes)
  | .error .noSuchFile => .ok none
  | .error e => .error e

/-- The path of the place where `p` leads, free of links. -/
def canonicalize (d : Disk) (p : Path) : Except IoError Location := do
  let l ← d.locate p
  match d.node? l with
  | some _ => .ok l
  | none => .error .noSuchFile

/-- Makes one directory, in a directory that exists. -/
def makeDirectory (d : Disk) (p : Path) : Except IoError Disk := do
  match (← d.locateEntry p).location with
  | none => .error .fileExists
  | some l => if (d.node? l).isSome then .error .fileExists else .ok (d.put l .directory)

/-- Makes the first of `paths`, each of which is the parent of the one before, and before it those
that do not exist. Directories made on the way stay, whatever happens next. -/
def makeChain (d : Disk) : List Path → Except IoError Unit × Disk
  | [] => (.error .noSuchFile, d)
  | p :: above =>
    let settle (d : Disk) : Except IoError Disk → Except IoError Unit × Disk
      | .ok d => (.ok (), d)
      | .error e => (if d.isDirectory p then .ok () else .error e, d)
    if p.isEmpty then (.ok (), d)
    else match d.makeDirectory p with
      | .error .noSuchFile =>
        match d.makeChain above with
        | (.ok (), d) => settle d (d.makeDirectory p)
        | failed => failed
      | made => settle d made

/-- Makes a directory and all directories above it that do not exist. -/
def makeDirectories (d : Disk) (p : Path) : Except IoError Unit × Disk := d.makeChain p.ancestors

/-- Makes an empty file that only its owner can read. -/
def createPrivate (d : Disk) (p : Path) : Except IoError Disk := do
  match (← d.locateEntry p).location with
  | none => .error .fileExists
  | some l => if (d.node? l).isSome then .error .fileExists else .ok (d.put l (.file .empty 0o600))

/-- Writes behind the end of a file. -/
def append (d : Disk) (p : Path) (bytes : ByteArray) : Except IoError Disk := do
  let l ← d.locate p
  match d.node? l with
  | some (.file data mode) => .ok (d.put l (.file (data ++ bytes) mode))
  | _ => .error .isADirectory

/-- Waits until what was written to a file is on the disk. That changes nothing that can be read. -/
def sync (d : Disk) (p : Path) : Except IoError Unit := do
  match ← d.lookup p with
  | .link _ => .error .tooManyLinks
  | _ => .ok ()

/-- The mode of a file. -/
def mode (d : Disk) (p : Path) : Except IoError Nat := do
  match ← d.lookup p with
  | .file _ mode => .ok mode
  | _ => .ok 0o755

def setMode (d : Disk) (p : Path) (mode : Nat) : Except IoError Disk := do
  let l ← d.locate p
  match d.node? l with
  | some (.file data _) => .ok (d.put l (.file data mode))
  | some _ => .ok d
  | none => .error .noSuchFile

/-- Moves a file to another name in one step. What was there under that name is gone, be it a file
or a link; a directory is not replaced. -/
def renameFile (d : Disk) (source target : Path) : Except IoError Disk := do
  match (← d.locateEntry source).location with
  | none => .error .isADirectory
  | some old =>
    match d.node? old with
    | none => .error .noSuchFile
    | some n =>
      let entry ← d.locateEntry target
      match entry.location with
      | none => .error .isADirectory
      | some new =>
        if entry.asDirectory then .error .notADirectory
        else if d.node? new = some .directory then .error .isADirectory
        else .ok ((d.erase old).put new n)

/-- Removes a file or a link. -/
def removeFile (d : Disk) (p : Path) : Except IoError Disk := do
  match (← d.locateEntry p).location with
  | none => .error .isADirectory
  | some l =>
    match d.node? l with
    | none => .error .noSuchFile
    | some .directory => .error .isADirectory
    | some _ => .ok (d.erase l)

end SourcePatch.Disk
