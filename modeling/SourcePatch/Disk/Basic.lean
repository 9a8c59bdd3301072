import SourcePatch.Path

/-!
# Disks

A disk holds directories, files and symbolic links, each at a location: the names that lead there
from the root without passing a link. The root is a directory that is always there. Relative paths
start at the working directory.

## Main definitions

* `Disk.node?`: what is at a location.
* `Disk.put`, `Disk.erase`: a disk with one entry changed.
-/

namespace SourcePatch

/-- Bytes are equal if the arrays that hold them are. -/
instance decidableEqBytes : DecidableEq ByteArray := fun a b =>
  decidable_of_iff (a.data = b.data) ⟨fun h => by cases a; cases b; simp_all, fun h => h ▸ rfl⟩

/-- The names that lead to an entry from the root. -/
abbrev Location := List String

inductive Node
  | directory
  | file (data : ByteArray) (mode : Nat)
  | link (target : Path)
  deriving DecidableEq

/-- Why an operation on a disk fails. -/
inductive IoError
  | noSuchFile
  | permissionDenied
  | fileExists
  | notADirectory
  | isADirectory
  | noSpace
  | nameTooLong
  | tooManyLinks
  | nulInPath
  | notText
  deriving DecidableEq, Repr

def IoError.message : IoError → String
  | noSuchFile => "No such file or directory (os error 2)"
  | permissionDenied => "Permission denied (os error 13)"
  | fileExists => "File exists (os error 17)"
  | notADirectory => "Not a directory (os error 20)"
  | isADirectory => "Is a directory (os error 21)"
  | noSpace => "No space left on device (os error 28)"
  | nameTooLong => "File name too long (os error 36)"
  | tooManyLinks => "Too many levels of symbolic links (os error 40)"
  | nulInPath => "file name contained an unexpected NUL byte"
  | notText => "stream did not contain valid UTF-8"

structure Disk where
  entries : List (Location × Node)
  workingDirectory : Location

namespace Disk

/-- What is at a location. -/
def node? (d : Disk) (l : Location) : Option Node :=
  if l.isEmpty then some .directory else d.entries.lookup l

def erase (d : Disk) (l : Location) : Disk := { d with entries := d.entries.filter (·.1 != l) }

/-- Puts `n` at a location, in place of what was there. -/
def put (d : Disk) (l : Location) (n : Node) : Disk :=
  { d with entries := (l, n) :: (d.erase l).entries }

/-- Takes away an entry and all below it. -/
def eraseTree (d : Disk) (l : Location) : Disk :=
  { d with entries := d.entries.filter fun e => !l.isPrefixOf e.1 }

/-- The names of the entries in a directory, in no particular order. -/
def namesIn (d : Disk) (l : Location) : List String :=
  d.entries.filterMap fun e =>
    match e.1.getLast? with
    | some name => if e.1.dropLast = l then some name else none
    | none => none

theorem lookup_filter_ne {l m : Location} (h : m ≠ l) (es : List (Location × Node)) :
    (es.filter (·.1 != l)).lookup m = es.lookup m := by
  induction es with
  | nil => rfl
  | cons e es ih =>
    obtain ⟨k, n⟩ := e
    by_cases hk : k = l
    · have hm : (m == l) = false := by simpa using h
      simp [hk, List.lookup_cons, hm, ih]
    · by_cases hm : m = k <;> simp [hk, List.lookup_cons, hm, ih]

theorem node?_put_self {d : Disk} {l : Location} (h : l ≠ []) (n : Node) :
    (d.put l n).node? l = some n := by
  simp [node?, put, h]

theorem node?_put_of_ne {d : Disk} {l m : Location} (h : m ≠ l) (n : Node) :
    (d.put l n).node? m = d.node? m := by
  have hb : (m == l) = false := by simpa using h
  simp [node?, put, erase, List.lookup_cons, hb, lookup_filter_ne h]

end Disk

end SourcePatch
