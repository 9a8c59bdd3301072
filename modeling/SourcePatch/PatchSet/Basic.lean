import SourcePatch.Rule.Basic

/-!
# Patch sets

A patch set is an ordered list of patches, each of which says what is to become of one file of a
tree.
-/

namespace SourcePatch

/-- What a patch does to its file. -/
inductive Operation
  /-- Write the whole file. -/
  | author (content : String)
  /-- Run rules over an existing file; the marker shows that this was done before. -/
  | transform (rules : List Rule) (appliedMarker : Option String)
  /-- Append a fragment to an existing file, once. -/
  | appendGuarded (marker fragment : String)
  deriving DecidableEq, Repr

/-- The name of an operation in patch sets and reports. -/
def Operation.kind : Operation → String
  | author _ => "author"
  | transform .. => "rewrite"
  | appendGuarded .. => "append-guarded"

structure Patch where
  id : String
  /-- The file, relative to the root of the tree. -/
  file : String
  description : Option String
  operation : Operation
  deriving DecidableEq, Repr

structure Metadata where
  name : String
  description : Option String
  /-- A path that only exists inside a tree of the right kind. -/
  rootMarker : Option String
  deriving DecidableEq, Repr

structure PatchSet where
  metadata : Metadata
  patches : List Patch
  deriving DecidableEq, Repr

namespace PatchSet

def emptyMetadata : Metadata := ⟨"", none, none⟩

def ids (s : PatchSet) : List String := s.patches.map (·.id)

end PatchSet

end SourcePatch
