/-!
# Paths

A path is kept as the segments between its slashes, so that it can be written back exactly as it was
given. Empty segments and single dots do not move; they are passed over where the parts of a path
matter, save a dot that leads a relative path.

## Main definitions

* `Path.ofString`, `Path.text`: reading and writing.
* `Path.components`: the parts that matter.
* `Path.join`, `Path.parent?`, `Path.ancestors`.
* `Path.splitName`, `Path.stem?`: the halves of a name.
-/

namespace SourcePatch

/-- Cuts at every slash. -/
def splitSlashes : List Char → List (List Char)
  | [] => [[]]
  | c :: rest =>
    if c = '/' then [] :: splitSlashes rest
    else match splitSlashes rest with
      | segment :: more => (c :: segment) :: more
      | [] => [[c]]

/-- A path, as the segments between slashes. -/
structure Path where
  segments : List String
  deriving DecidableEq, Repr, Inhabited

/-- A part of a path. -/
inductive Component
  | root
  | current
  | parent
  | normal (name : String)
  deriving DecidableEq, Repr

namespace Path

def ofString (s : String) : Path := ⟨(splitSlashes s.toList).map String.ofList⟩

def text (p : Path) : String := "/".intercalate p.segments

/-- The empty path. -/
def empty : Path := ⟨[""]⟩

def isEmpty (p : Path) : Bool := p.segments == [""]

/-- A path that starts with a slash does so with an empty segment. -/
def isAbsolute (p : Path) : Bool :=
  match p.segments with
  | "" :: _ :: _ => true
  | _ => false

/-- The absolute path that goes through `names`. -/
def ofNames (names : List String) : Path := if names.isEmpty then ⟨["", ""]⟩ else ⟨"" :: names⟩

/-- Whether a segment does not move; `leads` says that it starts a relative path. -/
def isIdle (leads : Bool) (segment : String) : Bool :=
  segment == "" || (segment == "." && !leads)

def componentOf (segment : String) : Component :=
  if segment = "." then .current else if segment = ".." then .parent else .normal segment

def componentsFrom (leads : Bool) : List String → List Component
  | [] => []
  | segment :: rest =>
    if isIdle leads segment then componentsFrom false rest
    else componentOf segment :: componentsFrom false rest

def components (p : Path) : List Component :=
  if p.isAbsolute then .root :: componentsFrom false p.segments else componentsFrom true p.segments

/-- `q` as seen from `p`; an absolute `q` stays as it is. -/
def join (p q : Path) : Path :=
  if q.isAbsolute then q
  else if p.segments.getLast? = some "" then ⟨p.segments.dropLast ++ q.segments⟩
  else ⟨p.segments ++ q.segments⟩

/-- Drops the segments at the end that do not move. -/
def trimmed (leads : Bool) : List String → List String
  | [] => []
  | segment :: rest =>
    match trimmed false rest with
    | [] => if isIdle leads segment then [] else [segment]
    | more => segment :: more

/-- The path without its last component; a root and an empty path have no parent. -/
def parent? (p : Path) : Option Path :=
  let absolute := p.isAbsolute
  let body := if absolute then p.segments.tail else p.segments
  match trimmed (!absolute) body with
  | [] => none
  | kept =>
    let above := trimmed (!absolute) kept.dropLast
    some <| if absolute then ofNames above else if above.isEmpty then empty else ⟨above⟩

/-- Up to `n` paths: `p`, its parent, and so on. -/
def ancestorsUpTo : Nat → Path → List Path
  | 0, _ => []
  | n + 1, p =>
    p :: match p.parent? with
      | some q => ancestorsUpTo n q
      | none => []

/-- The path itself, its parent, and so on up to the root or the empty path. -/
def ancestors (p : Path) : List Path := ancestorsUpTo (p.segments.length + 1) p

/-- Whether the components of `q` are the first ones of `p`. -/
def startsWith (p q : Path) : Bool := q.components.isPrefixOf p.components

/-- The last component, if it is a name. -/
def fileName? (p : Path) : Option String :=
  match p.components.getLast? with
  | some (.normal name) => some name
  | _ => none

/-- The parts of a name before and behind its last dot; a dot in front does not count. -/
def splitName (name : String) : String × Option String :=
  let reversed := name.toList.reverse
  let suffix := reversed.takeWhile (· != '.')
  match reversed.dropWhile (· != '.') with
  | _ :: c :: stem => (.ofList (c :: stem).reverse, some (.ofList suffix.reverse))
  | _ => (name, none)

def stem? (p : Path) : Option String := p.fileName?.map fun name => (splitName name).1

/-- Whether a path stays below wherever it starts: it is not absolute, and nowhere goes up. -/
def isTreeRelative (p : Path) : Bool :=
  p.components.all fun
    | .normal _ | .current => true
    | .root | .parent => false

end Path

end SourcePatch
