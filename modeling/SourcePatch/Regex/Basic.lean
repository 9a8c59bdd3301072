import SourcePatch.Regex.Reader
import SourcePatch.Regex.Template

/-!
# Regular expressions

## Main definitions

* `Regex.compile?`: the regular expression of a text, if it is well formed and not too large.
* `Regex.occurrences`: its matches, by the place where they start.
* `Regex.replaceAll`: a text with its matches replaced by a template.
* `Regex.escape`: a text in which nothing has a special meaning.
-/

namespace SourcePatch

structure Regex where
  pattern : Regex.Pattern Unit
  names : List (String × Nat)

namespace Regex

/-- The regular expression that `source` describes. -/
def compile? (source : List Char) : Option Regex := do
  let (form, names) ← read? source
  guard (form.cost ≤ Form.costLimit)
  some ⟨form.toPattern, names⟩

/-- A match: the text from its start on, the length of that text, and the way through the
pattern. -/
structure Match where
  text : List Char
  left : Nat
  trail : Trail

namespace Match

/-- Where a group began or ended last, in characters left. -/
def lastEdge (m : Match) (opens : Bool) (slot : Nat) : Option Nat :=
  (m.trail.edges.reverse.find? fun e => e.opens == opens && e.slot == slot).map (·.left)

def slice (m : Match) (start stop : Nat) : List Char :=
  (m.text.drop (m.left - start)).take (start - stop)

/-- The text of a group, if it took part in the match; group 0 is the whole match. -/
def group? (m : Match) (slot : Nat) : Option (List Char) :=
  if slot = 0 then some (m.slice m.left m.trail.left)
  else do some (m.slice (← m.lastEdge true slot) (← m.lastEdge false slot))

/-- The text of a reference; groups that do not exist or took no part have none. -/
def reference (m : Match) (names : List (String × Nat)) : Reference → List Char
  | .number n => (m.group? n).getD []
  | .name name =>
    match names.find? (·.1 == String.ofList name) with
    | some (_, slot) => (m.group? slot).getD []
    | none => []

end Match

/-- Pairs each place of a text with the outcome there. -/
def matchesAt : List Char → Nat → List Outcome → List (Option (Occurrence Match))
  | text, left, o :: later =>
    o.map (fun t => ⟨left - t.left, ⟨text, left, t⟩⟩) :: matchesAt text.tail (left - 1) later
  | _, _, [] => []

/-- The match that starts at each place of `text`, if there is one. -/
def occurrences (r : Regex) (text : List Char) : List (Option (Occurrence Match)) :=
  matchesAt text text.length (r.pattern.outcomes text)

/-- Whether `text` has a match. -/
def occursIn (r : Regex) (text : List Char) : Bool := anyOccurrence (r.occurrences text)

/-- `text` with every match replaced by what `template` makes of it. -/
def replaceAll (r : Regex) (template : Template) (text : List Char) : List Char :=
  replaceOccurrences (fun m => template.expand (m.reference r.names)) text (r.occurrences text)

/-! ## Escaping -/

/-- The characters with a special meaning somewhere in a regular expression. -/
def isSpecial (c : Char) : Bool :=
  ['\\', '.', '+', '*', '?', '(', ')', '|', '[', ']', '{', '}', '^', '$', '#', '&', '-',
    '~'].contains c

/-- A regular expression for exactly `text`. -/
def escape (text : List Char) : List Char :=
  text.flatMap fun c => if isSpecial c then ['\\', c] else [c]

theorem escape_append (s t : List Char) : escape (s ++ t) = escape s ++ escape t := by
  simp [escape]

end Regex

end SourcePatch
