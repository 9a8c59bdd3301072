import SourcePatch.Diff.Slide

/-!
# Line diffs

A change to a text is shown line by line: what is kept, what is deleted and what is inserted. Where
lines are replaced, the deleted ones come first.

## Main definitions

* `cutLines`: the lines of a text, with their line ends.
* `Diff.changes`: the changes from one list of lines to another.
* `Diff.render`: the changes from one text to another, as text.
-/

namespace SourcePatch

/-- Cuts a text behind every LF, CR LF and lone CR. -/
def cutLines : List Char → List (List Char)
  | [] => []
  | '\r' :: '\n' :: rest => ['\r', '\n'] :: cutLines rest
  | c :: rest =>
    if c = '\n' ∨ c = '\r' then [c] :: cutLines rest
    else match cutLines rest with
      | line :: more => (c :: line) :: more
      | [] => [[c]]

namespace Diff

inductive Change (α : Type)
  | keep (element : α)
  | delete (element : α)
  | insert (element : α)
  deriving DecidableEq, Repr

/-- The changes of a script; `pending` are insertions that wait for deletions to come first. -/
def changesFrom {α : Type} (pending : List α) : List (Run α) → List (Change α)
  | [] => pending.map .insert
  | .keep l :: runs => pending.map .insert ++ l.map .keep ++ changesFrom [] runs
  | .delete l :: runs => l.map .delete ++ changesFrom pending runs
  | .insert l :: runs => changesFrom (pending ++ l) runs

def changes {α : Type} [DecidableEq α] (a b : List α) : List (Change α) :=
  changesFrom [] (settle (script a b))

/-- A line behind its sign. The last line of a text may lack a line end, and then gets one. -/
def signed (sign : Char) (line : List Char) : List Char :=
  let ends := line.getLast? == some '\n' || line.getLast? == some '\r'
  sign :: line ++ if ends then [] else ['\n']

def Change.render : Change (List Char) → List Char
  | keep line => signed ' ' line
  | delete line => signed '-' line
  | insert line => signed '+' line

/-- The changes from one text to another. -/
def render (before after : String) : String :=
  .ofList ((changes (cutLines before.toList) (cutLines after.toList)).flatMap Change.render)

end Diff

end SourcePatch
