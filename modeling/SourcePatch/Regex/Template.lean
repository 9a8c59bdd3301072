/-!
# Replacement templates

A template is literal text with references to groups: `$name` or `$1`, which take the longest run of
letters, digits and underscores, and `${name}`. A dollar sign is written `$$`; one that begins no
reference stands for itself.

## Main definitions

* `Template.ofList`: the pieces of a template.
* `Template.expand`: the text for given groups.
-/

namespace SourcePatch.Regex

/-- A group is named by its number or by its name. -/
inductive Reference
  | number (n : Nat)
  | name (name : List Char)

inductive Piece
  | char (c : Char)
  | reference (r : Reference)

abbrev Template := List Piece

namespace Template

def isNameChar (c : Char) : Bool := c.isAlphanum || c == '_'

/-- The number that is written in decimal digits, with a plus sign or without. -/
def number? (text : List Char) : Option Nat :=
  let digits := match text with
    | '+' :: rest => rest
    | _ => text
  if !digits.isEmpty && digits.all Char.isDigit then
    some (digits.foldl (fun n c => 10 * n + (c.toNat - '0'.toNat)) 0)
  else none

def referenceTo (text : List Char) : Reference :=
  match number? text with
  | some n => .number n
  | none => .name text

/-- The reference behind a dollar sign, and how many characters it takes. -/
def reference? (rest : List Char) : Option (Reference × Nat) :=
  match rest with
  | '{' :: inside =>
    let name := inside.takeWhile (· != '}')
    if name.length < inside.length then some (referenceTo name, name.length + 2) else none
  | _ =>
    let name := rest.takeWhile isNameChar
    if name.isEmpty then none else some (referenceTo name, name.length)

/-- Reads a template of which the next `skip` characters belong to the piece before. -/
def pieces : (skip : Nat) → List Char → Template
  | _, [] => []
  | skip + 1, _ :: rest => pieces skip rest
  | 0, c :: rest =>
    if c = '$' then
      if rest.head? = some '$' then .char '$' :: pieces 1 rest
      else match reference? rest with
        | some (r, length) => .reference r :: pieces length rest
        | none => .char '$' :: pieces 0 rest
    else .char c :: pieces 0 rest

def ofList (text : List Char) : Template := pieces 0 text

/-- The text of a template, where `group` gives the text of each reference. -/
def expand (t : Template) (group : Reference → List Char) : List Char :=
  t.flatMap fun
    | .char c => [c]
    | .reference r => group r

end Template

end SourcePatch.Regex
