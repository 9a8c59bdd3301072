import SourcePatch.Decimal.Shortest

/-!
# Values of patch set files

A patch set file is a TOML document. Tables keep their entries in the order in which they are
written, and know how they came about, which decides what may still be added to them.

## Main definitions

* `Toml.Value`.
* `Toml.assign`, `Toml.openTable`, `Toml.openElement`: what the lines of a document do.
-/

namespace SourcePatch.Toml

/-- A floating point number. -/
inductive Number
  | finite (negative : Bool) (magnitude : Binary64)
  | infinity (negative : Bool)
  | nan
  deriving DecidableEq

/-- How a table came about. -/
inductive Origin
  /-- Written in braces; nothing can be added. -/
  | braces
  /-- A step on the way to a table that a header names. -/
  | passed
  /-- A step on the way to a key with dots. -/
  | dotted
  /-- Named by a header. -/
  | header
  deriving DecidableEq

inductive Value
  | string (s : String)
  | integer (n : Int)
  | float (x : Number)
  | boolean (b : Bool)
  /-- A date, a time or both; what it says does not matter here. -/
  | datetime
  /-- `growing` arrays consist of tables, to which headers add. -/
  | array (growing : Bool) (items : List Value)
  | table (origin : Origin) (entries : List (String × Value))

abbrev Entries := List (String × Value)

/-- Changes the value of a key, which keeps its place. -/
def Entries.replace (es : Entries) (key : String) (v : Value) : Entries :=
  es.map fun e => if e.1 = key then (key, v) else e

/-- Changes the last item of a list. -/
def changeLast? {α : Type} (f : α → Option α) : List α → Option (List α)
  | [] => none
  | [x] => (f x).map fun y => [y]
  | x :: rest => (changeLast? f rest).map (x :: ·)

/-! ## Keys and values -/

/-- Adds a key with dots. The parts before the last one name tables; those that are missing are
made. The last table on the way must be made by dots, unless the way has no tables at all: `direct`
says that a value may be added right here. -/
def assign (v : Value) (direct : Bool) (es : Entries) : (key : List String) → Option Entries
  | [] => none
  | [last] => if direct && (es.lookup last).isNone then some (es ++ [(last, v)]) else none
  | step :: rest =>
    match es.lookup step with
    | none => do some (es ++ [(step, .table .dotted (← assign v true [] rest))])
    | some (.table .dotted inner) => do
      some (Entries.replace es step (.table .dotted (← assign v true inner rest)))
    | some (.table .passed inner) => do
      some (Entries.replace es step (.table .passed (← assign v false inner rest)))
    | some (.array true items) => do
      let change : Value → Option Value
        | .table origin inner => do some (.table origin (← assign v false inner rest))
        | _ => none
      some (Entries.replace es step (.array true (← changeLast? change items)))
    | some _ => none

/-! ## Headers -/

/-- Changes the entries of the table at the end of `path`. The steps may be tables of any kind
except in braces, and growing arrays, of which the last table is meant. -/
def within (f : Entries → Option Entries) (es : Entries) : (path : List String) → Option Entries
  | [] => f es
  | step :: rest =>
    match es.lookup step with
    | none => do some (es ++ [(step, .table .passed (← within f [] rest))])
    | some (.table .braces _) => none
    | some (.table origin inner) => do
      some (Entries.replace es step (.table origin (← within f inner rest)))
    | some (.array true items) => do
      let change : Value → Option Value
        | .table origin inner => do some (.table origin (← within f inner rest))
        | _ => none
      some (Entries.replace es step (.array true (← changeLast? change items)))
    | some _ => none

/-- Opens a table under its last name. A table that was only passed so far may be opened, once, and
moves behind its siblings. -/
def openTable (key : String) (es : Entries) : Option Entries :=
  match es.lookup key with
  | none => some (es ++ [(key, .table .header [])])
  | some (.table .passed inner) =>
    some (es.filter (·.1 != key) ++ [(key, .table .header inner)])
  | some _ => none

/-- Adds a table to a growing array. -/
def openElement (key : String) (es : Entries) : Option Entries :=
  match es.lookup key with
  | none => some (es ++ [(key, .array true [.table .header []])])
  | some (.array true items) =>
    some (Entries.replace es key (.array true (items ++ [.table .header []])))
  | some _ => none

end SourcePatch.Toml
