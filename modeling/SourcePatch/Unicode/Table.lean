import SourcePatch.Text.Hex
import SourcePatch.Unicode.CharSet

/-!
# Tables of code points

A table holds its sets as text: ranges such as `41-5A` and single code points such as `AA`, in
hexadecimal, with blanks between them. A row carries the names of its set in the normal form in
which names are compared: lower case, without blanks, hyphens, underscores and a leading `is`.
-/

namespace SourcePatch

namespace CharSet

/-- Reads one line of a table; `lo` is the lower end of the current range once it is complete, and
`n` the number read so far. -/
def lineRanges (lo : Option Nat) (n : Nat) : List Char → List (Nat × Nat)
  | [] => [(lo.getD n, n)]
  | ' ' :: rest => (lo.getD n, n) :: lineRanges none 0 rest
  | '-' :: rest => lineRanges (some n) 0 rest
  | c :: rest => lineRanges lo (16 * n + hexDigitValue c) rest

/-- The set that the lines of a table describe. -/
def ofLines (lines : List String) : CharSet :=
  ofRanges (lines.flatMap fun line => lineRanges none 0 line.toList)

end CharSet

namespace Unicode

/-- A named set of code points as a table holds it. -/
structure Row where
  names : List String
  lines : List String

def Row.set (r : Row) : CharSet := .ofLines r.lines

/-- The set of the first row that goes by `name`. -/
def find? (table : List Row) (name : String) : Option CharSet :=
  (table.find? (·.names.contains name)).map Row.set

end Unicode

end SourcePatch
