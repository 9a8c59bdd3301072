import SourcePatch.Unicode.CharSet

/-!
# Conditions on a place

A place in a text lies between two characters, or at an end. A look is a condition on the
characters on either side; it takes no character itself.
-/

namespace SourcePatch.Regex

/-- A place in a text: the characters on either side, and how many characters are left. -/
structure Place where
  before : Option Char
  after : Option Char
  left : Nat

inductive Look
  | textStart
  | textEnd
  | lineStart
  | lineEnd
  /-- A line starts behind LF and behind a CR that no LF follows. -/
  | lineStartCrLf
  /-- A line ends in front of CR and in front of an LF that no CR precedes. -/
  | lineEndCrLf
  /-- A word made of the given characters starts or ends here. -/
  | wordBoundary (word : CharSet)
  | noWordBoundary (word : CharSet)
  | wordStart (word : CharSet)
  | wordEnd (word : CharSet)
  /-- No word character stands before. -/
  | wordStartHalf (word : CharSet)
  /-- No word character stands behind. -/
  | wordEndHalf (word : CharSet)

def Look.holds (p : Place) : Look → Bool
  | textStart => p.before.isNone
  | textEnd => p.after.isNone
  | lineStart => p.before.isNone || p.before == some '\n'
  | lineEnd => p.after.isNone || p.after == some '\n'
  | lineStartCrLf =>
    p.before.isNone || p.before == some '\n' || (p.before == some '\r' && p.after != some '\n')
  | lineEndCrLf =>
    p.after.isNone || p.after == some '\r' || (p.after == some '\n' && p.before != some '\r')
  | wordBoundary word => p.before.any word.contains != p.after.any word.contains
  | noWordBoundary word => p.before.any word.contains == p.after.any word.contains
  | wordStart word => !p.before.any word.contains && p.after.any word.contains
  | wordEnd word => p.before.any word.contains && !p.after.any word.contains
  | wordStartHalf word => !p.before.any word.contains
  | wordEndHalf word => !p.after.any word.contains

end SourcePatch.Regex
