import SourcePatch.Unicode.Property

/-!
# Quoted texts

A text in a message is put in quotes. What cannot be seen is escaped: control characters, unassigned
ones, blanks other than the space, and marks that would join the character before them.
-/

namespace SourcePatch.Quoted

/-- Characters that cannot be seen on their own. -/
def invisible : CharSet :=
  (CharSet.unions [Unicode.unassigned,
    .unions (["cc", "cf", "co", "zl", "zp", "zs"].map (Unicode.known Unicode.categories)),
    Unicode.known Unicode.binaryProperties "graphemeextend"]).difference (.singleton ' ')

/-- A character as it stands between quotes. -/
def escapeChar (c : Char) : List Char :=
  match c with
  | '"' => ['\\', '"']
  | '\\' => ['\\', '\\']
  | '\t' => ['\\', 't']
  | '\r' => ['\\', 'r']
  | '\n' => ['\\', 'n']
  | '\x00' => ['\\', '0']
  | c =>
    if invisible.contains c then ['\\', 'u', '{'] ++ Nat.toDigits 16 c.toNat ++ ['}'] else [c]

def quote (s : String) : String := .ofList ('"' :: s.toList.flatMap escapeChar ++ ['"'])

end SourcePatch.Quoted
