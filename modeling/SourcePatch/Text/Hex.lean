/-!
# Hexadecimal numbers
-/

namespace SourcePatch

/-- The value of a hexadecimal digit; a character that is none counts as zero. -/
def hexDigitValue (c : Char) : Nat :=
  if '0' ≤ c ∧ c ≤ '9' then c.toNat - '0'.toNat
  else if 'a' ≤ c ∧ c ≤ 'f' then c.toNat - 'a'.toNat + 10
  else if 'A' ≤ c ∧ c ≤ 'F' then c.toNat - 'A'.toNat + 10
  else 0

def isHexDigit (c : Char) : Bool :=
  c.isDigit || ('a' ≤ c && c ≤ 'f') || ('A' ≤ c && c ≤ 'F')

/-- The number that hexadecimal digits stand for, the most significant first. -/
def hexValue (digits : List Char) : Nat := digits.foldl (fun n c => 16 * n + hexDigitValue c) 0

/-- The character with the code that hexadecimal digits give. -/
def charOfHex? (digits : List Char) : Option Char :=
  let n := hexValue digits
  if !digits.isEmpty && digits.all isHexDigit && n.isValidChar then some (Char.ofNat n) else none

end SourcePatch
