import SourcePatch.Digest.Xxh3

/-!
# What a file is expected to hold

A planned write goes ahead only if the file is still what it was when the write was planned. Short
texts are kept whole for this; of anything else the digest is kept.
-/

namespace SourcePatch

inductive Verification
  | absent
  | exact (text : String)
  | hash (digest : UInt64)
  deriving DecidableEq

namespace Verification

/-- The longest text, in bytes, that is kept whole. -/
def exactLimit : Nat := 1024

/-- What is kept of a file with the given bytes. -/
def ofBytes (bytes : ByteArray) : Verification :=
  match String.fromUTF8? bytes with
  | some text => if bytes.size ≤ exactLimit then exact text else hash (Xxh3.digest bytes)
  | none => hash (Xxh3.digest bytes)

/-- What is kept of a file, or of its absence. -/
def ofCurrent : Option ByteArray → Verification
  | some bytes => ofBytes bytes
  | none => absent

/-- Whether a file, or its absence, is as expected. -/
def matchesCurrent : Verification → Option ByteArray → Bool
  | absent, none => true
  | exact text, some bytes => bytes == text.toUTF8
  | hash digest, some bytes => Xxh3.digest bytes == digest
  | _, _ => false

end Verification

end SourcePatch
