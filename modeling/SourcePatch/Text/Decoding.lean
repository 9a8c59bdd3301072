/-!
# Faulty encodings

Bytes that are no text are described by where the first fault is and how many bytes it takes: the
longest beginning of a well-formed sequence, or a single byte. Bytes that end inside a sequence have
no length, as more bytes might complete it.

## Main definitions

* `firstFault?`: the first fault of a list of bytes.
* `lossy`: the bytes as text, with a replacement character for each fault.
-/

namespace SourcePatch.Decoding

/-- What may follow the first byte of a sequence: the range of the second byte, and the number of
further bytes behind it. -/
structure Lead where
  low : UInt8
  high : UInt8
  more : Nat

/-- The longer sequences by their first byte. Overlong forms, surrogates and codes that are too
large are ruled out by the second byte. -/
def lead? (b : UInt8) : Option Lead :=
  if 0xC2 ≤ b ∧ b ≤ 0xDF then some ⟨0x80, 0xBF, 0⟩
  else if b = 0xE0 then some ⟨0xA0, 0xBF, 1⟩
  else if b = 0xED then some ⟨0x80, 0x9F, 1⟩
  else if 0xE1 ≤ b ∧ b ≤ 0xEF then some ⟨0x80, 0xBF, 1⟩
  else if b = 0xF0 then some ⟨0x90, 0xBF, 2⟩
  else if 0xF1 ≤ b ∧ b ≤ 0xF3 then some ⟨0x80, 0xBF, 2⟩
  else if b = 0xF4 then some ⟨0x80, 0x8F, 2⟩
  else none

/-- How many of the bytes behind a first byte go on with its sequence. -/
def Lead.matching (l : Lead) : List UInt8 → Nat
  | [] => 0
  | b :: rest =>
    if l.low ≤ b ∧ b ≤ l.high then
      1 + ((rest.take l.more).takeWhile fun b => 0x80 ≤ b && b ≤ 0xBF).length
    else 0

/-- A fault: the bytes in front of it, and its length unless the bytes just end too early. -/
structure Fault where
  validUpTo : Nat
  length : Option Nat
  deriving DecidableEq, Repr

def Fault.message (f : Fault) : String :=
  match f.length with
  | some n =>
    "invalid utf-8 sequence of " ++ toString n ++ " bytes from index " ++ toString f.validUpTo
  | none => "incomplete utf-8 byte sequence from index " ++ toString f.validUpTo

/-- What a list of bytes starts with: a sequence of a number of bytes, or a fault of some length,
which is unknown where the bytes end inside a sequence. -/
inductive Start
  | sequence (length : Nat)
  | fault (length : Nat)
  | cutOff

def startOf (b : UInt8) (rest : List UInt8) : Start :=
  if b < 0x80 then .sequence 1
  else match lead? b with
    | none => .fault 1
    | some l =>
      let n := l.matching rest
      if n = l.more + 1 then .sequence (n + 1)
      else if (rest.drop n).isEmpty then .cutOff
      else .fault (n + 1)

/-- The first fault, where `skip` bytes are known to be well formed and `n` bytes are behind. -/
def faultFrom (n : Nat) : (skip : Nat) → List UInt8 → Option Fault
  | _, [] => none
  | skip + 1, _ :: rest => faultFrom (n + 1) skip rest
  | 0, b :: rest =>
    match startOf b rest with
    | .sequence length => faultFrom (n + 1) (length - 1) rest
    | .fault length => some ⟨n, some length⟩
    | .cutOff => some ⟨n, none⟩

def firstFault? (bytes : ByteArray) : Option Fault := faultFrom 0 0 bytes.toList

/-- The encoding of the replacement character. -/
def replacement : List UInt8 := [0xEF, 0xBF, 0xBD]

/-- Copies `copy` bytes, then drops `drop` bytes, then goes on with the next sequence or fault. -/
def repairFrom : (copy drop : Nat) → List UInt8 → List UInt8
  | _, _, [] => []
  | copy + 1, drop, b :: rest => b :: repairFrom copy drop rest
  | 0, drop + 1, _ :: rest => repairFrom 0 drop rest
  | 0, 0, b :: rest =>
    match startOf b rest with
    | .sequence length => b :: repairFrom (length - 1) 0 rest
    | .fault length => replacement ++ repairFrom 0 (length - 1) rest
    | .cutOff => replacement

/-- The text of some bytes, where each fault reads as a replacement character. -/
def lossy (bytes : ByteArray) : String :=
  match String.fromUTF8? bytes with
  | some text => text
  | none => (String.fromUTF8? ⟨(repairFrom 0 0 bytes.toList).toArray⟩).getD ""

end SourcePatch.Decoding
