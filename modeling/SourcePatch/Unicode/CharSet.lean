/-!
# Sets of characters

A `CharSet` is a list of inclusive code point ranges in normal form: ascending, and with a gap
between neighbours. Set algebra goes through `CharSet.ofRanges`, which brings any list of ranges
into that form.

## Main definitions

* `CharSet.contains`: membership, which stops at the first range above the character.
* `CharSet.union`, `CharSet.complement` and the operations derived from them.
* `CharSet.whiteSpace`: the Unicode property `White_Space`.
-/

namespace SourcePatch

/-- A set of characters as ascending inclusive ranges of code points. -/
structure CharSet where
  ranges : List (Nat × Nat)
  deriving DecidableEq, Repr, Inhabited

namespace CharSet

/-- The largest code point. -/
def maxCode : Nat := 0x10FFFF

/-- Whether `n` lies in one of the ascending `ranges`. -/
def memRanges (n : Nat) : List (Nat × Nat) → Bool
  | [] => false
  | (lo, hi) :: rest => if n < lo then false else if n ≤ hi then true else memRanges n rest

/-- Whether the code point `n` belongs to the set. -/
def containsCode (s : CharSet) (n : Nat) : Bool := memRanges n s.ranges

/-- Whether `c` belongs to the set. -/
def contains (s : CharSet) (c : Char) : Bool := s.containsCode c.toNat

/-- Joins touching neighbours of a list that is sorted by lower end. -/
def coalesce (lo hi : Nat) : List (Nat × Nat) → List (Nat × Nat)
  | [] => [(lo, hi)]
  | (lo', hi') :: rest =>
    if lo' ≤ hi + 1 then coalesce lo (max hi hi') rest else (lo, hi) :: coalesce lo' hi' rest

/-- The set of all code points in some of `ranges`, which may overlap and come in any order. -/
def ofRanges (ranges : List (Nat × Nat)) : CharSet :=
  match ranges.mergeSort (fun a b => a.1 ≤ b.1) with
  | [] => ⟨[]⟩
  | (lo, hi) :: rest => ⟨coalesce lo hi rest⟩

/-- The gaps of ascending `ranges` from the code point `start` on. -/
def gaps (start : Nat) : List (Nat × Nat) → List (Nat × Nat)
  | [] => if start ≤ maxCode then [(start, maxCode)] else []
  | (lo, hi) :: rest =>
    if start < lo then (start, lo - 1) :: gaps (hi + 1) rest else gaps (hi + 1) rest

def empty : CharSet := ⟨[]⟩

/-- Every code point. -/
def full : CharSet := ⟨[(0, maxCode)]⟩

/-- The set of the code points from `lo` to `hi`. -/
def range (lo hi : Nat) : CharSet := ⟨[(lo, hi)]⟩

def singleton (c : Char) : CharSet := range c.toNat c.toNat

def union (s t : CharSet) : CharSet := ofRanges (s.ranges ++ t.ranges)

def complement (s : CharSet) : CharSet := ⟨gaps 0 s.ranges⟩

def intersection (s t : CharSet) : CharSet := (s.complement.union t.complement).complement

def difference (s t : CharSet) : CharSet := (s.complement.union t).complement

def symmetricDifference (s t : CharSet) : CharSet := (s.difference t).union (t.difference s)

def unions (sets : List CharSet) : CharSet := ofRanges (sets.flatMap (·.ranges))

/-- Whether every member is below U+0080. -/
def isAscii (s : CharSet) : Bool := s.ranges.all (fun r => r.2 < 0x80)

/-- The Unicode property `White_Space`. -/
def whiteSpace : CharSet :=
  ⟨[(0x9, 0xD), (0x20, 0x20), (0x85, 0x85), (0xA0, 0xA0), (0x1680, 0x1680), (0x2000, 0x200A),
    (0x2028, 0x2029), (0x202F, 0x202F), (0x205F, 0x205F), (0x3000, 0x3000)]⟩

theorem contains_singleton {c d : Char} : (singleton c).contains d = true ↔ d = c := by
  simp only [contains, containsCode, singleton, range, memRanges]
  rw [Char.ext_iff, ← UInt32.toNat_inj]
  simp only [Char.toNat]
  grind

theorem contains_full (c : Char) : full.contains c = true := by
  have h := c.valid
  simp only [contains, containsCode, full, memRanges, maxCode, Char.toNat]
  rcases h with h | ⟨_, h⟩ <;> grind

end CharSet

end SourcePatch
