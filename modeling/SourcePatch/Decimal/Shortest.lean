import SourcePatch.Decimal.Binary64

/-!
# Shortest decimals

A binary number is written with as few digits as tell it from all others: on the grids of one, two
and more digits, the first grid is taken that has a point which rounds to the number, and on it the
point nearest to the number.
-/

namespace SourcePatch

/-- The number `digits * 10 ^ exponent`. -/
structure Decimal where
  digits : Nat
  exponent : Int
  deriving DecidableEq, Repr

namespace Binary64

/-- Whether `c * 10 ^ p ≤ l * 2 ^ s`. -/
def decimalLe (c : Nat) (p : Int) (l : Nat) (s : Int) : Bool :=
  c * power 10 p * power 2 (-s) ≤ l * power 2 s * power 10 (-p)

/-- Whether `l * 2 ^ s ≤ c * 10 ^ p`. -/
def binaryLe (l : Nat) (s : Int) (c : Nat) (p : Int) : Bool :=
  l * power 2 s * power 10 (-p) ≤ c * power 10 p * power 2 (-s)

/-- The numerators, over a quarter of the last place, of the numbers between which all is rounded to
`x`. Below a power of two the numbers lie closer together. -/
def bounds (x : Binary64) : Nat × Nat :=
  let low := if x.mantissa = leastFull ∧ leastExponent < x.exponent then 1 else 2
  (4 * x.mantissa - low, 4 * x.mantissa + 2)

/-- Whether `c * 10 ^ p` is rounded to `x`; the bounds are if the mantissa is even. -/
def isRoundedFrom (x : Binary64) (c : Nat) (p : Int) : Bool :=
  let s := x.exponent - 2
  let (low, high) := x.bounds
  if x.mantissa % 2 = 0 then binaryLe low s c p && decimalLe c p high s
  else !decimalLe c p low s && !binaryLe high s c p

/-- The greatest `e` with `10 ^ e ≤ x`, for `x` other than zero. -/
def magnitude (x : Binary64) : Int :=
  let guess : Int := (Nat.log2 x.mantissa + x.exponent) * 30103 / 100000
  let reaches (e : Int) := decimalLe 1 e x.mantissa x.exponent
  ([guess + 2, guess + 1, guess].find? reaches).getD (guess - 1)

/-- The points of the grid of `10 ^ p` on either side of `x`. -/
def neighbours (x : Binary64) (p : Int) : Nat × Nat :=
  let c := x.mantissa * power 2 x.exponent * power 10 (-p)
    / (power 10 p * power 2 (-x.exponent))
  (c, c + 1)

/-- Whether `c * 10 ^ p`, which is not above `x`, is nearer to `x` than the next point. -/
def isLowerNearer (x : Binary64) (c : Nat) (p : Int) : Bool :=
  binaryLe (2 * x.mantissa) x.exponent (2 * c + 1) p

/-- `c * 10 ^ p`, where `c` may be ten. -/
def decimalOf (c : Nat) (p : Int) : Decimal := if c = 10 then ⟨1, p + 1⟩ else ⟨c, p⟩

/-- The point of the grid of `10 ^ p` that is nearest to `x` among those that are rounded to it. -/
def pointOn? (x : Binary64) (p : Int) : Option Decimal :=
  let (c, c') := x.neighbours p
  match x.isRoundedFrom c p, x.isRoundedFrom c' p with
  | true, true => some (decimalOf (if x.isLowerNearer c p then c else c') p)
  | true, false => some (decimalOf c p)
  | false, true => some (decimalOf c' p)
  | false, false => none

/-- The shortest decimal that is rounded to `x`; 17 digits are always enough. -/
def shortest (x : Binary64) : Decimal :=
  if x.mantissa = 0 then ⟨0, 0⟩
  else
    let e := x.magnitude
    ((List.range 17).findSome? fun n : Nat => x.pointOn? (e - (n : Int))).getD ⟨0, 0⟩

end Binary64

/-- A decimal without an exponent, and with at least one place behind the point. -/
def Decimal.positional (d : Decimal) : String :=
  let digits := Nat.toDigits 10 d.digits
  if 0 ≤ d.exponent then
    String.ofList (digits ++ List.replicate d.exponent.toNat '0' ++ ['.', '0'])
  else
    let places := (-d.exponent).toNat
    let padded := List.replicate (places + 1 - digits.length) '0' ++ digits
    let whole := padded.length - places
    String.ofList (padded.take whole ++ '.' :: padded.drop whole)

end SourcePatch
