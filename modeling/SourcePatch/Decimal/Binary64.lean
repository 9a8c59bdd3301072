/-!
# Binary floating point numbers

A number that is not negative has the form `m · 2 ^ q` with 53 bits for `m`, and a least exponent.
A decimal number is rounded to the nearest of them, and to the even one if two are equally near.
-/

namespace SourcePatch

/-- The number `mantissa * 2 ^ exponent`. The mantissa has 53 bits, or fewer at the least
exponent. -/
structure Binary64 where
  mantissa : Nat
  exponent : Int
  deriving DecidableEq, Repr

namespace Binary64

/-- A power of `base`, or 1 if the exponent is negative. -/
def power (base : Nat) (e : Int) : Nat := Nat.pow base e.toNat

/-- The least mantissa of 53 bits. -/
def leastFull : Nat := 1 <<< 52

def leastExponent : Int := -1074

def greatestExponent : Int := 971

/-- `n / d` rounded to the nearest whole number, a half to the even neighbour. -/
def roundQuotient (n d : Nat) : Nat :=
  let q := n / d
  let r := 2 * (n % d)
  if r < d ∨ (r = d ∧ q % 2 = 0) then q else q + 1

/-- The number nearest to `n / d`, unless that is too large. -/
def ofQuotient (n d : Nat) : Option Binary64 :=
  if n = 0 then some ⟨0, leastExponent⟩
  else
    let scaled (q : Int) : Nat × Nat := (n * power 2 (-q), d * power 2 q)
    let q : Int := Nat.log2 n - Nat.log2 d - 52
    let q := if (scaled q).1 / (scaled q).2 < leastFull then q - 1 else q
    let q := max q leastExponent
    let m := roundQuotient (scaled q).1 (scaled q).2
    let (m, q) := if m = 2 * leastFull then (leastFull, q + 1) else (m, q)
    if greatestExponent < q then none else some ⟨m, q⟩

/-- The number nearest to `m * 10 ^ e`, unless that is too large. Far below the least number the
result is zero. -/
def ofDecimal (m : Nat) (e : Int) : Option Binary64 :=
  let magnitude := e + (Nat.toDigits 10 m).length
  if m = 0 ∨ magnitude < -400 then some ⟨0, leastExponent⟩
  else if 400 < magnitude then none
  else ofQuotient (m * power 10 e) (power 10 (-e))

end Binary64

end SourcePatch
