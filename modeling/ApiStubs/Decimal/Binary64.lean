/-!
# Binary floating point numbers of 64 bits

`Binary64` holds the values of the 64-bit binary format: not a number, the two
infinities, and the finite values `± m · 2 ^ q` with `m < 2 ^ 53` and
`-1074 ≤ q ≤ 971`. The representation is kept normal: `m` is at least `2 ^ 52`
wherever `q` may be lowered, so two finite values are equal iff their
representations are, the two zeros apart.

* `Binary64.ofRatio?` rounds a quotient of natural numbers to the nearest value,
  a tie going to the even mantissa. It fails iff the quotient is too large.
* `Binary64.ofDecimal?` does the same for a decimal `m · 10 ^ e`.
-/

namespace ApiStubs

/-- A value of the 64-bit binary format. -/
inductive Binary64 where
  | nan
  | infinity (negative : Bool)
  | finite (negative : Bool) (mantissa : Nat) (exponent : Int)
  deriving DecidableEq, Repr

namespace Binary64

/-- The lowest exponent of a finite value. -/
def minExponent : Int := -1074

/-- The number of mantissas, `2 ^ 53`. -/
def mantissaEnd : Nat := 9007199254740992

/-- The lowest mantissa that needs all 53 binary digits, `2 ^ 52`. -/
def topMantissa : Nat := 4503599627370496

/-- The highest exponent of a finite value. -/
def maxExponent : Int := 971

/-- The zero of a sign. -/
def zero (negative : Bool) : Binary64 := finite negative 0 minExponent

/-- Equality of values: not a number equals itself, and the two zeros are equal. -/
def same : Binary64 → Binary64 → Bool
  | finite _ 0 _, finite _ 0 _ => true
  | x, y => decide (x = y)

/-- The quotient of two natural numbers, rounded to the nearest, ties to even. -/
def roundDiv (num den : Nat) : Nat :=
  let floor := num / den
  let rest := num % den
  if 2 * rest < den then floor
  else if den < 2 * rest then floor + 1
  else floor + floor % 2

/-- Two natural numbers whose quotient is `num / (den · 2 ^ q)`. -/
def scale (num den : Nat) (q : Int) : Nat × Nat :=
  if 0 ≤ q then (num, den * Nat.pow 2 q.toNat) else (num * Nat.pow 2 (-q).toNat, den)

/-- The exponent at which the mantissa of `num / den` has 53 binary digits, or the
lowest one where that would be lower still. -/
def exponentOf (num den : Nat) : Int :=
  let guess : Int := (num.log2 : Int) - (den.log2 : Int) - 52
  let scaled := scale num den guess
  let q := if scaled.1 < scaled.2 * topMantissa then guess - 1 else guess
  max q minExponent

/-- The value nearest to `num / den`, ties to the even mantissa. There is none where
the quotient lies beyond the finite values. -/
def ofRatio? (negative : Bool) (num den : Nat) : Option Binary64 :=
  if num = 0 then some (zero negative)
  else
    let q := exponentOf num den
    let scaled := scale num den q
    let m := roundDiv scaled.1 scaled.2
    -- Rounding up can give a mantissa of 54 digits, which is a power of two.
    let normal := if m = mantissaEnd then (topMantissa, q + 1) else (m, q)
    if maxExponent < normal.2 then none
    else some (finite negative normal.1 normal.2)

/-- The number of decimal digits of a natural number, none for zero. -/
def digitCount (n : Nat) : Nat :=
  if n = 0 then 0 else (Nat.toDigits 10 n).length

/-- The value nearest to `m · 10 ^ e`, ties to the even mantissa. Exponents far out
are settled by the number of digits alone. -/
def ofDecimal? (negative : Bool) (m : Nat) (e : Int) : Option Binary64 :=
  let digits : Int := digitCount m + e
  if m = 0 ∨ digits < -400 then some (zero negative)
  else if 400 < digits then none
  else if 0 ≤ e then ofRatio? negative (m * Nat.pow 10 e.toNat) 1
  else ofRatio? negative m (Nat.pow 10 (-e).toNat)

end Binary64
end ApiStubs
