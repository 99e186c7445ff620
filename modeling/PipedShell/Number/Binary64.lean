/-!
# Binary floating point of double precision

A decimal number with a fraction is held as the nearest number of 53 significant bits, a tie going
to the even one, before anything else is done with it.  Numbers beyond the range are infinite.

* `Binary64.round` is the nearest such number of a fraction, as `digits` times two to the power of
  `exponent`.
* `Binary64.ofDecimal?` is the number nearest to a decimal one, `Binary64.integerPart?` the integer
  part of a decimal number held that way.
-/

namespace PipedShell

/-- A number of the form `digits * 2 ^ exponent` that is not negative. -/
structure Binary64 where
  digits : Nat
  exponent : Int
  deriving DecidableEq, Repr

namespace Binary64

/-- The number of significant bits. -/
def precision : Nat := 53

/-- The exponent of the smallest positive number. -/
def minExponent : Int := -1074

/-- A quotient rounded to the nearest integer, a tie going to the even one. -/
def roundQuotient (n d : Nat) : Nat :=
  let q := n / d
  let r := n % d
  if 2 * r > d || (2 * r == d && q % 2 == 1) then q + 1 else q

/-- The fraction `n / d` in units of two to the power of `exponent`, as a new fraction. -/
def scale (n d : Nat) (exponent : Int) : Nat × Nat :=
  if exponent ≥ 0 then (n, d * Nat.pow 2 exponent.toNat)
  else (n * Nat.pow 2 (-exponent).toNat, d)

/-- The exponent at which the fraction `n / d` has 53 bits, or the least one. -/
def exponentFor (n d : Nat) : Int :=
  let guess : Int := (n.log2 : Int) - d.log2 - precision
  let (n', d') := scale n d guess
  max minExponent (if n' / d' < Nat.pow 2 precision then guess else guess + 1)

/-- The number nearest to the fraction `n / d`. -/
def round (n d : Nat) : Binary64 :=
  let exponent := exponentFor n d
  let (n', d') := scale n d exponent
  ⟨roundQuotient n' d', exponent⟩

/-- The integer part. -/
def floor (x : Binary64) : Nat :=
  if x.exponent ≥ 0 then x.digits * Nat.pow 2 x.exponent.toNat
  else x.digits / Nat.pow 2 (-x.exponent).toNat

/-- There is no fractional part. -/
def isWhole (x : Binary64) : Bool :=
  x.exponent ≥ 0 || x.digits % Nat.pow 2 (-x.exponent).toNat == 0

/-- Powers of ten beyond this one are out of range whatever they are multiplied with, up to the
number of digits of that. -/
def exponentBound : Int := 400

/-- The number nearest to `mantissa` times ten to the power of `exponent`; `none` when that is
infinite. -/
def ofDecimal? (mantissa : Nat) (exponent : Int) : Option Binary64 :=
  if mantissa == 0 || exponent < -(exponentBound + mantissa.log2) then some ⟨0, 0⟩
  else if exponent > exponentBound then none
  else
    let x := if exponent ≥ 0 then round (mantissa * Nat.pow 10 exponent.toNat) 1
      else round mantissa (Nat.pow 10 (-exponent).toNat)
    if x.floor < Nat.pow 2 1024 then some x else none

/-- The integer part, toward zero, of `mantissa` times ten to the power of `exponent` held in double
precision; `none` when that is infinite. -/
def integerPart? (mantissa exponent : Int) : Option Int :=
  (ofDecimal? mantissa.natAbs exponent).map fun x =>
    if mantissa < 0 then -(x.floor : Int) else x.floor

end Binary64

end PipedShell
