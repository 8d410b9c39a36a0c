/-!
# Binary floating-point numbers of 64 bits

A finite number is a sign, a mantissa below 2^53 and a power of two. Every operation is an exact
ratio of natural numbers that is rounded once, to the nearest number and to the even mantissa in a
tie.
-/

namespace ZoneSync.Decimal

/-- The finite number `±mantissa · 2^exponent`. -/
structure Binary64 where
  negative : Bool
  mantissa : Nat
  exponent : Int
  deriving DecidableEq, Repr

/-- The quotient rounded to the nearest whole number, and to the even one in a tie. -/
def roundedQuotient (numerator denominator : Nat) : Nat :=
  let quotient := numerator / denominator
  let twice := 2 * (numerator % denominator)
  if twice < denominator then quotient
  else if denominator < twice then quotient + 1
  else quotient + quotient % 2

namespace Binary64

def zero : Binary64 :=
  ⟨false, 0, -1074⟩

/-- The greatest power of two below 2^53. -/
def leadingBit : Nat :=
  Nat.pow 2 52

/-- The exponent that a quotient gets, before rounding: the mantissa has 53 bits, or the exponent is
the least one. -/
def quotientExponent (numerator denominator : Nat) : Int :=
  let distance : Int := numerator.log2 - denominator.log2
  let reached :=
    if 0 ≤ distance then denominator * Nat.pow 2 distance.toNat ≤ numerator
    else denominator ≤ numerator * Nat.pow 2 (-distance).toNat
  max (-1074) ((if reached then distance else distance - 1) - 52)

/-- The quotient of two natural numbers, rounded; none if it is too large. -/
def ofQuotient? (negative : Bool) (numerator denominator : Nat) : Option Binary64 :=
  if numerator = 0 then some ⟨negative, 0, -1074⟩
  else
    let exponent := quotientExponent numerator denominator
    let mantissa := roundedQuotient (numerator * Nat.pow 2 (-exponent).toNat)
      (denominator * Nat.pow 2 exponent.toNat)
    let rounded : Binary64 :=
      if mantissa = 2 * leadingBit then ⟨negative, leadingBit, exponent + 1⟩
      else ⟨negative, mantissa, exponent⟩
    if 971 < rounded.exponent then none else some rounded

/-- The magnitude as a quotient of natural numbers. -/
def quotient (x : Binary64) : Nat × Nat :=
  (x.mantissa * Nat.pow 2 x.exponent.toNat, Nat.pow 2 (-x.exponent).toNat)

/-- The product of two numbers, rounded; its sign is that of `x`. -/
def mul? (x y : Binary64) : Option Binary64 :=
  ofQuotient? x.negative (x.quotient.1 * y.quotient.1) (x.quotient.2 * y.quotient.2)

/-- The ratio of two numbers, rounded; its sign is that of `x`. -/
def div? (x y : Binary64) : Option Binary64 :=
  ofQuotient? x.negative (x.quotient.1 * y.quotient.2) (x.quotient.2 * y.quotient.1)

/-- A power of ten, rounded. -/
def powerOfTen? (power : Nat) : Option Binary64 :=
  ofQuotient? false (Nat.pow 10 power) 1

/-- `significand · 10^exponent` in at most two roundings, one for the significand and one for each
scaling by a power of ten that is itself rounded. Too large a number gives none, too small a one
zero. -/
def ofDecimal? (negative : Bool) (significand : Nat) (exponent : Int) : Option Binary64 := do
  let whole ← ofQuotient? negative significand 1
  if whole.mantissa = 0 then return whole
  else if 308 < exponent then none
  else if 0 ≤ exponent then whole.mul? (← powerOfTen? exponent.toNat)
  else if -308 ≤ exponent then whole.div? (← powerOfTen? (-exponent).toNat)
  else
    let scaled ← whole.div? (← powerOfTen? 308)
    let rest := -exponent - 308
    if 308 < rest then return { zero with negative }
    else scaled.div? (← powerOfTen? rest.toNat)

end Binary64

/-- Whether `significand · 10^exponent`, rounded, is a finite number. -/
def isFinite (significand : Nat) (exponent : Int) : Bool :=
  let size : Int := (Nat.toDigits 10 significand).length + exponent
  if significand = 0 || size < 300 then true
  else if 400 < size then false
  else
    (Binary64.ofQuotient? false (significand * Nat.pow 10 exponent.toNat)
      (Nat.pow 10 (-exponent).toNat)).isSome

end ZoneSync.Decimal
