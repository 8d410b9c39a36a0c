import ZoneSync.Decimal.Binary64

/-!
# Shortest decimals

The shortest decimal that is nearer to a given binary number than to any other, and of several such
decimals the nearest one. For one digit, two digits and so on, the two neighbours of the number on
the grid of that many digits are tried; the first grid that has a neighbour inside the interval of
reals rounding to the number gives the digits.
-/

namespace ZoneSync.Decimal

/-- The decimal `digits · 10^exponent`. -/
structure Digits where
  digits : List Char
  exponent : Int
  deriving DecidableEq, Repr

/-- Four times the magnitude, and the ends of the interval of reals that round to it, as numerators
over one denominator. -/
structure Interval where
  low : Nat
  value : Nat
  high : Nat
  denominator : Nat
  closed : Bool

namespace Binary64

/-- The reals that round to the number: half a step to both sides, a quarter below a power of
two. -/
def interval (x : Binary64) : Interval :=
  let scale := Nat.pow 2 x.exponent.toNat
  let below := if x.mantissa = Binary64.leadingBit && x.exponent != -1074 then 1 else 2
  { low := (4 * x.mantissa - below) * scale
    value := 4 * x.mantissa * scale
    high := (4 * x.mantissa + 2) * scale
    denominator := 4 * Nat.pow 2 (-x.exponent).toNat
    closed := x.mantissa % 2 = 0 }

end Binary64

namespace Interval

/-- Whether `count · 10^power` lies in the interval. -/
def containsDecimal (interval : Interval) (count : Nat) (power : Int) : Bool :=
  let decimal := count * Nat.pow 10 power.toNat * interval.denominator
  let low := interval.low * Nat.pow 10 (-power).toNat
  let high := interval.high * Nat.pow 10 (-power).toNat
  if interval.closed then low ≤ decimal && decimal ≤ high else low < decimal && decimal < high

/-- The neighbours of the value on the grid of step `10^power`, the nearer one first. -/
def neighbours (interval : Interval) (power : Int) : List Nat :=
  let numerator := interval.value * Nat.pow 10 (-power).toNat
  let denominator := interval.denominator * Nat.pow 10 power.toNat
  let count := numerator / denominator
  let twice := 2 * (numerator % denominator)
  if twice < denominator || (twice = denominator && count % 2 = 0) then [count, count + 1]
  else [count + 1, count]

/-- The first decimal of the grids of steps `10^power`, `10^(power - 1)` and so on. -/
def search (interval : Interval) : Nat → Int → Option (Nat × Int)
  | 0, _ => none
  | grids + 1, power =>
    match (interval.neighbours power).find? fun count => interval.containsDecimal count power with
    | some count => some (count, power)
    | none => interval.search grids (power - 1)

/-- The power of ten of the first digit of the value. -/
def leadingPower (interval : Interval) : Int :=
  if interval.denominator ≤ interval.value then
    ((Nat.toDigits 10 (interval.value / interval.denominator)).length : Int) - 1
  else -((Nat.toDigits 10 (interval.denominator / interval.value)).length : Int)

end Interval

/-- Moves the zeros at the end of a whole number into the power of ten; `limit` bounds their
number. -/
def dropZeros : Nat → Nat → Int → Nat × Int
  | 0, count, power => (count, power)
  | limit + 1, count, power =>
    if count % 10 = 0 && count != 0 then dropZeros limit (count / 10) (power + 1)
    else (count, power)

/-- The shortest decimal of the magnitude, without zeros at its end. -/
def shortest (x : Binary64) : Digits :=
  if x.mantissa = 0 then ⟨['0'], 0⟩
  else
    let interval := x.interval
    let found := (interval.search 20 (interval.leadingPower + 1)).getD (0, 0)
    let (count, power) := dropZeros 20 found.1 found.2
    ⟨Nat.toDigits 10 count, power⟩

namespace Digits

/-- Places of the decimal point, counted from the first digit. -/
def point (decimal : Digits) : Int :=
  decimal.exponent + decimal.digits.length

/-- Written without an exponent; a whole number gets `.0`. -/
def positional (decimal : Digits) : List Char :=
  if 0 ≤ decimal.exponent then
    decimal.digits ++ List.replicate decimal.exponent.toNat '0' ++ ['.', '0']
  else if 0 < decimal.point then
    decimal.digits.take decimal.point.toNat ++ ['.'] ++ decimal.digits.drop decimal.point.toNat
  else ['0', '.'] ++ List.replicate (-decimal.point).toNat '0' ++ decimal.digits

/-- Written with one digit before the point and an exponent, which always has a sign. -/
def scientific (decimal : Digits) : List Char :=
  let fraction := match decimal.digits with
    | first :: second :: rest => first :: '.' :: second :: rest
    | digits => digits
  let power := decimal.point - 1
  fraction ++ ['e', if power < 0 then '-' else '+'] ++ Nat.toDigits 10 power.natAbs

end Digits

namespace Binary64

def sign (x : Binary64) : List Char :=
  if x.negative then ['-'] else []

/-- The shortest decimal, positional between 10^-5 and 10^16 and scientific elsewhere. -/
def compact (x : Binary64) : List Char :=
  let decimal := shortest x
  let isPositional := x.mantissa = 0 || (-5 < decimal.point && decimal.point ≤ 16)
  x.sign ++ if isPositional then decimal.positional else decimal.scientific

end Binary64

end ZoneSync.Decimal
