import ZoneSync.Json.Form
import ZoneSync.Text.Numeral

/-!
# Numbers in JSON texts

A number without fraction and exponent is a whole number if it fits 64 bits: from -2^63 below zero,
up to 2^64 - 1 from zero on. Every other number is a floating-point number, and so is minus zero.
Only as many digits count as fit 64 bits.
-/

namespace ZoneSync.Json.Number

/-- The parts of a number as it is written. -/
structure Numeral where
  negative : Bool
  whole : List Char
  fraction : Option (List Char)
  exponent : Option (Bool × List Char)

def digitValue (c : Char) : Nat :=
  c.toNat - '0'.toNat

/-- Appends digits to a significand as long as it stays below 2^64. The second part counts the
digits that were appended, the third those that were left. -/
def takeDigits (significand : Nat) : List Char → Nat × Nat × Nat
  | [] => (significand, 0, 0)
  | c :: rest =>
    let next := 10 * significand + digitValue c
    if next < UInt64.size then
      let (result, taken, left) := takeDigits next rest
      (result, taken + 1, left)
    else (significand, 0, rest.length + 1)

/-- The exponent as a number; one of more than 31 bits is replaced by one that is as good. -/
def exponentValue (exponent : Option (Bool × List Char)) : Int :=
  match exponent with
  | none => 0
  | some (negative, digits) =>
    let value := min (Text.digitsValue digits) 1000000000000
    if negative then -value else value

/-- The number as a floating-point number. -/
def real? (numeral : Numeral) : Option Json :=
  let (whole, _, dropped) := takeDigits 0 numeral.whole
  let (significand, places, _) := takeDigits whole (numeral.fraction.getD [])
  let exponent : Int := dropped - places + exponentValue numeral.exponent
  (Decimal.Binary64.ofDecimal? numeral.negative significand exponent).map .real

def value? (numeral : Numeral) : Option Json :=
  if numeral.fraction.isSome || numeral.exponent.isSome then real? numeral
  else
    let value := Text.digitsValue numeral.whole
    if numeral.negative then
      if 0 < value && value ≤ UInt64.size / 2 then some (.int (-value)) else real? numeral
    else if value < UInt64.size then some (.int value)
    else real? numeral

/-- One or more digits at the beginning of a text. -/
def digits? (text : List Char) : Option (List Char × List Char) :=
  let digits := text.takeWhile Char.isDigit
  if digits.isEmpty then none else some (digits, text.dropWhile Char.isDigit)

def fraction? : List Char → Option (Option (List Char) × List Char)
  | '.' :: rest => (digits? rest).map fun (digits, rest) => (some digits, rest)
  | text => some (none, text)

def exponent? : List Char → Option (Option (Bool × List Char) × List Char)
  | c :: rest =>
    if c = 'e' || c = 'E' then
      let (negative, rest) := match rest with
        | '+' :: rest => (false, rest)
        | '-' :: rest => (true, rest)
        | rest => (false, rest)
      (digits? rest).map fun (digits, rest) => (some (negative, digits), rest)
    else some (none, c :: rest)
  | [] => some (none, [])

/-- Reads a number; a whole part of several digits does not begin with a zero. -/
def parse? (text : List Char) : Option (Form × List Char) := do
  let (negative, text) := match text with
    | '-' :: rest => (true, rest)
    | text => (false, text)
  let (whole, text) ← digits? text
  if whole.head? = some '0' && 1 < whole.length then none
  else
    let (fraction, text) ← fraction? text
    let (exponent, text) ← exponent? text
    return (.number (value? ⟨negative, whole, fraction, exponent⟩), text)

end ZoneSync.Json.Number
