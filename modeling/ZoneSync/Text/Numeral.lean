import ZoneSync.Text.Basic

/-!
# Numerals

Whole numbers are written in decimal digits without leading zeros, and read from one or more
decimal digits with an optional plus sign in front. Only the ASCII digits count, and a value at or
above the bound is refused.

Large tables of characters are texts of words, in which code points are written with hexadecimal
digits. A word that ends with a colon says what the words after it are about.
-/

namespace ZoneSync.Text

/-! ### Decimal digits -/

/-- The value of a row of decimal digits. -/
def digitsValue (digits : List Char) : Nat :=
  digits.foldl (fun value c => 10 * value + (c.toNat - '0'.toNat)) 0

/-- Reads one or more decimal digits. -/
def digits? (text : List Char) : Option Nat :=
  if text.isEmpty || !text.all Char.isDigit then none else some (digitsValue text)

/-- Reads a numeral below `bound`; a plus sign may stand in front. -/
def numeral? (bound : Nat) (text : List Char) : Option Nat :=
  let digits := match text with
    | '+' :: rest => rest
    | _ => text
  (digits? digits).filter (· < bound)

/-! ### Tables of code points -/

/-- The value of hexadecimal digits in lower case; other characters count for nothing. -/
def codeValue (digits : List Char) : Nat :=
  digits.foldl
    (fun value c =>
      if c.isDigit then 16 * value + (c.toNat - '0'.toNat)
      else if 'a' ≤ c && c ≤ 'f' then 16 * value + (c.toNat - 'a'.toNat + 10)
      else value)
    0

/-- The code points in a word, between which there are marks. -/
def codes (mark : Char) (word : List Char) : List Nat :=
  (fields mark word).map codeValue

/-- The words of a table. -/
def tableWords (table : String) : List (List Char) :=
  (table.toList.splitOnP fun c => c = ' ' || c = '\n').filter fun word => !word.isEmpty

end ZoneSync.Text
