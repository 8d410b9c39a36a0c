import ZoneSync.Address
import ZoneSync.Decimal.Binary64
import ZoneSync.Text.Numeral

/-!
# Words that mean something else than themselves

A reader of YAML takes an unquoted `null`, `true` or `12` for something else than a string. A string
that looks like that has to be quoted.
-/

namespace ZoneSync.Yaml

def nullWords : List String :=
  ["", "~", "null", "Null", "NULL"]

def boolWords : List String :=
  ["true", "True", "TRUE", "false", "False", "FALSE"]

def specialReals : List String :=
  [".inf", ".Inf", ".INF", "+.inf", "+.Inf", "+.INF", "-.inf", "-.Inf", "-.INF", ".nan", ".NaN",
    ".NAN"]

def isSign (c : Char) : Bool :=
  c = '+' || c = '-'

/-- The value of a digit in a radix of at most 16. -/
def radixDigit? (radix : Nat) (c : Char) : Option Nat :=
  if !Address.isHexDigit c then none
  else
    let value :=
      if c.isDigit then c.toNat - '0'.toNat else c.toLower.toNat - 'a'.toNat + 10
    if value < radix then some value else none

/-- Reads one or more digits in the given radix. -/
def radixNumeral? (radix : Nat) (text : List Char) : Option Nat :=
  if text.isEmpty then none
  else
    text.foldlM (fun value c => (radixDigit? radix c).map (radix * value + ·)) 0

def radixOf? : Char → Option Nat
  | 'x' => some 16
  | 'o' => some 8
  | 'b' => some 2
  | _ => none

/-- How many numbers of 128 bits there are. -/
def wideSize : Nat := UInt64.size * UInt64.size

/-- A number of 128 bits with a radix mark, such as `0x1f`, `+0o17` or `-0b1`. -/
def isMarkedInteger (text : List Char) : Bool :=
  let (negative, rest) := match text with
    | '-' :: rest => (true, rest)
    | '+' :: rest => (false, rest)
    | rest => (false, rest)
  match rest with
  | '0' :: mark :: digits =>
    match (radixOf? mark).bind fun radix => radixNumeral? radix digits with
    | some value => if negative then 2 * value ≤ wideSize else value < wideSize
    | none => false
  | _ => false

/-- Zeros in front of more digits, which is no number to a reader. -/
def isZeroPadded (text : List Char) : Bool :=
  let digits := match text with
    | c :: rest => if isSign c then rest else text
    | [] => []
  1 < digits.length && digits.head? == some '0' && digits.all Char.isDigit

/-- An exponent with its sign; an absent one counts as zero. -/
def exponent? : List Char → Option Int
  | [] => some 0
  | c :: rest =>
    if c = 'e' || c = 'E' then
      match rest with
      | '-' :: digits => (Text.digits? digits).map fun value => -(value : Int)
      | '+' :: digits => (Text.digits? digits).map fun value => (value : Int)
      | digits => (Text.digits? digits).map fun value => (value : Int)
    else none

/-- A decimal number that is not too large: digits, a point among or beside them, an exponent. -/
def isReal (text : List Char) : Bool :=
  let unsigned := match text with
    | c :: rest => if isSign c then rest else text
    | [] => []
  let whole := unsigned.takeWhile Char.isDigit
  let (fraction, rest) := match unsigned.dropWhile Char.isDigit with
    | '.' :: rest => (rest.takeWhile Char.isDigit, rest.dropWhile Char.isDigit)
    | rest => ([], rest)
  match exponent? rest with
  | some exponent =>
    !(whole ++ fraction).isEmpty &&
      Decimal.isFinite (Text.digitsValue (whole ++ fraction)) (exponent - fraction.length)
  | none => false

/-- Whether the text, unquoted, is read as something else than a string. -/
def isAmbiguous (text : String) : Bool :=
  let chars := text.toList
  text ∈ nullWords || text ∈ boolWords || text ∈ specialReals || isMarkedInteger chars ||
    isZeroPadded chars || isReal chars

end ZoneSync.Yaml
