/-!
# Base 64

Bytes written with sixty-four digits, three bytes in four digits. Blanks count for nothing. Equals
signs may fill up the last four digits, and may be left out.
-/

namespace ZoneSync.Text.Base64

/-- The value of a digit. -/
def digit? (c : Char) : Option Nat :=
  if 'A' ≤ c && c ≤ 'Z' then some (c.toNat - 'A'.toNat)
  else if 'a' ≤ c && c ≤ 'z' then some (c.toNat - 'a'.toNat + 26)
  else if c.isDigit then some (c.toNat - '0'.toNat + 52)
  else if c = '+' then some 62
  else if c = '/' then some 63
  else none

def isBlank (c : Char) : Bool :=
  c = ' ' || ('\t' ≤ c && c ≤ '\r')

/-- The bytes of digits, taken four at a time; one digit alone makes no byte. -/
def bytesOfDigits? : List Nat → Option (List UInt8)
  | a :: b :: c :: d :: rest => do
    let value := ((a * 64 + b) * 64 + c) * 64 + d
    let bytes := [value / 65536, value / 256 % 256, value % 256].map UInt8.ofNat
    return bytes ++ (← bytesOfDigits? rest)
  | [a, b, c] =>
    let value := (a * 64 + b) * 64 + c
    some ([value / 1024, value / 4 % 256].map UInt8.ofNat)
  | [a, b] => some [UInt8.ofNat ((a * 64 + b) / 16)]
  | [_] => none
  | [] => some []

/-- The bytes that a text stands for. -/
def decode? (text : List Char) : Option (List UInt8) := do
  let symbols := text.filter fun c => !isBlank c
  let digits := symbols.takeWhile (· != '=')
  let filling := symbols.drop digits.length
  if filling.all (· = '=') && (filling.isEmpty || (filling.length ≤ 2 && symbols.length % 4 = 0)) then
    bytesOfDigits? (← digits.mapM digit?)
  else none

end ZoneSync.Text.Base64
