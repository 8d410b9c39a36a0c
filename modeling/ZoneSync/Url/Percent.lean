import ZoneSync.Text.Numeral

/-!
# Percent encoding

A character outside of ASCII, a control character, or a character of a given set is written as the
bytes of its UTF-8 form, each as a percent sign and two hexadecimal digits.
-/

namespace ZoneSync.Url

/-- An upper-case hexadecimal digit. -/
def hexDigit (value : Nat) : Char :=
  (Nat.digitChar value).toUpper

def percentByte (byte : UInt8) : List Char :=
  ['%', hexDigit (byte.toNat / 16), hexDigit (byte.toNat % 16)]

def percentChar (c : Char) : List Char :=
  (String.singleton c).toUTF8.toList.flatMap percentByte

/-- Encodes what is not plain ASCII, and the characters of `reserved`. -/
def percentEncode (reserved text : List Char) : List Char :=
  text.flatMap fun c =>
    if c.toNat < 0x20 || 0x7f ≤ c.toNat || reserved.contains c then percentChar c else [c]

def fragmentReserved : List Char :=
  [' ', '"', '<', '>', '\x60']

def pathReserved : List Char :=
  fragmentReserved ++ ['#', '?', '\x7b', '\x7d']

def userReserved : List Char :=
  pathReserved ++ ['/', ':', ';', '=', '@', '[', '\\', ']', '^', '|']

def queryReserved : List Char :=
  [' ', '"', '#', '<', '>']

def specialQueryReserved : List Char :=
  '\x27' :: queryReserved

/-- The value of a hexadecimal digit. -/
def hexValue? (c : Char) : Option Nat :=
  if c.isDigit then some (c.toNat - '0'.toNat)
  else if 'a' ≤ c && c ≤ 'f' then some (c.toNat - 'a'.toNat + 10)
  else if 'A' ≤ c && c ≤ 'F' then some (c.toNat - 'A'.toNat + 10)
  else none

/-- The bytes of a text, with encoded bytes decoded. -/
def percentDecode : List Char → List UInt8
  | [] => []
  | '%' :: high :: low :: rest =>
    match hexValue? high, hexValue? low with
    | some h, some l => UInt8.ofNat (16 * h + l) :: percentDecode rest
    | _, _ => '%'.toNat.toUInt8 :: percentDecode (high :: low :: rest)
  | c :: rest => (String.singleton c).toUTF8.toList ++ percentDecode rest

end ZoneSync.Url
