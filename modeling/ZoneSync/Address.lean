import ZoneSync.Text.Basic
import ZoneSync.Text.Numeral

/-!
# Internet addresses

Which texts are IPv4 and IPv6 addresses. Only the form is checked, the address itself is never
needed: a record keeps its destination as it was written.
-/

namespace ZoneSync.Address

open Text

/-- A part of an IPv4 address: one to three digits, at most 255, without a superfluous zero. -/
def isOctet (text : List Char) : Bool :=
  text.length ≤ 3 && (digits? text).any (· ≤ 255) && (text.length = 1 || text.head? != some '0')

/-- Four octets between dots. -/
def isIPv4 (text : List Char) : Bool :=
  (fields '.' text).length = 4 && (fields '.' text).all isOctet

def isHexDigit (c : Char) : Bool :=
  c.isDigit || ('a' ≤ c && c ≤ 'f') || ('A' ≤ c && c ≤ 'F')

/-- A part of an IPv6 address: one to four hexadecimal digits. -/
def isGroup (text : List Char) : Bool :=
  !text.isEmpty && text.length ≤ 4 && text.all isHexDigit

/-- How many groups the parts stand for; the last part may be an IPv4 address, which is two. -/
def groupCount? : List (List Char) → Option Nat
  | [] => some 0
  | [last] => if isIPv4 last then some 2 else if isGroup last then some 1 else none
  | part :: rest => if isGroup part then (groupCount? rest).map (· + 1) else none

/-- The texts before and after the first double colon. -/
def cutAtDoubleColon? : List Char → Option (List Char × List Char)
  | ':' :: ':' :: rest => some ([], rest)
  | [] => none
  | c :: rest => (cutAtDoubleColon? rest).map fun (before, after) => (c :: before, after)

/-- The parts between colons, of which an empty text has none. -/
def parts (text : List Char) : List (List Char) :=
  if text.isEmpty then [] else fields ':' text

/-- Eight groups between colons. A double colon, used once, stands for one or more groups of zeros,
and no IPv4 part may precede it. -/
def isIPv6 (text : List Char) : Bool :=
  match cutAtDoubleColon? text with
  | none => groupCount? (fields ':' text) == some 8
  | some (before, after) =>
    (parts before).all isGroup &&
      (groupCount? (parts after)).any fun count => (parts before).length + count ≤ 7

end ZoneSync.Address
