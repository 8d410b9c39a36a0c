import ZoneSync.Address
import ZoneSync.Url.Domain
import ZoneSync.Url.Percent

/-!
# Hosts of URLs

A host is a domain name in its ASCII form, an IPv4 address, or an IPv6 address in its shortest form.
Addresses are recognised in any of the notations that may stand for them.
-/

namespace ZoneSync

/-- Why a text is no URL. -/
inductive UrlError where
  | emptyHost
  | invalidDomain
  | invalidPort
  | invalidIPv4
  | invalidIPv6
  | forbiddenHostCharacter
  | withoutScheme
  deriving DecidableEq, Repr

def UrlError.message : UrlError → String
  | emptyHost => "empty host"
  | invalidDomain => "invalid international domain name"
  | invalidPort => "invalid port number"
  | invalidIPv4 => "invalid IPv4 address"
  | invalidIPv6 => "invalid IPv6 address"
  | forbiddenHostCharacter => "invalid domain character"
  | withoutScheme => "relative URL without a base"

namespace Url

open Text

/-! ### IPv4 addresses -/

/-- The radix of a part, and its digits without the mark of the radix. -/
def partRadix (part : List Char) : Nat × List Char :=
  match part with
  | '0' :: 'x' :: digits => (16, digits)
  | '0' :: 'X' :: digits => (16, digits)
  | '0' :: c :: digits => (8, c :: digits)
  | digits => (10, digits)

/-- The value of a part; no digits after a mark mean zero. -/
def partValue? (part : List Char) : Option Nat :=
  if part.isEmpty then none
  else
    let (radix, digits) := partRadix part
    (digits.mapM fun c => (hexValue? c).filter (· < radix)).map fun values =>
      values.foldl (fun value digit => radix * value + digit) 0

/-- The parts of a domain without an empty one at its end. -/
def domainParts (domain : List Char) : List (List Char) :=
  let parts := fields '.' domain
  if 1 < parts.length && parts.getLast? == some [] then parts.dropLast else parts

/-- A domain whose last part is a number has to be an IPv4 address. -/
def endsInNumber (domain : List Char) : Bool :=
  match (domainParts domain).getLast? with
  | none => false
  | some last => (!last.isEmpty && last.all Char.isDigit) || (partValue? last).isSome

/-- Up to four numbers, the last of which fills the bytes that are left. -/
def parseIPv4? (domain : List Char) : Option Nat := do
  let parts := domainParts domain
  if 4 < parts.length then none
  else
    let values ← parts.mapM partValue?
    let last ← values.getLast?
    let before := values.dropLast
    if before.any (255 < ·) || Nat.pow 256 (4 - before.length) ≤ last then none
    else
      let high := before.foldl (fun value byte => 256 * value + byte) 0
      return high * Nat.pow 256 (4 - before.length) + last

def renderIPv4 (address : Nat) : List Char :=
  let byte := fun place => toString (address / Nat.pow 256 place % 256)
  (".".intercalate [byte 3, byte 2, byte 1, byte 0]).toList

/-! ### IPv6 addresses -/

def hexNumber (digits : List Char) : Nat :=
  digits.foldl (fun value c => 16 * value + (hexValue? c).getD 0) 0

/-- The groups of the parts of an address that is known to be correct. -/
def groupsOfParts (parts : List (List Char)) : List Nat :=
  parts.flatMap fun part =>
    if Address.isIPv4 part then
      let bytes := (fields '.' part).map digitsValue
      let value := bytes.foldl (fun value byte => 256 * value + byte) 0
      [value / 65536, value % 65536]
    else [hexNumber part]

def groupsIPv6 (text : List Char) : List Nat :=
  match Address.cutAtDoubleColon? text with
  | none => groupsOfParts (fields ':' text)
  | some (before, after) =>
    let head := groupsOfParts (Address.parts before)
    let tail := groupsOfParts (Address.parts after)
    head ++ List.replicate (8 - head.length - tail.length) 0 ++ tail

/-- The number of zeros at the beginning. -/
def leadingZeros (groups : List Nat) : Nat :=
  (groups.takeWhile (· = 0)).length

/-- The place and the length of the first longest run of zeros. -/
def longestZeros : Nat → List Nat → Nat × Nat
  | _, [] => (0, 0)
  | place, group :: rest =>
    let here := leadingZeros (group :: rest)
    let later := longestZeros (place + 1) rest
    if later.2 ≤ here then (place, here) else later

def renderGroups (groups : List Nat) : List Char :=
  (":".intercalate (groups.map fun group => String.ofList (Nat.toDigits 16 group))).toList

/-- Lower-case digits; the first longest run of at least two zeros becomes a double colon. -/
def renderIPv6 (groups : List Nat) : List Char :=
  let (place, length) := longestZeros 0 groups
  if length < 2 then renderGroups groups
  else renderGroups (groups.take place) ++ [':', ':'] ++ renderGroups (groups.drop (place + length))

/-! ### Hosts -/

/-- Delimiters and blanks, which no domain may hold. -/
def isForbidden (c : Char) : Bool :=
  c.toNat ≤ 0x20 || c = '\x7f' ||
    c ∈ ['#', '/', ':', '<', '>', '?', '@', '[', '\\', ']', '^', '|', '%']

/-- The domain that a name stands for. -/
def parseDomain (name : List Char) : Except UrlError (List Char) :=
  match asciiDomain? name with
  | none => .error .invalidDomain
  | some domain => if domain.any isForbidden then .error .invalidDomain else .ok domain

/-- The host of a URL with a special scheme. -/
def parseHost (text : List Char) : Except UrlError (List Char) :=
  match text with
  | '[' :: rest =>
    let address := rest.dropLast
    if rest.getLast? == some ']' && Address.isIPv6 address then
      .ok (['['] ++ renderIPv6 (groupsIPv6 address) ++ [']'])
    else .error .invalidIPv6
  | _ =>
    match String.fromUTF8? ⟨(percentDecode text).toArray⟩ with
    | none => .error .invalidDomain
    | some name => do
      let domain ← parseDomain name.toList
      if domain.isEmpty then .error .emptyHost
      else if endsInNumber domain then
        match parseIPv4? domain with
        | some address => .ok (renderIPv4 address)
        | none => .error .invalidIPv4
      else .ok domain

/-- The characters that the host of another scheme may not hold. -/
def isForbiddenOther (c : Char) : Bool :=
  c ∈ [' ', '#', '/', ':', '<', '>', '?', '@', '[', '\\', ']', '^', '|', '\x00', '\t', '\n', '\r']

/-- The host of a URL with another scheme, which is kept as it is. -/
def parseOtherHost (text : List Char) : Except UrlError (List Char) :=
  match text with
  | '[' :: _ => parseHost text
  | _ =>
    if text.any isForbiddenOther then .error .forbiddenHostCharacter
    else .ok (percentEncode [] text)

end Url

end ZoneSync
