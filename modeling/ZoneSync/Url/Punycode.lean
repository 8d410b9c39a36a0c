/-!
# Punycode

A label of a domain name is written in ASCII if it holds other characters: its ASCII characters, a
hyphen, and numbers that say which other characters stand where. The numbers are written with 36
digits, the thresholds between which adapt to the numbers written so far.
-/

namespace ZoneSync.Url.Punycode

def digit (value : Nat) : Char :=
  if value < 26 then Char.ofNat (value + 'a'.toNat) else Char.ofNat (value - 26 + '0'.toNat)

/-- The value of a digit, which may be written in either case. -/
def digitValue? (c : Char) : Option Nat :=
  if c.isAlpha then some (c.toLower.toNat - 'a'.toNat)
  else if c.isDigit then some (c.toNat - '0'.toNat + 26)
  else none

/-- The least value that ends a number at the position `k`. -/
def threshold (bias k : Nat) : Nat :=
  max 1 (min 26 (k - bias))

/-! ### Writing -/

/-- The digits of a number from the position `k` on. The first argument bounds their number. -/
def digits : Nat → Nat → Nat → Nat → List Char
  | 0, _, _, value => [digit value]
  | fuel + 1, bias, k, value =>
    let least := threshold bias k
    if value < least then [digit value]
    else
      digit (least + (value - least) % (36 - least)) ::
        digits fuel bias (k + 36) ((value - least) / (36 - least))

/-- Divides a large number down; `k` counts by how much. The first argument bounds the divisions. -/
def shrink : Nat → Nat → Nat → Nat
  | 0, k, delta => k + 36 * delta / (delta + 38)
  | fuel + 1, k, delta =>
    if 455 < delta then shrink fuel (k + 36) (delta / 35) else k + 36 * delta / (delta + 38)

/-- The bias after a number, with `count` characters written. -/
def adapt (delta count : Nat) (first : Bool) : Nat :=
  let halved := if first then delta / 700 else delta / 2
  shrink 10 0 (halved + halved / count)

/-- What has been written, and what the next number is counted from. -/
structure Progress where
  written : List Char
  bias : Nat
  delta : Nat
  handled : Nat
  basic : Nat

/-- Goes past one character of the text while characters of `code` are written. -/
def visit (code : Nat) (progress : Progress) (c : Char) : Progress :=
  if c.toNat < code then { progress with delta := progress.delta + 1 }
  else if c.toNat = code then
    { progress with
      written := progress.written ++ digits 20 progress.bias 36 progress.delta
      bias := adapt progress.delta (progress.handled + 1) (progress.handled == progress.basic)
      delta := 0
      handled := progress.handled + 1 }
  else progress

/-- Writes all characters of each code, in ascending order of the codes. -/
def writeCodes (text : List Char) : List Nat → Nat → Progress → Progress
  | [], _, progress => progress
  | code :: codes, next, progress =>
    let jumped :=
      { progress with delta := progress.delta + (code - next) * (progress.handled + 1) }
    let visited := text.foldl (visit code) jumped
    writeCodes text codes (code + 1) { visited with delta := visited.delta + 1 }

/-- Puts a number into an ascending list without repetitions. -/
def insertCode (code : Nat) : List Nat → List Nat
  | [] => [code]
  | other :: rest =>
    if code < other then code :: other :: rest
    else if code = other then other :: rest
    else other :: insertCode code rest

/-- The ASCII form of a text. -/
def encode (text : List Char) : List Char :=
  let basic := text.filter fun c => c.toNat < 0x80
  let others := text.filter fun c => 0x80 ≤ c.toNat
  let codes := (others.map Char.toNat).foldr insertCode []
  let start : Progress :=
    { written := if basic.isEmpty then [] else basic ++ ['-']
      bias := 72, delta := 0, handled := basic.length, basic := basic.length }
  (writeCodes text codes 0x80 start).written

/-! ### Reading -/

/-- The number at the beginning of a text, and what follows it; the digit at the position `k` counts
`weight`. -/
def number? (bias : Nat) : List Char → Nat → Nat → Nat → Option (Nat × List Char)
  | [], _, _, _ => none
  | c :: rest, k, weight, sum => do
    let value ← digitValue? c
    let least := threshold bias k
    let sum := sum + value * weight
    if value < least then some (sum, rest)
    else number? bias rest (k + 36) (weight * (36 - least)) sum

/-- Puts characters into a text. A number tells how many places are gone through before the next
one is put: after the last place, the code goes up by one and the places begin anew. The first
argument bounds the numbers. -/
def insertCodes? : Nat → Nat → Nat → Nat → List Char → List Char → Option (List Char)
  | _, _, _, _, text, [] => some text
  | 0, _, _, _, _, _ => none
  | fuel + 1, bias, code, place, text, coded => do
    let (delta, rest) ← number? bias coded 36 1 0
    let count := text.length + 1
    let code := code + (place + delta) / count
    let next := (place + delta) % count
    if Nat.isValidChar code then
      let text := text.take next ++ Char.ofNat code :: text.drop next
      insertCodes? fuel (adapt delta count (place = 0)) code (next + 1) text rest
    else none

/-- The text of an ASCII form. What stands before the last hyphen is taken as it is. -/
def decode? (coded : List Char) : Option (List Char) :=
  let numbers := (coded.reverse.takeWhile (· != '-')).reverse
  let basic := (coded.take (coded.length - numbers.length)).dropLast
  if basic.isEmpty then insertCodes? coded.length 72 0x80 0 [] coded
  else insertCodes? numbers.length 72 0x80 0 basic numbers

end ZoneSync.Url.Punycode
