import ZoneSync.Text.Composites

/-!
# Composition

A character with marks can be written in several ways. Of these one is chosen: everything is taken
apart, marks of different classes are put in the order of their classes, and what can be composed
is composed (Normalization Form C, for texts without characters that merely stand for others).
Syllables of Hangul are composed by calculation.
-/

namespace ZoneSync.Text

/-! ### Hangul -/

namespace Hangul

def leadBase : Nat := 0x1100
def vowelBase : Nat := 0x1161
def tailBase : Nat := 0x11a7
def syllableBase : Nat := 0xac00
def leadCount : Nat := 19
def vowelCount : Nat := 21
/-- One more than there are tails, for syllables without one. -/
def tailCount : Nat := 28

def syllableCount : Nat := leadCount * vowelCount * tailCount

/-- The parts of a syllable: the syllable without its tail and the tail, or the lead and the
vowel. -/
def parts? (code : Nat) : Option (Nat × Nat) :=
  let place := code - syllableBase
  if code < syllableBase || syllableCount ≤ place then none
  else if place % tailCount = 0 then
    let pair := place / tailCount
    some (leadBase + pair / vowelCount, vowelBase + pair % vowelCount)
  else some (code - place % tailCount, tailBase + place % tailCount)

def whole? (first second : Nat) : Option Nat :=
  let lead := first - leadBase
  let vowel := second - vowelBase
  let place := first - syllableBase
  let tail := second - tailBase
  if leadBase ≤ first && lead < leadCount && vowelBase ≤ second && vowel < vowelCount then
    some (syllableBase + (lead * vowelCount + vowel) * tailCount)
  else if syllableBase ≤ first && place < syllableCount && place % tailCount = 0 &&
      tailBase < second && tail < tailCount then some (first + tail)
  else none

end Hangul

/-! ### Taking apart -/

def parts? (code : Nat) : Option (Nat × Nat) :=
  (Hangul.parts? code).or <|
    (composites.find? (·.whole = code)).map fun found => (found.first, found.second)

/-- The last parts of a character. The first argument bounds how often it is taken apart. -/
def partsOf : Nat → Nat → List Nat
  | 0, code => [code]
  | depth + 1, code =>
    match parts? code with
    | some (first, second) => partsOf depth first ++ partsOf depth second
    | none => [code]

def decompose (c : Char) : List Char :=
  if c.toNat < 0xc0 then [c] else (partsOf 4 c.toNat).map Char.ofNat

/-- Puts a mark in front of marks in order. -/
def putMark (c : Char) : List Char → List Char
  | [] => [c]
  | d :: rest =>
    if 0 < combiningClass d && combiningClass d < combiningClass c then d :: putMark c rest
    else c :: d :: rest

/-- Marks between two other characters in the order of their classes. -/
def orderMarks (text : List Char) : List Char :=
  text.foldr putMark []

/-! ### Putting together -/

def whole? (first second : Char) : Option Char :=
  if second.toNat < 0x300 then none
  else
    (Hangul.whole? first.toNat second.toNat).or
      ((composites.find? fun found => found.second = second.toNat && found.first = first.toNat).map
        Composite.whole)
    |>.map Char.ofNat

/-- Composes the character `base` with what follows it. The marks `between` could not be composed
with it; they keep later marks of their class, and all other characters, from it. -/
def composeFrom (base : Char) (between : List Char) : List Char → List Char
  | [] => base :: between
  | c :: rest =>
    let isFree := between.getLast?.all fun mark => combiningClass mark < combiningClass c
    match if isFree then whole? base c else none with
    | some whole => composeFrom whole between rest
    | none =>
      if combiningClass c = 0 then base :: between ++ composeFrom c [] rest
      else composeFrom base (between ++ [c]) rest

/-- The text in its composed form. -/
def compose (text : List Char) : List Char :=
  match orderMarks (text.flatMap decompose) with
  | [] => []
  | c :: rest => composeFrom c [] rest

end ZoneSync.Text
