import ZoneSync.Text.Emoji
import ZoneSync.Text.Joining
import ZoneSync.Text.Wide

/-!
# Display columns

How many columns of a terminal a text takes. A character takes one column, two if it is wide, and
none if it attaches itself to another or is ignorable. Some characters take another width in front
of certain others: a carriage return before a line feed, signs before a selector, pictures that are
joined into one, and letters that are drawn as one sign. So a text is measured from its end, and
what has been passed is remembered as far as it matters.
-/

namespace ZoneSync.Text

/-! ### Single characters -/

/-- Format characters that are drawn over what follows them. -/
def overlayRanges : Ranges :=
  [(0x605, 0x605), (0x70f, 0x70f), (0x890, 0x891), (0x8e2, 0x8e2)]

/-- Medial and final parts of a syllable block, which are drawn into the block. -/
def blockPartRanges : Ranges :=
  [(0x1160, 0x11ff), (0xd7b0, 0xd7c6), (0xd7cb, 0xd7fb)]

/-- A caret between two letters. -/
def isCaret (c : Char) : Bool :=
  c.toNat = 0xa8fa

/-- An empty beginning of a syllable block, as wide as any. -/
def isEmptyBlock (c : Char) : Bool :=
  c.toNat = 0x115f

/-- The mark that makes one sign of two consonants; it is seen if it stands elsewhere. -/
def isConsonantJoiner (c : Char) : Bool :=
  c.toNat = 0x2d7f

def takesNoColumn (c : Char) : Bool :=
  !isEmptyBlock c && !isConsonantJoiner c &&
    (isIgnorable c || isExtending c || overlayRanges.contains c || blockPartRanges.contains c ||
      isCaret c)

/-- The columns of one character that stands alone. -/
def charColumns (c : Char) : Nat :=
  if c.toNat ≤ 0xa0 then 1
  else if c.toNat = 0x17d8 then 3
  else if takesNoColumn c then 0
  else if isWide c then 2
  else 1

/-! ### What follows a character -/

/-- What a character stands in front of, as far as its width may depend on it. A picture is `linked`
if a joiner stands before it. Of the letters, `lamed` to `orkhon` are those whose ligatures have a
joiner in them; `joined` tells whether it has been passed. -/
inductive Follower where
  | other
  | lineFeed
  | skinTone
  | flagHalf
  | flag
  | picture
  | linked
  | linkedKeycap
  | linkedFlag (odd : Bool)
  | alef
  | lamed (joined : Bool)
  | ya (joined : Bool)
  | yaWithVowel
  | consonant (joined : Bool)
  | consonantMark
  | orkhon (joined : Bool)
  | stackable
  | lowTone
  | vowelE
  | vowelAi
  deriving DecidableEq, Repr

inductive Selector where
  | none
  | sign
  | picture
  deriving DecidableEq, Repr

/-- What a character stands in front of, and a selector in between. -/
structure Ahead where
  follower : Follower
  selector : Selector
  deriving DecidableEq, Repr

namespace Follower

/-- Letters that may become a part of one sign with letters before them. -/
def isLigature : Follower → Bool
  | alef | lamed _ | ya _ | yaWithVowel | consonant _ | consonantMark | orkhon _ => true
  | stackable | lowTone | vowelE | vowelAi => true
  | _ => false

/-- A joiner between letters. -/
def join : Follower → Follower
  | lamed _ => lamed true
  | ya _ => ya true
  | consonant _ => consonant true
  | orkhon _ => orkhon true
  | follower => follower

def isLinked : Follower → Bool
  | linked | linkedKeycap => true
  | _ => false

end Follower

namespace Ahead

def nothing : Ahead :=
  ⟨.other, .none⟩

/-- Puts a selector in front; only ligatures and linked pictures are remembered behind it. -/
def select (ahead : Ahead) (selector : Selector) : Ahead :=
  if ahead.follower.isLigature || (selector = .picture && ahead.follower.isLinked) then
    { ahead with selector := selector }
  else ⟨.other, selector⟩

/-- Forgets a selector that selects nothing. -/
def unselect (ahead : Ahead) : Ahead :=
  if ahead.selector = .none || ahead.follower.isLigature then { ahead with selector := .none }
  else nothing

end Ahead

/-! ### Letters that form one sign -/

/-- Marks that are not seen between the letters of a ligature. -/
def ligatureMarkRanges : Ranges :=
  [(0x34f, 0x34f), (0x17b4, 0x17b5), (0x180b, 0x180d), (0x180f, 0x180f), (0xfe00, 0xfe0f),
    (0xe0100, 0xe01ef)]

def alefRanges : Ranges :=
  [(0x622, 0x623), (0x625, 0x625), (0x627, 0x627), (0x671, 0x673), (0x675, 0x675), (0x773, 0x774),
    (0x870, 0x882)]

def lamRanges : Ranges :=
  [(0x644, 0x644), (0x6b5, 0x6b8), (0x76a, 0x76a), (0x8a6, 0x8a6), (0x8c7, 0x8c7)]

/-- Letters that are written below another one after a stacking sign. -/
def stackableRanges : Ranges :=
  [(0x1780, 0x1782), (0x1784, 0x1787), (0x1789, 0x178c), (0x178e, 0x1793), (0x1795, 0x1798),
    (0x179b, 0x179d), (0x17a0, 0x17a0), (0x17a2, 0x17a2), (0x17a7, 0x17a7), (0x17ab, 0x17ac),
    (0x17af, 0x17af)]

/-- Consonants of which two may form one sign. -/
def consonantRanges : Ranges :=
  [(0x2d31, 0x2d65), (0x2d6f, 0x2d6f)]

def highToneRanges : Ranges :=
  [(0xa4f8, 0xa4fb)]

def lowToneRanges : Ranges :=
  [(0xa4fc, 0xa4fd)]

/-! ### Measuring -/

def isJoiner (c : Char) : Bool :=
  c.toNat = 0x200d

/-- What a character is for those before it. -/
def followerOf (c : Char) : Follower :=
  if isFlagHalf c then .flagHalf
  else if isSkinTone c then .skinTone
  else if isPicture c then .picture
  else if alefRanges.contains c then .alef
  else if c.toNat = 0x5dc then .lamed false
  else if stackableRanges.contains c then .stackable
  else if c.toNat = 0x1a10 then .ya false
  else if consonantRanges.contains c then .consonant false
  else if lowToneRanges.contains c then .lowTone
  else if c.toNat = 0x10c03 then .orkhon false
  else if c.toNat = 0x16d67 then .vowelE
  else if c.toNat = 0x16d68 then .vowelAi
  else .other

/-- The columns that a character adds in front of a follower, and what it is for those before it, if
the two belong together. A part of one sign takes back columns that were counted for the other. -/
def pair? (c : Char) (follower : Follower) : Option (Int × Follower) :=
  match follower with
  | .alef =>
    if lamRanges.contains c then some (0, .other)
    else if isTransparent c then some (0, .alef)
    else none
  | .lamed true => if c.toNat = 0x5d0 then some (0, .other) else none
  | .stackable => if c.toNat = 0x17d2 then some (-1, .other) else none
  | .ya true => if c.toNat = 0x1a17 then some (0, .yaWithVowel) else none
  | .yaWithVowel => if c.toNat = 0x1a15 then some (0, .other) else none
  | .consonant joined =>
    if isConsonantJoiner c then some (1, .consonantMark)
    else if joined && consonantRanges.contains c then some (0, .other)
    else none
  | .consonantMark => if consonantRanges.contains c then some (-1, .other) else none
  | .lowTone => if highToneRanges.contains c then some (0, .other) else none
  | .orkhon true => if c.toNat = 0x10c32 then some (0, .other) else none
  | .vowelE =>
    match c.toNat with
    | 0x16d63 | 0x16d69 => some (0, .other)
    | 0x16d67 => some (0, .vowelAi)
    | 0x16d68 => some (1, .vowelE)
    | _ => none
  | .vowelAi => if c.toNat = 0x16d63 then some (0, .other) else none
  | .skinTone =>
    if skinRanges.contains c then some (0, .picture)
    else if isJoiner c then some (0, .linked)
    else none
  | .flagHalf => if isFlagHalf c then some (1, .flag) else none
  | .flag =>
    if isFlagHalf c then some (1, .flag) else if isJoiner c then some (0, .linked) else none
  | .picture => if isJoiner c then some (0, .linked) else none
  | .linked =>
    if isKeycap c then some (0, .linkedKeycap)
    else if isFlagHalf c then some (1, .linkedFlag true)
    else if isSkinTone c then some (0, .skinTone)
    else if isPicture c then some (0, .picture)
    else none
  | .linkedFlag odd =>
    if isFlagHalf c then some (if odd then -1 else 3, .linkedFlag (!odd))
    else if isJoiner c then some (0, .linked)
    else none
  | _ => none

/-- The columns that a character adds to what follows it, and what it is for those before it. -/
def measure (c : Char) (ahead : Ahead) : Int × Ahead :=
  if ahead.selector = .picture && selectableRanges.contains c then
    (if ahead.follower.isLinked then 0 else 2, ⟨.picture, .none⟩)
  else
    let ahead := if ahead.selector = .picture then ahead.unselect else ahead
    if c = '\n' then (1, ⟨.lineFeed, .none⟩)
    else if c = '\r' && ahead.follower = .lineFeed then (0, .nothing)
    else if isPictureSelector c then (0, ahead.select .picture)
    else if isSignSelector c then (0, ahead.select .sign)
    else if ahead.selector = .sign && turnableRanges.contains c then (1, .nothing)
    else
      let follower := ahead.unselect.follower
      if follower.isLigature && follower != .alef && isJoiner c then (0, ⟨follower.join, .none⟩)
      else if follower.isLigature && follower != .alef && ligatureMarkRanges.contains c then
        (0, ⟨follower, .none⟩)
      else
        match pair? c follower with
        | some (columns, next) => (columns, ⟨next, .none⟩)
        | none => (charColumns c, ⟨followerOf c, .none⟩)

/-- The columns of a text. -/
def columns (text : List Char) : Nat :=
  let (total, _) := text.foldr
    (fun c (total, ahead) =>
      let (added, ahead) := measure c ahead
      (total + added, ahead))
    ((0 : Int), Ahead.nothing)
  total.toNat

end ZoneSync.Text
