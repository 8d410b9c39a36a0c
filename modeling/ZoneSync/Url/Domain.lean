import ZoneSync.Text.Composition
import ZoneSync.Text.Joining
import ZoneSync.Url.Domain.Direction
import ZoneSync.Url.Domain.Mapping
import ZoneSync.Url.Punycode

/-!
# Domain names

A domain name is a list of labels with dots between them. A label with characters beyond ASCII has an
ASCII form, which is marked by its first four characters. A name is read in either form and written
in ASCII.

All characters are replaced by those that they stand for, and the result is composed. Then each label
has to be one that can be shown as it is: it does not begin with a mark, joiners stand only where
they change something, and its letters run in one direction.
-/

namespace ZoneSync.Url

open Text

def isAscii (text : List Char) : Bool :=
  text.all (·.toNat < 0x80)

/-! ### Labels -/

/-- The beginning of a label in its ASCII form. -/
def asciiMark : List Char := "xn--".toList

/-- The longest label that is written in ASCII, in characters. -/
def labelLimit : Nat := 1000

/-- The longest text after the mark that is read. -/
def codedLimit : Nat := 2000

/-- What characters of a name stand for, composed; nothing if one of them may not be held. -/
def normalize? (text : List Char) : Option (List Char) :=
  (text.mapM image?).map fun images => compose images.flatten

/-- The characters of a label. One in its ASCII form has to be the form of a label that is in its
normal form and is not marked itself. -/
def readLabel? (label : List Char) : Option (List Char) :=
  if asciiMark.isPrefixOf label then do
    let coded := label.drop asciiMark.length
    let text ← Punycode.decode? coded
    if isAscii label && coded.getLast?.any (· != '-') && coded.length ≤ codedLimit &&
        normalize? text = some text && !asciiMark.isPrefixOf text then some text
    else none
  else some label

/-- The ASCII form of a label. -/
def writeLabel (text : List Char) : List Char :=
  if isAscii text then text else asciiMark ++ Punycode.encode text

/-! ### Joiners -/

/-- Makes letters join that would not. -/
def isJoiner (c : Char) : Bool :=
  c.toNat = 0x200d

/-- Keeps letters apart that would join. -/
def isParter (c : Char) : Bool :=
  c.toNat = 0x200c

/-- The class of the marks that take a vowel from a letter. -/
def viramaClass : Nat := 9

/-- Whether letters would join over a place, by the characters before it, the last one first, and
those after it. -/
def wouldJoin (before after : List Char) : Bool :=
  (before.find? (!isTransparent ·)).any joinsOn && (after.find? (!isTransparent ·)).any joinsBack

/-- Whether joiners stand where they change something: after a mark that takes the vowel, or, to keep
letters apart, where they would join. `before` is what has been passed, the last character first. -/
def fitsJoiners (before : List Char) : List Char → Bool
  | [] => true
  | c :: rest =>
    let isFit :=
      !(isJoiner c || isParter c) || before.head?.any (combiningClass · = viramaClass) ||
        (isParter c && wouldJoin before rest)
    isFit && fitsJoiners (c :: before) rest

/-- Whether a label can be shown as it is. -/
def isPresentable (label : List Char) : Bool :=
  !label.head?.any isMark && fitsJoiners [] label && (isAscii label || label.length ≤ labelLimit)

/-! ### Names -/

/-- The ASCII form of a name. -/
def asciiDomain? (name : List Char) : Option (List Char) := do
  let labels ← (fields '.' (← normalize? name)).mapM readLabel?
  if labels.all isPresentable && fitDirections labels then
    some (List.intercalate ['.'] (labels.map writeLabel))
  else none

end ZoneSync.Url
