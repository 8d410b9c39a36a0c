/-!
# Elements of certificates

A certificate is built from elements: a tag, the length of the content in as few bytes as hold it,
and the content, which may consist of elements again. Readers take what they want from the
beginning of the bytes and give back the rest, or nothing if something else is there.
-/

namespace ZoneSync.Certificate

abbrev Bytes := List UInt8

namespace Tag

def boolean : UInt8 := 0x01
def integer : UInt8 := 0x02
def bitString : UInt8 := 0x03
def octetString : UInt8 := 0x04
def identifier : UInt8 := 0x06
def sequence : UInt8 := 0x30

/-- The tag of an optional part with that number. -/
def part (number : UInt8) : UInt8 := 0xa0 + number

end Tag

/-- The number that bytes stand for, the highest byte first. -/
def number (bytes : Bytes) : Nat :=
  bytes.foldl (fun value byte => 256 * value + byte.toNat) 0

/-- A content is shorter than this many bytes. -/
def contentLimit : Nat := 0xffff

/-- The length of a content, which is written in as few bytes as hold it. -/
def length? : Bytes → Option (Nat × Bytes)
  | [] => none
  | first :: rest =>
    if first.toNat < 0x80 then some (first.toNat, rest)
    else
      let size := first.toNat - 0x80
      let length := number (rest.take size)
      let isShortest := if size = 1 then 0x80 ≤ length else Nat.pow 256 (size - 1) ≤ length
      if 1 ≤ size && size ≤ 4 && size ≤ rest.length && isShortest then
        some (length, rest.drop size)
      else none

/-- The tag and the content of the element at the beginning, and the bytes after it. -/
def element? : Bytes → Option (UInt8 × Bytes × Bytes)
  | [] => none
  | tag :: rest => do
    let (length, rest) ← length? rest
    if tag.toNat % 32 = 31 || contentLimit ≤ length || rest.length < length then none
    else some (tag, rest.take length, rest.drop length)

/-- The content of the element at the beginning, which has that tag, and the bytes after it. -/
def content? (tag : UInt8) (bytes : Bytes) : Option (Bytes × Bytes) := do
  let (found, content, rest) ← element? bytes
  if found = tag then some (content, rest) else none

/-- The content of the only element. -/
def onlyContent? (tag : UInt8) (bytes : Bytes) : Option Bytes :=
  match content? tag bytes with
  | some (content, []) => some content
  | _ => none

/-- The content of a string of whole bytes. -/
def wholeBytes? (bytes : Bytes) : Option (Bytes × Bytes) :=
  match content? Tag.bitString bytes with
  | some (0 :: content, rest) => some (content, rest)
  | _ => none

/-- The contents of elements that fill the bytes, all with that tag. The first argument bounds
their number. -/
def contents? (tag : UInt8) : Nat → Bytes → Option (List Bytes)
  | _, [] => some []
  | 0, _ => none
  | fuel + 1, bytes => do
    let (content, rest) ← content? tag bytes
    return content :: (← contents? tag fuel rest)

end ZoneSync.Certificate
