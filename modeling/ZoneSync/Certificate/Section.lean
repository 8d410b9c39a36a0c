import ZoneSync.Text.Base64

/-!
# Sections of a certificate file

A certificate file is a text with sections between lines that mark them. Each section has a label
that says what it holds, in base 64; what stands outside of sections is of no interest, and neither
are sections with labels that nobody knows.
-/

namespace ZoneSync.Certificate

/-- A section: what its label says, and its bytes. -/
structure Section where
  label : List Char
  bytes : List UInt8
  deriving DecidableEq, Repr

namespace Section

def openingMark : List Char := "-----BEGIN ".toList

def dashes : List Char := "-----".toList

/-- The beginning of the line that closes the section with that label. -/
def closingMark (label : List Char) : List Char :=
  "-----END ".toList ++ label ++ dashes

/-- The labels whose sections have to hold bytes. -/
def knownLabels : List (List Char) :=
  ["CERTIFICATE", "PUBLIC KEY", "RSA PRIVATE KEY", "PRIVATE KEY", "EC PRIVATE KEY", "X509 CRL",
    "CERTIFICATE REQUEST", "ECHCONFIG"].map String.toList

def isLineEnd (c : Char) : Bool :=
  c = '\n' || c = '\r'

/-- The label in an opening line, which ends with five dashes; blanks may stand among them. -/
def label? (line : List Char) : Option (List Char) :=
  let ending := (line.reverse.takeWhile fun c => c = '-' || c = ' ').reverse
  if ending.count '-' = 5 then
    let marks := ending.dropWhile (· = ' ')
    some ((line.take (line.length - marks.length)).drop openingMark.length)
  else none

/-- What has been read of an open section: its label, if one is open, and its content. -/
structure Progress where
  label : Option (List Char)
  content : List Char

/-- Reads one line; a section comes out of a line that closes one. -/
def step? (progress : Progress) (line : List Char) : Option (Progress × Option Section) :=
  if openingMark.isPrefixOf line then
    (label? line).map fun label => ({ progress with label := some label }, none)
  else
    match progress.label with
    | none => some (progress, none)
    | some label =>
      if !(closingMark label).isPrefixOf line then
        some ({ progress with content := progress.content ++ line }, none)
      else if knownLabels.contains label then
        (Text.Base64.decode? progress.content).map fun bytes => (⟨none, []⟩, some ⟨label, bytes⟩)
      else some (⟨none, []⟩, none)

/-- The sections in the lines; nothing if a section is not closed or not well formed. -/
def read? (progress : Progress) : List (List Char) → Option (List Section)
  | [] => if progress.label.isSome then none else some []
  | line :: rest => do
    let (progress, found) ← step? progress line
    return found.toList ++ (← read? progress rest)

/-- The sections of a file. -/
def ofFile? (file : ByteArray) : Option (List Section) :=
  let chars := file.toList.map fun byte => Char.ofNat byte.toNat
  read? ⟨none, []⟩ (chars.splitOnP isLineEnd)

end Section

end ZoneSync.Certificate
