import ZoneSync.Yaml.Plain

/-!
# Styles of a string in YAML

A string is written plain, between single quotes, between double quotes with escapes, or as a
literal block of lines. The characters of the string and its place decide.
-/

namespace ZoneSync.Yaml

inductive Style where
  | plain | single | double | literal
  deriving DecidableEq, Repr

def isBreak (c : Char) : Bool :=
  c = '\n' || c = '\r' || c = '\x85' || c = '\u2028' || c = '\u2029'

/-- A blank or a line break; what lies beyond the ends of a string counts as one. -/
def isGap (c : Option Char) : Bool :=
  c.all fun c => c = ' ' || c = '\t' || c = '\x00' || isBreak c

/-- The characters that may stand in a string without an escape. -/
def isPrintable (c : Char) : Bool :=
  let code := c.toNat
  code = 0x0a || (0x20 ≤ code && code ≤ 0x7e) || (0xa0 ≤ code && code ≤ 0xd7ff) ||
    (0xe000 ≤ code && code ≤ 0xfffd && code != 0xfeff) || 0x10000 ≤ code

/-- The characters that mark something else than a plain string at its beginning. -/
def leadingMarks : List Char :=
  ['#', ',', '[', ']', '\x7b', '\x7d', '&', '*', '!', '|', '>', '\x27', '"', '%', '@', '\x60']

/-- Whether a plain string would be read as something else because of `c`, which stands between
`before` and `after`. -/
def isIndicator (before : Option Char) (c : Char) (after : Option Char) : Bool :=
  match before with
  | none => c ∈ leadingMarks || ((c = '?' || c = ':' || c = '-') && isGap after)
  | some before => (c = ':' && isGap after) || (c = '#' && isGap (some before))

/-- Whether one of the characters is an indicator at its place. -/
def hasIndicator (before : Option Char) : List Char → Bool
  | [] => false
  | c :: rest => isIndicator before c rest.head? || hasIndicator (some c) rest

/-- Whether a character of the first kind is followed by one of the second kind. -/
def hasPair (first second : Char → Bool) : List Char → Bool
  | c :: d :: rest => (first c && second d) || hasPair first second (d :: rest)
  | _ => false

def isSpace (c : Char) : Bool :=
  c = ' '

/-- Marks of the begin and the end of a document. -/
def isDocumentMark (text : List Char) : Bool :=
  text.take 3 = ['-', '-', '-'] || text.take 3 = ['.', '.', '.']

/-- Breaks or spaces at the ends, or a break anywhere, do not survive in a plain string. -/
def plainAllowed (text : List Char) : Bool :=
  !(isDocumentMark text || hasIndicator none text || text.any isBreak ||
    text.any (fun c => !isPrintable c) || text.head?.any isSpace || text.getLast?.any isSpace)

/-- A break beside a space does not survive between single quotes. -/
def singleAllowed (text : List Char) : Bool :=
  !(hasPair isBreak isSpace text || hasPair isSpace isBreak text ||
    text.any fun c => !isPrintable c)

/-- A space before a break or at the end does not survive in a literal block. -/
def literalAllowed (text : List Char) : Bool :=
  !(text.isEmpty || hasPair isSpace isBreak text || text.getLast?.any isSpace ||
    text.any fun c => !isPrintable c)

/-- The style of a string; `asKey` says that it is the key of a member and has to stay on a line. -/
def style (asKey : Bool) (text : String) : Style :=
  let chars := text.toList
  let quoted := if singleAllowed chars then .single else .double
  if chars.contains '\n' then
    if !asKey && literalAllowed chars then .literal else .double
  else if asKey && chars.any isBreak then .double
  else if isAmbiguous text || !plainAllowed chars then quoted
  else .plain

/-- Whether a string can be a key on one line with its value. -/
def isSimpleKey (text : String) : Bool :=
  text.utf8ByteSize ≤ 128 && !text.toList.any isBreak

def indentation (indent : Nat) : List Char :=
  List.replicate indent ' '

/-- A text whose line breaks are followed by the indentation of the next line. Two breaks in a row
keep their line empty. -/
def breakLines (indent : Nat) (afterBreak : Bool) (escape : Char → List Char) :
    List Char → List Char
  | [] => if afterBreak then indentation indent else []
  | c :: rest =>
    if isBreak c then c :: breakLines indent true escape rest
    else
      (if afterBreak then indentation indent else []) ++ escape c ++
        breakLines indent false escape rest

/-- A quote between single quotes is written twice. -/
def singleEscape (c : Char) : List Char :=
  if c = '\x27' then ['\x27', '\x27'] else [c]

/-- Upper-case hexadecimal digits, as many as `width`. -/
def hexDigits (width code : Nat) : List Char :=
  let digits := (Nat.toDigits 16 code).map Char.toUpper
  List.replicate (width - digits.length) '0' ++ digits

/-- The letter that stands for a character after a backslash. -/
def escapeLetter? (c : Char) : Option Char :=
  match c.toNat with
  | 0x00 => some '0'
  | 0x07 => some 'a'
  | 0x08 => some 'b'
  | 0x09 => some 't'
  | 0x0a => some 'n'
  | 0x0b => some 'v'
  | 0x0c => some 'f'
  | 0x0d => some 'r'
  | 0x1b => some 'e'
  | 0x22 => some '"'
  | 0x5c => some '\\'
  | 0x85 => some 'N'
  | 0xa0 => some '_'
  | 0x2028 => some 'L'
  | 0x2029 => some 'P'
  | _ => none

def doubleEscape (c : Char) : List Char :=
  if isPrintable c && !isBreak c && c != '"' && c != '\\' then [c]
  else
    match escapeLetter? c with
    | some letter => ['\\', letter]
    | none =>
      if c.toNat ≤ 0xff then ['\\', 'x'] ++ hexDigits 2 c.toNat
      else if c.toNat ≤ 0xffff then ['\\', 'u'] ++ hexDigits 4 c.toNat
      else ['\\', 'U'] ++ hexDigits 8 c.toNat

/-- How the breaks at the end of a literal block are kept: none with a minus sign, more than one
with a plus sign. -/
def chomping (text : List Char) : List Char :=
  match text.reverse with
  | [] => ['-']
  | [last] => if isBreak last then ['+'] else ['-']
  | last :: previous :: _ =>
    if !isBreak last then ['-'] else if isBreak previous then ['+'] else []

/-- A literal block that begins with a blank or a break says its indentation. -/
def indentHint (text : List Char) : List Char :=
  if text.head?.any fun c => c = ' ' || isBreak c then ['2'] else []

/-- The lines of a literal block, each indented unless it is empty. -/
def literalLines (indent : Nat) (lineStart : Bool) : List Char → List Char
  | [] => []
  | c :: rest =>
    if isBreak c then c :: literalLines indent true rest
    else
      (if lineStart then indentation indent else []) ++ c :: literalLines indent false rest

/-- The string in its style; lines after the first stand at the indentation. -/
def scalarText (asKey : Bool) (indent : Nat) (text : String) : String :=
  let chars := text.toList
  String.ofList <|
    match style asKey text with
    | .plain => chars
    | .single => ['\x27'] ++ breakLines indent false singleEscape chars ++ ['\x27']
    | .double => ['"'] ++ chars.flatMap doubleEscape ++ ['"']
    | .literal =>
      ['|'] ++ indentHint chars ++ chomping chars ++ ['\n'] ++ literalLines indent true chars

end ZoneSync.Yaml
