import ZoneSync.Address
import ZoneSync.Decimal.Binary64
import ZoneSync.Text.Numeral

/-!
# Values of TOML without parts

Numbers with underscores between their digits, dates and times, and four kinds of strings. A reader
of a configuration needs the value of strings, whole numbers and switches; of the others it needs to
know only that they are correct.
-/

namespace ZoneSync.Toml

/-- A value without parts. -/
inductive Scalar where
  | string (value : String)
  | int (value : Int)
  | bool (value : Bool)
  | real
  | dateTime
  deriving DecidableEq, Repr

/-- The characters that may stand in a comment or a literal string. -/
def isText (c : Char) : Bool :=
  c = '\t' || (0x20 ≤ c.toNat && c.toNat != 0x7f)

/-- The text after a line end. -/
def afterLineEnd? : List Char → Option (List Char)
  | '\n' :: rest => some rest
  | '\r' :: '\n' :: rest => some rest
  | _ => none

def isBlank (c : Char) : Bool :=
  c = ' ' || c = '\t'

/-! ### Strings -/

def hexValue (digits : List Char) : Nat :=
  digits.foldl
    (fun value c =>
      16 * value + if c.isDigit then c.toNat - '0'.toNat else c.toLower.toNat - 'a'.toNat + 10)
    0

/-- The character of a code point given by hexadecimal digits. -/
def codePoint? (digits : List Char) : Option Char :=
  if digits.all Address.isHexDigit then
    let code := hexValue digits
    if code < 0xd800 || (0xdfff < code && code < 0x110000) then some (Char.ofNat code) else none
  else none

/-- The character of an escape, whose backslash has been read. -/
def escape? : List Char → Option (Char × List Char)
  | 'b' :: rest => some ('\x08', rest)
  | 't' :: rest => some ('\t', rest)
  | 'n' :: rest => some ('\n', rest)
  | 'f' :: rest => some ('\x0c', rest)
  | 'r' :: rest => some ('\r', rest)
  | '"' :: rest => some ('"', rest)
  | '\\' :: rest => some ('\\', rest)
  | 'u' :: rest =>
    if rest.length < 4 then none else (codePoint? (rest.take 4)).map fun c => (c, rest.drop 4)
  | 'U' :: rest =>
    if rest.length < 8 then none else (codePoint? (rest.take 8)).map fun c => (c, rest.drop 8)
  | _ => none

/-- A string on one line with escapes, after its opening quote. The first argument bounds the
length. -/
def basicString? : Nat → List Char → Option (List Char × List Char)
  | 0, _ => none
  | _, [] => none
  | _ + 1, '"' :: rest => some ([], rest)
  | fuel + 1, '\\' :: rest => do
    let (c, rest) ← escape? rest
    let (more, rest) ← basicString? fuel rest
    return (c :: more, rest)
  | fuel + 1, c :: rest =>
    if isText c then (basicString? fuel rest).map fun (more, rest) => (c :: more, rest) else none

/-- A string on one line without escapes, after its opening quote. -/
def literalString? : List Char → Option (List Char × List Char)
  | [] => none
  | '\x27' :: rest => some ([], rest)
  | c :: rest =>
    if isText c then (literalString? rest).map fun (more, rest) => (c :: more, rest) else none

/-- The end of a string over several lines: three quotes, before which one or two more belong to the
string. -/
def closing? (quote : Char) (text : List Char) : Option (List Char × List Char) :=
  let run := (text.takeWhile (· = quote)).length
  if run < 3 then none
  else
    let kept := min (run - 3) 2
    some (List.replicate kept quote, text.drop (kept + 3))

/-- The text after the blanks and line ends that follow a backslash at the end of a line. -/
def afterFold? (text : List Char) : Option (List Char) :=
  (afterLineEnd? (text.dropWhile isBlank)).map skip
where
  /-- Drops blanks and line ends. -/
  skip : List Char → List Char
    | '\r' :: '\n' :: rest => skip rest
    | c :: rest => if isBlank c || c = '\n' then skip rest else c :: rest
    | [] => []

/-- A string over several lines with escapes, after its opening quotes. -/
def basicLines? : Nat → List Char → Option (List Char × List Char)
  | 0, _ => none
  | fuel + 1, text =>
    match closing? '"' text with
    | some found => some found
    | none =>
      match text with
      | [] => none
      | '\\' :: rest =>
        match afterFold? rest with
        | some rest => basicLines? fuel rest
        | none => do
          let (c, rest) ← escape? rest
          let (more, rest) ← basicLines? fuel rest
          return (c :: more, rest)
      | '\r' :: '\n' :: rest => (basicLines? fuel rest).map fun (more, rest) => ('\n' :: more, rest)
      | c :: rest =>
        if isText c || c = '\n' then
          (basicLines? fuel rest).map fun (more, rest) => (c :: more, rest)
        else none

/-- A string over several lines without escapes, after its opening quotes. -/
def literalLines? : Nat → List Char → Option (List Char × List Char)
  | 0, _ => none
  | fuel + 1, text =>
    match closing? '\x27' text with
    | some found => some found
    | none =>
      match text with
      | [] => none
      | '\r' :: '\n' :: rest =>
        (literalLines? fuel rest).map fun (more, rest) => ('\n' :: more, rest)
      | c :: rest =>
        if isText c || c = '\n' then
          (literalLines? fuel rest).map fun (more, rest) => (c :: more, rest)
        else none

/-- The text without a line end at its beginning. -/
def dropLineEnd (text : List Char) : List Char :=
  (afterLineEnd? text).getD text

/-- A string of any kind. -/
def string? (text : List Char) : Option (Scalar × List Char) :=
  let chars := match text with
    | '"' :: '"' :: '"' :: rest => basicLines? (rest.length + 1) (dropLineEnd rest)
    | '\x27' :: '\x27' :: '\x27' :: rest => literalLines? (rest.length + 1) (dropLineEnd rest)
    | '"' :: rest => basicString? (rest.length + 1) rest
    | '\x27' :: rest => literalString? rest
    | _ => none
  chars.map fun (chars, rest) => (.string (String.ofList chars), rest)

/-! ### Numbers -/

/-- Whether the text is digits of a class with single underscores between them. -/
def isDigits (isDigit : Char → Bool) : List Char → Bool
  | [] => false
  | [c] => isDigit c
  | c :: '_' :: rest => isDigit c && isDigits isDigit rest
  | c :: rest => isDigit c && isDigits isDigit rest

def withoutUnderscores (text : List Char) : List Char :=
  text.filter (· != '_')

/-- A whole number that fits 64 bits with its sign. -/
def fitInt? (value : Int) : Option Scalar :=
  let bound : Nat := UInt64.size / 2
  if -bound ≤ value && value < bound then some (.int value) else none

/-- A whole number with a radix mark. -/
def markedInt? (radix : Nat) (isDigit : Char → Bool) (digits : List Char) : Option Scalar :=
  if isDigits isDigit digits then
    fitInt? ((withoutUnderscores digits).foldl (fun value c => radix * value + hexValue [c]) 0)
  else none

/-- A sign at the beginning; the first part is whether it is a minus sign. -/
def splitSign : List Char → Bool × List Char
  | '-' :: rest => (true, rest)
  | '+' :: rest => (false, rest)
  | rest => (false, rest)

/-- Decimal digits without a superfluous zero. -/
def isWhole (digits : List Char) : Bool :=
  isDigits Char.isDigit digits && (digits.length = 1 || digits.head? != some '0')

def decimalInt? (text : List Char) : Option Scalar :=
  let (negative, digits) := splitSign text
  if isWhole digits then
    let value := Text.digitsValue (withoutUnderscores digits)
    fitInt? (if negative then -value else value)
  else none

def isExponentMark (c : Char) : Bool :=
  c = 'e' || c = 'E'

/-- A number with a fraction, an exponent or both, or one of the words for infinity and no
number. -/
def real? (text : List Char) : Option Scalar :=
  let (negative, unsigned) := splitSign text
  if unsigned = ['i', 'n', 'f'] || unsigned = ['n', 'a', 'n'] then some .real
  else
    let mantissa := unsigned.takeWhile fun c => !isExponentMark c
    let whole := mantissa.takeWhile (· != '.')
    let fraction := mantissa.dropWhile (· != '.')
    let exponent := (unsigned.dropWhile fun c => !isExponentMark c).drop 1
    let (small, power) := splitSign exponent
    let wellFormed :=
      isWhole whole && (fraction.isEmpty || isDigits Char.isDigit (fraction.drop 1)) &&
        (mantissa.length = unsigned.length || isDigits Char.isDigit power) &&
        mantissa.length - fraction.length < unsigned.length
    let digits := withoutUnderscores (whole ++ fraction.drop 1)
    let places := (withoutUnderscores (fraction.drop 1)).length
    let size := min (Text.digitsValue (withoutUnderscores power)) 1000000000
    let scale : Int := (if small then -(size : Int) else size) - places
    if wellFormed && (negative || Decimal.isFinite (Text.digitsValue digits) scale) then some .real
    else none

/-! ### Dates and times -/

/-- Reads exactly `count` decimal digits. -/
def fixedDigits? (count : Nat) (text : List Char) : Option (Nat × List Char) :=
  let digits := text.take count
  if digits.length = count && digits.all Char.isDigit then
    some (Text.digitsValue digits, text.drop count)
  else none

def after? (mark : Char) : List Char → Option (List Char)
  | c :: rest => if c = mark then some rest else none
  | [] => none

def daysOfMonth (year month : Nat) : Nat :=
  if month = 2 then
    if year % 4 = 0 && (year % 100 != 0 || year % 400 = 0) then 29 else 28
  else if month ∈ [4, 6, 9, 11] then 30
  else 31

/-- A date, and the text after it. -/
def date? (text : List Char) : Option (List Char) := do
  let (year, rest) ← fixedDigits? 4 text
  let rest ← after? '-' rest
  let (month, rest) ← fixedDigits? 2 rest
  let rest ← after? '-' rest
  let (day, rest) ← fixedDigits? 2 rest
  if 1 ≤ month && month ≤ 12 && 1 ≤ day && day ≤ daysOfMonth year month then return rest else none

/-- A time of the day, and the text after it. -/
def time? (text : List Char) : Option (List Char) := do
  let (hour, rest) ← fixedDigits? 2 text
  let rest ← after? ':' rest
  let (minute, rest) ← fixedDigits? 2 rest
  let rest ← after? ':' rest
  let (second, rest) ← fixedDigits? 2 rest
  if 24 ≤ hour || 60 ≤ minute || 61 ≤ second then none
  else
    match rest with
    | '.' :: c :: more => if c.isDigit then return more.dropWhile Char.isDigit else return rest
    | _ => return rest

/-- An optional offset from universal time, and the text after it. -/
def offset? (text : List Char) : Option (List Char) :=
  match text with
  | 'Z' :: rest => some rest
  | 'z' :: rest => some rest
  | c :: rest =>
    if c = '+' || c = '-' then do
      let (hour, rest) ← fixedDigits? 2 rest
      let rest ← after? ':' rest
      let (minute, rest) ← fixedDigits? 2 rest
      if hour < 24 && minute < 60 then return rest else none
    else some text
  | [] => some []

/-- A date, a time, or both with an optional offset. -/
def dateTime? (text : List Char) : Option (List Char) :=
  match date? text with
  | none => time? text
  | some rest =>
    match rest with
    | c :: more =>
      if c = 'T' || c = 't' then (time? more).bind offset?
      else if c = ' ' then
        match time? more with
        | some rest => offset? rest
        | none => some rest
      else some rest
    | [] => some []

/-- The characters of numbers and of words for numbers. -/
def isNumberChar (c : Char) : Bool :=
  c.isAlphanum || c = '_' || c = '+' || c = '-' || c = '.'

/-- A number, a date or a time. -/
def number? (text : List Char) : Option (Scalar × List Char) :=
  match dateTime? text with
  | some rest => some (.dateTime, rest)
  | none =>
    let word := text.takeWhile isNumberChar
    let value := match word with
      | '0' :: 'x' :: digits => markedInt? 16 Address.isHexDigit digits
      | '0' :: 'o' :: digits => markedInt? 8 (fun c => '0' ≤ c && c ≤ '7') digits
      | '0' :: 'b' :: digits => markedInt? 2 (fun c => c = '0' || c = '1') digits
      | _ => (decimalInt? word).or (real? word)
    value.map fun value => (value, text.dropWhile isNumberChar)

/-- A value without parts. -/
def scalar? (text : List Char) : Option (Scalar × List Char) :=
  match text with
  | 't' :: 'r' :: 'u' :: 'e' :: rest => some (.bool true, rest)
  | 'f' :: 'a' :: 'l' :: 's' :: 'e' :: rest => some (.bool false, rest)
  | '"' :: _ => string? text
  | '\x27' :: _ => string? text
  | _ => number? text

end ZoneSync.Toml
