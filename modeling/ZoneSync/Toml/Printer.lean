import ZoneSync.Toml.Scalar

/-!
# Writing TOML strings

A string is written in the plainest of the forms that hold it without escapes: between double quotes,
between single quotes, and then the same between three of each, where up to two quotes in a row may
stand as they are. A string that needs escapes stands between double quotes, three of them if it has
line ends.
-/

namespace ZoneSync.Toml

/-- The marks around a string: what quote, and whether it stands three times. -/
structure StringForm where
  basic : Bool
  overLines : Bool
  deriving DecidableEq, Repr

namespace StringForm

def quoteMark (form : StringForm) : Char :=
  if form.basic then '"' else '\x27'

/-- The marks at either end. -/
def delimiter (form : StringForm) : List Char :=
  List.replicate (if form.overLines then 3 else 1) form.quoteMark

/-- How many quotes in a row may stand within the marks. -/
def quotesInRow (form : StringForm) : Nat :=
  if form.overLines then 2 else 0

end StringForm

/-- The greatest number of times that `mark` stands in a row. -/
def longestRun (mark : Char) (text : List Char) : Nat :=
  (text.foldl
    (fun (run, longest) c =>
      let run := if c = mark then run + 1 else 0
      (run, max run longest))
    (0, 0)).2

/-- Whether a form holds a string without any escape. -/
def StringForm.holds (form : StringForm) (text : List Char) : Bool :=
  text.all (fun c => isText c || (form.overLines && c = '\n')) &&
    !(form.basic && text.contains '\\') &&
    longestRun form.quoteMark text ≤ form.quotesInRow

/-- The form in which a string is written. -/
def StringForm.ofText (text : List Char) : StringForm :=
  let forms := [⟨true, false⟩, ⟨false, false⟩, ⟨true, true⟩, ⟨false, true⟩]
  (forms.find? (·.holds text)).getD ⟨true, text.contains '\n'⟩

/-- Four upper-case hexadecimal digits. -/
def codeDigits (code : Nat) : List Char :=
  let digits := (Nat.toDigits 16 code).map Char.toUpper
  List.replicate (4 - digits.length) '0' ++ digits

/-- The escape of a character other than a double quote, if it has to have one. -/
def charEscape? (overLines : Bool) (c : Char) : Option (List Char) :=
  match c with
  | '\x08' => some ['\\', 'b']
  | '\t' => some ['\\', 't']
  | '\n' => if overLines then none else some ['\\', 'n']
  | '\x0c' => some ['\\', 'f']
  | '\r' => some ['\\', 'r']
  | '\\' => some ['\\', '\\']
  | c => if isText c then none else some (['\\', 'u'] ++ codeDigits c.toNat)

/-- The characters between double quotes; `run` counts the quotes that stand right before them and
are not escaped. -/
def escaped (overLines : Bool) (run : Nat) : List Char → List Char
  | [] => []
  | c :: rest =>
    if c = '"' then
      if run < (StringForm.mk true overLines).quotesInRow then c :: escaped overLines (run + 1) rest
      else ['\\', '"'] ++ escaped overLines 0 rest
    else (charEscape? overLines c).getD [c] ++ escaped overLines 0 rest

/-- The string as a value. A string over several lines begins on a line of its own. -/
def quote (text : String) : String :=
  let chars := text.toList
  let form := StringForm.ofText chars
  let start := if form.overLines && chars.contains '\n' then ['\n'] else []
  let content := if form.basic then escaped form.overLines 0 chars else chars
  String.ofList (form.delimiter ++ start ++ content ++ form.delimiter)

end ZoneSync.Toml
