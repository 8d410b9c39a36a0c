import ZoneSync.Json.Literal
import ZoneSync.Json.Number

/-!
# Reading JSON texts

The grammar of JSON: a text is one value with blanks around it. No comma may follow the last item of
an array or the last member of an object.
-/

namespace ZoneSync.Json.Parser

def isSpace (c : Char) : Bool :=
  c = ' ' || c = '\t' || c = '\n' || c = '\r'

def skipSpaces (text : List Char) : List Char :=
  text.dropWhile isSpace

/-- The text after the given word. -/
def afterWord? : List Char → List Char → Option (List Char)
  | [], text => some text
  | _ :: _, [] => none
  | c :: word, d :: text => if c = d then afterWord? word text else none

/-- A value that is neither an array nor an object. -/
def leaf? (text : List Char) : Option (Form × List Char) :=
  match text with
  | '"' :: rest => (Literal.parse? rest).map fun (value, rest) => (.string value, rest)
  | 'n' :: rest => (afterWord? ['u', 'l', 'l'] rest).map fun rest => (.null, rest)
  | 't' :: rest => (afterWord? ['r', 'u', 'e'] rest).map fun rest => (.bool true, rest)
  | 'f' :: rest => (afterWord? ['a', 'l', 's', 'e'] rest).map fun rest => (.bool false, rest)
  | text => Number.parse? text

mutual

/-- Reads a value. The first argument bounds the number of nested calls. -/
def value? : Nat → List Char → Option (Form × List Char)
  | 0, _ => none
  | fuel + 1, text =>
    match skipSpaces text with
    | '[' :: rest =>
      match skipSpaces rest with
      | ']' :: rest => some (.array [], rest)
      | rest => (items? fuel rest).map fun (items, rest) => (.array items, rest)
    | '\x7b' :: rest =>
      match skipSpaces rest with
      | '\x7d' :: rest => some (.object [], rest)
      | rest => (members? fuel rest).map fun (members, rest) => (.object members, rest)
    | rest => leaf? rest

/-- Reads one or more items and the bracket after them. -/
def items? : Nat → List Char → Option (List Form × List Char)
  | 0, _ => none
  | fuel + 1, text => do
    let (item, rest) ← value? fuel text
    match skipSpaces rest with
    | ',' :: rest =>
      let (items, rest) ← items? fuel rest
      return (item :: items, rest)
    | ']' :: rest => return ([item], rest)
    | _ => none

/-- Reads one or more members and the brace after them. -/
def members? : Nat → List Char → Option (List (Option String × Form) × List Char)
  | 0, _ => none
  | fuel + 1, text => do
    match skipSpaces text with
    | '"' :: rest =>
      let (key, rest) ← Literal.parse? rest
      match skipSpaces rest with
      | ':' :: rest =>
        let (item, rest) ← value? fuel rest
        match skipSpaces rest with
        | ',' :: rest =>
          let (members, rest) ← members? fuel rest
          return ((key, item) :: members, rest)
        | '\x7d' :: rest => return ([(key, item)], rest)
        | _ => none
      | _ => none
    | _ => none

end

end Parser

/-- The form of a text. Every nested call reads at least one more character, or is made directly by
one that did, so twice the length of the text bounds their number. -/
def Form.parse? (text : String) : Option Form := do
  let chars := text.toList
  let (form, rest) ← Parser.value? (2 * chars.length + 2) chars
  if (Parser.skipSpaces rest).isEmpty then return form else none

/-- The value of a text. -/
def parse? (text : String) : Option Json :=
  (Form.parse? text).bind Form.value?

end ZoneSync.Json
