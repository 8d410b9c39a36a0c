import ZoneSync.Toml.Tree

/-!
# Reading TOML documents

A document is a row of lines: headers of tables, keys with values, comments and empty lines. The
result is what stands under each key of the outermost table.
-/

namespace ZoneSync.Toml

def skipBlanks (text : List Char) : List Char :=
  text.dropWhile isBlank

/-- The text after a comment. -/
def skipComment : List Char → List Char
  | '#' :: rest => rest.dropWhile isText
  | text => text

/-- Blanks, comments and line ends, which may stand between the items of an array. The first
argument bounds the number of lines. -/
def skipLines : Nat → List Char → List Char
  | 0, text => text
  | fuel + 1, text =>
    match afterLineEnd? (skipComment (skipBlanks text)) with
    | some rest => skipLines fuel rest
    | none => skipBlanks text

/-- The text after the end of a line, before which blanks and a comment may stand. -/
def endOfLine? (text : List Char) : Option (List Char) :=
  match skipComment (skipBlanks text) with
  | [] => some []
  | rest => afterLineEnd? rest

def isBareKeyChar (c : Char) : Bool :=
  c.isAlphanum || c = '_' || c = '-'

/-- A key without dots. -/
def simpleKey? (text : List Char) : Option (String × List Char) :=
  match text with
  | '"' :: rest =>
    (basicString? (rest.length + 1) rest).map fun (key, rest) => (String.ofList key, rest)
  | '\x27' :: rest => (literalString? rest).map fun (key, rest) => (String.ofList key, rest)
  | text =>
    let key := text.takeWhile isBareKeyChar
    if key.isEmpty then none else some (String.ofList key, text.dropWhile isBareKeyChar)

/-- A key with its dots; the first argument bounds the number of its parts. -/
def dottedKey? : Nat → List Char → Option (List String × List Char)
  | 0, _ => none
  | fuel + 1, text => do
    let (key, rest) ← simpleKey? (skipBlanks text)
    match skipBlanks rest with
    | '.' :: rest =>
      let (keys, rest) ← dottedKey? fuel rest
      return (key :: keys, rest)
    | rest => return ([key], rest)

/-- The number of parts that a key may have, and of levels that values may have. -/
def limit : Nat := 79

/-- Adds the members of a table within a line to each other; none if their keys collide. -/
def isConsistent (members : List (List String × Value)) : Bool :=
  (members.foldlM (fun table (path, value) => Members.addValue table path value) []).isSome

mutual

/-- Reads a value. The first argument bounds the number of nested calls, the second the levels. -/
def value? : Nat → Nat → List Char → Option (Value × List Char)
  | 0, _, _ => none
  | fuel + 1, depth, text =>
    match text with
    | '[' :: rest =>
      if depth = 0 then none
      else (items? fuel (depth - 1) rest).map fun (items, rest) => (.array items, rest)
    | '\x7b' :: rest =>
      if depth = 0 then none
      else
        match skipBlanks rest with
        | '\x7d' :: rest => some (.table [], rest)
        | rest => do
          let (members, rest) ← members? fuel (depth - 1) rest
          if isConsistent members then return (.table members, rest) else none
    | text => (scalar? text).map fun (value, rest) => (.scalar value, rest)

/-- Reads the items of an array up to its closing bracket; a comma may follow the last one. -/
def items? : Nat → Nat → List Char → Option (List Value × List Char)
  | 0, _, _ => none
  | fuel + 1, depth, text =>
    match skipLines text.length text with
    | ']' :: rest => some ([], rest)
    | rest => do
      let (item, rest) ← value? fuel depth rest
      match skipLines rest.length rest with
      | ',' :: rest =>
        let (items, rest) ← items? fuel depth rest
        return (item :: items, rest)
      | ']' :: rest => return ([item], rest)
      | _ => none

/-- Reads one or more members of a table within a line, up to its closing brace. -/
def members? : Nat → Nat → List Char → Option (List (List String × Value) × List Char)
  | 0, _, _ => none
  | fuel + 1, depth, text => do
    let (path, rest) ← dottedKey? limit text
    let rest ← after? '=' rest
    let (value, rest) ← value? fuel depth (skipBlanks rest)
    match skipBlanks rest with
    | ',' :: rest =>
      let (members, rest) ← members? fuel depth rest
      return ((path, value) :: members, rest)
    | '\x7d' :: rest => return ([(path, value)], rest)
    | _ => none

end

/-- One line of a document. -/
inductive Statement where
  | nothing
  | table (path : List String)
  | listed (path : List String)
  | pair (path : List String) (value : Value)

/-- Reads a statement and the end of its line. A value may go over several lines. -/
def statement? (text : List Char) : Option (Statement × List Char) :=
  match skipBlanks text with
  | [] => some (.nothing, [])
  | '[' :: '[' :: rest => do
    let (path, rest) ← dottedKey? limit rest
    let rest ← after? ']' rest
    let rest ← after? ']' rest
    return (.listed path, ← endOfLine? rest)
  | '[' :: rest => do
    let (path, rest) ← dottedKey? limit rest
    let rest ← after? ']' rest
    return (.table path, ← endOfLine? rest)
  | c :: rest =>
    if c = '#' || c = '\n' || c = '\r' then
      (endOfLine? (c :: rest)).map fun rest => (.nothing, rest)
    else do
      let (path, rest) ← dottedKey? limit (c :: rest)
      let rest ← after? '=' rest
      let rest := skipBlanks rest
      let (value, rest) ← value? (2 * rest.length + 2) limit rest
      return (.pair path value, ← endOfLine? rest)

/-- Reads statements up to the end of the text. The first argument bounds their number. -/
def statements? : Nat → List Char → Option (List Statement)
  | _, [] => some []
  | 0, _ => none
  | fuel + 1, text => do
    let (statement, rest) ← statement? text
    return statement :: (← statements? fuel rest)

/-- The tables after one more statement, with the header under which values are put. -/
def Statement.apply? (state : List String × Members) : Statement → Option (List String × Members)
  | .nothing => some state
  | .table path => (state.2.addTable path).map fun members => (path, members)
  | .listed path => (state.2.addListed path).map fun members => (path, members)
  | .pair path value =>
    (state.2.addWithin state.1 path value).map fun members => (state.1, members)

/-- What stands under the keys of the outermost table of a document. -/
def parse? (text : String) : Option Members := do
  let chars := match text.toList with
    | '\ufeff' :: rest => rest
    | chars => chars
  let statements ← statements? (chars.length + 1) chars
  let (_, members) ← statements.foldlM Statement.apply? ([], [])
  return members

end ZoneSync.Toml
