import ZoneSync.Text.Basic
import ZoneSync.Text.Classes

/-!
# Lines of a layout text

The indent of a line is the number of tabs it begins with, and its tokens are what stands between
the tabs after them, trimmed, as far as anything is left. The indent and the number of tokens, with
the first character of the first token, decide what the line means; comments and blank lines mean
nothing.
-/

namespace ZoneSync.Layout

structure Line where
  number : Nat
  content : List Char
  deriving DecidableEq, Repr

/-- The texts of a line by the part that they play. -/
inductive Shape where
  | nothing
  | default (name value : String)
  | zone (domain : String)
  | override (name value : String)
  | directive (action : String) (filters : List String)
  | record (type hostname destination : String) (priority : Option String)
  deriving DecidableEq, Repr

namespace Line

/-- The lines of a text, numbered from one. -/
def ofText (text : String) : List Line :=
  ((Text.lines text.toList).zipIdx 1).map fun (content, number) =>
    ⟨number, Text.dropReturn content⟩

def isTab (c : Char) : Bool :=
  c = '\t'

def indent (line : Line) : Nat :=
  (line.content.takeWhile isTab).length

def tokens (line : Line) : List String :=
  let pieces := Text.fields '\t' (line.content.dropWhile isTab)
  ((pieces.map Text.trim).filter fun piece => !piece.isEmpty).map String.ofList

def isComment (line : Line) : Bool :=
  (Text.trimStart line.content).head? == some '#'

/-- Whether the token begins with `mark`. -/
def marked (mark : Char) (token : String) : Bool :=
  token.toList.head? == some mark

/-- The token without all marks that it begins with. -/
def unmarked (mark : Char) (token : String) : String :=
  String.ofList (token.toList.dropWhile (· = mark))

/-- What a line inside a zone means. -/
def bodyShape? : List String → Option Shape
  | [] => none
  | first :: rest =>
    if marked '!' first then some (.directive (unmarked '!' first) rest)
    else
      match rest with
      | [value] => if marked '.' first then some (.override (unmarked '.' first) value) else none
      | [hostname, destination] => some (.record first hostname destination none)
      | [hostname, destination, priority] =>
        some (.record first hostname destination (some priority))
      | _ => none

/-- What a line outside of zones means. -/
def topShape? : List String → Option Shape
  | [domain] => if marked '.' domain then none else some (.zone domain)
  | [name, value] => if marked '.' name then some (.default (unmarked '.' name) value) else none
  | _ => none

def shape? (line : Line) : Option Shape :=
  if line.isComment || line.tokens.isEmpty then some .nothing
  else
    match line.indent with
    | 0 => topShape? line.tokens
    | 1 => bodyShape? line.tokens
    | _ => none

end Line

end ZoneSync.Layout
