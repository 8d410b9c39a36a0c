import ZoneSync.Text.Basic
import ZoneSync.Text.Classes
import ZoneSync.Text.Numeral
import ZoneSync.Toml.Parser

/-!
# Values of configuration keys

A value of a key comes from a file or from a variable of the environment. In a variable, numbers and
switches are told from texts by how they look; a text may stand between quotes.
-/

namespace ZoneSync.Config

/-- A value as far as the keys tell values apart. -/
inductive Value where
  | text (value : String)
  | number (value : UInt64)
  | switch (value : Bool)
  | other
  deriving DecidableEq, Repr

namespace Value

open Text

/-! ### In files -/

def ofScalar : Toml.Scalar → Value
  | .string value => text value
  | .bool value => switch value
  | .int (.ofNat value) => number (.ofNat value)
  | _ => other

def ofNode : Toml.Node → Value
  | .value (.scalar value) => ofScalar value
  | _ => other

/-! ### In variables -/

def isBlank (c : Char) : Bool :=
  c ∈ [' ', '\t', '\n', '\x0c', '\r']

def skipBlanks (text : List Char) : List Char :=
  text.dropWhile isBlank

/-- Characters that end a plain value. -/
def isSeparator (c : Char) : Bool :=
  [',', '[', ']', '\x7b', '\x7d'].contains c

/-- Characters of a key within braces. -/
def isKeyPart (c : Char) : Bool :=
  c.isAlphanum || c = '_' || c = '-'

/-- Whether a text is a number with a point. -/
def isFraction (value : List Char) : Bool :=
  let isSign := fun c : Char => c = '+' || c = '-'
  let unsigned := if value.head?.any isSign then value.tail else value
  let mantissa := unsigned.takeWhile fun c => c != 'e' && c != 'E'
  let exponent := match unsigned.drop mantissa.length with
    | [] => ['0']
    | _ :: digits => if digits.head?.any isSign then digits.tail else digits
  match fields '.' mantissa with
  | [whole, fraction] => (digits? (whole ++ fraction)).isSome && (digits? exponent).isSome
  | _ => false

/-- A value without quotes and brackets. A whole number below zero is a number, too, but no key
wants one. -/
def plain (value : List Char) : Value :=
  if isFraction value then other
  else
    match numeral? UInt64.size value, value with
    | some natural, _ => number (.ofNat natural)
    | none, '-' :: digits =>
      match (digits? digits).filter (· ≤ UInt64.size / 2) with
      | some 0 => number 0
      | some _ => other
      | none => text (String.ofList value)
    | none, _ => text (String.ofList value)

/-- The characters between quotes, after the opening one; controls are not among them. The first
argument bounds their number. -/
def quoted? : Nat → List Char → Option (List Char × List Char)
  | 0, _ => none
  | _, [] => none
  | _ + 1, '"' :: rest => some ([], rest)
  | fuel + 1, '\\' :: rest => do
    let (c, rest) ← Toml.escape? rest
    let (more, rest) ← quoted? fuel rest
    return (c :: more, rest)
  | fuel + 1, c :: rest =>
    if Toml.isText c then (quoted? fuel rest).map fun (more, rest) => (c :: more, rest) else none

/-- The text after a key within braces and its equals sign. -/
def afterKey? (text : List Char) : Option (List Char) := do
  let text := skipBlanks text
  let rest ← match text with
    | '"' :: rest => (quoted? (rest.length + 1) rest).map Prod.snd
    | text => if text.head?.any isKeyPart then some (text.dropWhile isKeyPart) else none
  match skipBlanks rest with
  | '=' :: rest => some rest
  | _ => none

mutual

/-- Reads a value. The first argument bounds the number of nested calls. -/
def value? : Nat → List Char → Option (Value × List Char)
  | 0, _ => none
  | fuel + 1, input => do
    let (value, rest) ← match skipBlanks input with
      | 't' :: 'r' :: 'u' :: 'e' :: rest => some (switch true, rest)
      | 'f' :: 'a' :: 'l' :: 's' :: 'e' :: rest => some (switch false, rest)
      | '[' :: rest => (items? fuel false ']' rest).map fun rest => (other, rest)
      | '\x7b' :: rest => (items? fuel true '\x7d' rest).map fun rest => (other, rest)
      | '"' :: rest =>
        (quoted? (rest.length + 1) rest).map fun (value, rest) => (text (String.ofList value), rest)
      | '\x27' :: c :: '\x27' :: rest => some (text (String.singleton c), rest)
      | '\x27' :: _ => none
      | rest =>
        let value := rest.takeWhile fun c => !isSeparator c
        some (plain (trim value), rest.drop value.length)
    return (value, skipBlanks rest)

/-- Reads items up to the closing bracket; `keyed` items have a key each. -/
def items? (fuel : Nat) (keyed : Bool) (closing : Char) (input : List Char) : Option (List Char) :=
  match fuel with
  | 0 => none
  | fuel + 1 =>
    if input.head? = some closing then some input.tail
    else do
      let input ← if keyed then afterKey? input else some input
      let (_, rest) ← value? fuel input
      match rest with
      | ',' :: rest => items? fuel keyed closing rest
      | c :: rest => if c = closing then some rest else none
      | [] => none

end

/-- The value of a variable. What is not well formed as a whole is a text as it stands. -/
def ofVariable (raw : String) : Value :=
  let chars := raw.toList
  match value? (2 * chars.length + 2) chars with
  | some (value, []) => value
  | _ => text raw

end Value

end ZoneSync.Config
