import ZoneSync.Decimal.Shortest
import ZoneSync.Json.Parser
import ZoneSync.Text.Classes
import ZoneSync.Text.Numeral
import ZoneSync.Text.Quoted

/-!
# Decoding structured data

How a JSON value is read as data of a fixed shape. The provider is careless with numbers and
switches, so these may come as strings. A structure comes as an object or as an array of its fields
in the order of their declaration; what it does not know it ignores. In a text, only the parts that
a structure knows need to have a value, and none of them may be given twice.
-/

namespace ZoneSync

/-- Why a value does not have the expected shape. -/
inductive DecodeError where
  | wrongType (found expected : String)
  | outOfRange (value : Int)
  | missingField (key : String)
  | tooShort (length : Nat) (shape : String) (size : Nat)
  | tooLong (length : Nat)
  | noVariant (variants : String)
  | notAnInteger (text : String)
  | notABoolean (text : String)
  deriving DecidableEq, Repr

def DecodeError.message : DecodeError → String
  | wrongType found expected => s!"invalid type: {found}, expected {expected}"
  | outOfRange value => s!"invalid value: integer \x60{value}\x60, expected i64"
  | missingField key => s!"missing field \x60{key}\x60"
  | tooShort length shape size =>
    let elements := if size = 1 then "1 element" else s!"{size} elements"
    s!"invalid length {length}, expected {shape} with {elements}"
  | tooLong length => s!"invalid length {length}, expected fewer elements in array"
  | noVariant variants => s!"data did not match any variant of untagged enum {variants}"
  | notAnInteger text => s!"expected integer, got {Text.quoted text}"
  | notABoolean text => s!"expected boolean, got {Text.quoted text}"

namespace Decode

/-- What a value is, as an error tells it. -/
def describe : Json → String
  | .null => "null"
  | .bool value => s!"boolean \x60{value}\x60"
  | .int value => s!"integer \x60{value}\x60"
  | .real value => "floating point \x60" ++ String.ofList value.compact ++ "\x60"
  | .string value => "string " ++ Text.quoted value
  | .array _ => "sequence"
  | .object _ => "map"

/-! ### Plain values -/

def string : Json → Except DecodeError String
  | .string value => .ok value
  | other => .error (.wrongType (describe other) "a string")

def optionalString : Json → Except DecodeError (Option String)
  | .null => .ok none
  | other => some <$> string other

/-- A whole number of 64 bits with a sign. -/
def int64 : Json → Except DecodeError Int
  | .int value => if value < (UInt64.size / 2 : Nat) then .ok value else .error (.outOfRange value)
  | other => .error (.wrongType (describe other) "i64")

def array (item : Json → Except DecodeError α) : Json → Except DecodeError (List α)
  | .array items => items.mapM item
  | other => .error (.wrongType (describe other) "a sequence")

/-! ### Careless numbers and switches -/

/-- A number of 64 bits in a text, with blanks around it. -/
def integerText (text : String) : Except DecodeError UInt64 :=
  match Text.numeral? UInt64.size (Text.trim text.toList) with
  | some value => .ok (.ofNat value)
  | none => .error (.notAnInteger text)

/-- A number or the text of one. -/
def integer : Json → Except DecodeError UInt64
  | .int (.ofNat value) => .ok (.ofNat value)
  | .string text => integerText text
  | _ => .error (.noVariant "IntOrString")

/-- A number that may be left out, also by null or by a blank text. -/
def optionalInteger : Json → Except DecodeError (Option UInt64)
  | .null => .ok none
  | .string text =>
    if (Text.trim text.toList).isEmpty then .ok none else some <$> integerText text
  | other => some <$> integer other

/-- A text; a number stands for its digits. -/
def identifier : Json → Except DecodeError String
  | .int (.ofNat value) => .ok (toString value)
  | .string text => .ok text
  | _ => .error (.noVariant "IntOrString")

/-- A switch in a text; the case of ASCII letters does not matter. -/
def booleanText (text : String) : Except DecodeError Bool :=
  let word := String.ofList (text.toList.map Char.toLower)
  if word ∈ ["true", "yes", "1"] then .ok true
  else if word ∈ ["false", "no", "0", ""] then .ok false
  else .error (.notABoolean text)

def boolean : Json → Except DecodeError Bool
  | .bool value => .ok value
  | .string text => booleanText text
  | _ => .error (.noVariant "BoolOrString")

/-! ### Structures -/

/-- A field of a structure, and how its value is put into the structure. -/
structure Field (σ : Type) where
  key : String
  required : Bool
  put : Json → σ → Except DecodeError σ

/-- A structure: its name, what it is before any field is known, and its fields. -/
structure Shape (σ : Type) where
  name : String
  blank : σ
  fields : List (Field σ)

namespace Shape

variable {σ : Type} (shape : Shape σ)

/-- Takes over a member if it is a known field. -/
def putMember (filled : σ) (member : String × Json) : Except DecodeError σ :=
  match shape.fields.find? fun field => field.key == member.1 with
  | some field => field.put member.2 filled
  | none => .ok filled

/-- Members are read by ascending keys; then the first field that is missing is reported. -/
def ofMembers (members : List (String × Json)) : Except DecodeError σ := do
  let filled ← (Json.sortMembers members).foldlM shape.putMember shape.blank
  let isMissing := fun field : Field σ => (Json.lookup? members field.key).isNone
  match shape.fields.find? fun field => field.required && isMissing field with
  | some field => throw (.missingField field.key)
  | none => return filled

/-- Reads the items that are left into the fields that are left. -/
def putItems (items : List Json) :
    List (Field σ) → List Json → σ → Except DecodeError σ
  | [], [], filled => .ok filled
  | [], _ :: _, _ => .error (.tooLong items.length)
  | field :: fields, item :: rest, filled => do
    putItems items fields rest (← field.put item filled)
  | field :: fields, [], filled =>
    if field.required then
      let size := shape.fields.length
      .error (.tooShort (size - (fields.length + 1)) ("struct " ++ shape.name) size)
    else putItems items fields [] filled

def ofItems (items : List Json) : Except DecodeError σ :=
  shape.putItems items shape.fields items shape.blank

def decode : Json → Except DecodeError σ
  | .object members => shape.ofMembers members
  | .array items => shape.ofItems items
  | other => .error (.wrongType (describe other) ("struct " ++ shape.name))

/-! ### Structures in texts -/

/-- The value of a part; the structure itself is the first level of nesting. -/
def partValue? (part : Json.Form) : Option Json :=
  part.valueWithin? (Json.deepest - 1)

/-- The members that the structure knows, with their values; `seen` are the keys before. -/
def knownMembers? (seen : List String) :
    List (Option String × Json.Form) → Option (List (String × Json))
  | [] => some []
  | (none, _) :: _ => none
  | (some key, part) :: rest =>
    if shape.fields.any fun field => field.key == key then
      if key ∈ seen then none
      else do
        let value ← partValue? part
        let members ← knownMembers? (key :: seen) rest
        return (key, value) :: members
    else knownMembers? seen rest

/-- The structure that is written in a text. -/
def parse? (text : String) : Option σ := do
  match ← Json.Form.parse? text with
  | .object members => (shape.decode (.object (← shape.knownMembers? [] members))).toOption
  | .array items => (shape.decode (.array (← items.mapM partValue?))).toOption
  | _ => none

end Shape

end Decode

end ZoneSync
