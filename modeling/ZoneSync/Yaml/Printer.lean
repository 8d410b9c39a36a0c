import ZoneSync.Json.Printer
import ZoneSync.Yaml.Scalar

/-!
# Writing YAML

Structured data in block style, two spaces for each level. The items of a sequence that is the value
of a member stand at the level of the member; a mapping that is an item of a sequence begins on the
line of its dash.
-/

namespace ZoneSync.Yaml

/-- The text with a line break at its end. -/
def endLine (text : String) : String :=
  if text.toList.getLast?.any isBreak then text else text ++ "\n"

def spaces (indent : Nat) : String :=
  String.ofList (indentation indent)

/-- A value without parts, or an empty one. -/
def leafText (indent : Nat) : Json → String
  | .string value => scalarText false indent value
  | value => value.leafText

/-- Arrays and objects that are written over several lines. -/
def isBlock : Json → Bool
  | .array (_ :: _) => true
  | .object (_ :: _) => true
  | _ => false

mutual

/-- A value at the given indentation: whole lines, the first of them without its indentation. -/
def block (indent : Nat) : Json → String
  | .array items => (spaces indent).intercalate (blockItems indent items)
  | .object members => (spaces indent).intercalate (blockMembers indent members)
  | value => endLine (leafText indent value)

/-- Items with their dashes. -/
def blockItems (indent : Nat) : List Json → List String
  | [] => []
  | item :: rest =>
    let text :=
      if isBlock item then block (indent + 2) item else endLine (leafText (indent + 2) item)
    ("- " ++ text) :: blockItems indent rest

/-- Members with their keys. A key that does not fit on its line is marked by a question mark. -/
def blockMembers (indent : Nat) : List (String × Json) → List String
  | [] => []
  | (key, value) :: rest =>
    let text :=
      if isSimpleKey key then
        scalarText true (indent + 2) key ++ ":" ++
          match value with
          | .object (member :: members) =>
            "\n" ++ spaces (indent + 2) ++ block (indent + 2) (.object (member :: members))
          | .array (item :: items) =>
            "\n" ++ spaces indent ++ block indent (.array (item :: items))
          | value => " " ++ endLine (leafText (indent + 2) value)
      else
        "? " ++ endLine (scalarText false (indent + 2) key) ++ spaces indent ++ ": " ++
          (if isBlock value then block (indent + 2) value
          else endLine (leafText (indent + 2) value))
    text :: blockMembers indent rest

end

/-- The document of a value. -/
def document (value : Json) : String :=
  if isBlock value then block 0 value else endLine (leafText 0 value)

end ZoneSync.Yaml
