import ZoneSync.Json

/-!
# JSON texts

The form of a JSON text, before its value is asked for. A text of correct form may still hold parts
without a value: a number out of range, a string with half of a surrogate pair, or a nesting that is
too deep. Whoever reads a text and ignores a part of it does not notice that the part has no value.
-/

namespace ZoneSync.Json

/-- What a JSON text says, with `none` for leaves that have no value. -/
inductive Form where
  | null
  | bool (value : Bool)
  | number (value : Option Json)
  | string (value : Option String)
  | array (items : List Form)
  | object (members : List (Option String × Form))

/-- How many arrays and objects may be nested. -/
def deepest : Nat := 127

mutual

/-- The value, as long as no more than `depth` arrays and objects are nested. -/
def Form.valueWithin? (depth : Nat) : Form → Option Json
  | .null => some .null
  | .bool value => some (.bool value)
  | .number value => value
  | .string value => value.map .string
  | .array items =>
    if depth = 0 then none else (Form.valuesWithin? (depth - 1) items).map .array
  | .object members =>
    if depth = 0 then none
    else (Form.membersWithin? (depth - 1) members).map fun values => .object (sortMembers values)

def Form.valuesWithin? (depth : Nat) : List Form → Option (List Json)
  | [] => some []
  | item :: rest => do
    let value ← Form.valueWithin? depth item
    let values ← Form.valuesWithin? depth rest
    return value :: values

def Form.membersWithin? (depth : Nat) : List (Option String × Form) → Option (List (String × Json))
  | [] => some []
  | (key, item) :: rest => do
    let key ← key
    let value ← Form.valueWithin? depth item
    let values ← Form.membersWithin? depth rest
    return (key, value) :: values

end

/-- The value of a text; members have ascending keys, and the last of a repeated key counts. -/
def Form.value? (form : Form) : Option Json :=
  form.valueWithin? deepest

end ZoneSync.Json
