import ZoneSync.Decimal.Binary64
import ZoneSync.Text.Basic

/-!
# JSON values

Structured data: what the provider sends and is sent, and what the structured output formats show.
Members of an object stand in the order in which they are written. Numbers are whole numbers of at
most 64 bits or binary floating-point numbers.
-/

namespace ZoneSync

inductive Json where
  | null
  | bool (value : Bool)
  | int (value : Int)
  | real (value : Decimal.Binary64)
  | string (value : String)
  | array (items : List Json)
  | object (members : List (String × Json))

namespace Json

def nat (value : Nat) : Json :=
  .int value

/-- The member of that key. -/
def lookup? (members : List (String × Json)) (key : String) : Option Json :=
  (members.find? fun member => member.1 == key).map Prod.snd

/-- Puts a member into members with ascending keys; it replaces the member of its key. -/
def putSorted (key : String) (value : Json) : List (String × Json) → List (String × Json)
  | [] => [(key, value)]
  | member :: rest =>
    match Text.compareTexts key member.1 with
    | .lt => (key, value) :: member :: rest
    | .eq => (key, value) :: rest
    | .gt => member :: putSorted key value rest

/-- The members with ascending keys; of a repeated key the last member counts. -/
def sortMembers (members : List (String × Json)) : List (String × Json) :=
  members.foldl (fun sorted member => putSorted member.1 member.2 sorted) []

end Json

end ZoneSync
