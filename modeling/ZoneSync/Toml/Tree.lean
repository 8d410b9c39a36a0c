import ZoneSync.Toml.Scalar

/-!
# Tables of a TOML document

Which tables a document has defined, and how. A key may be given once; a table may be defined once
by a header, and tables that dotted keys define cannot be mixed with tables that headers define.
-/

namespace ZoneSync.Toml

/-- A value with its parts. Members of a table within a line keep their dotted keys. -/
inductive Value where
  | scalar (value : Scalar)
  | array (items : List Value)
  | table (members : List (List String × Value))

/-- What stands under a key. A table is `defined` if it has a header of its own, and `dotted` if a
dotted key has made it. -/
inductive Node where
  | value (value : Value)
  | table (defined dotted : Bool) (members : List (String × Node))
  | tables (items : List (List (String × Node)))

abbrev Members := List (String × Node)

namespace Members

def find? (members : Members) (key : String) : Option Node :=
  (List.find? (fun member => member.1 == key) members).map Prod.snd

/-- Puts a node under a key, in the place of what stands there. -/
def put (members : Members) (key : String) (node : Node) : Members :=
  if (members.find? key).isSome then
    members.map fun member => if member.1 == key then (key, node) else member
  else members ++ [(key, node)]

/-- Changes the table at the end of a path. Missing tables are made on the way; `byDots` says that
the path comes from a dotted key, which may not enter a table that has a header. The change is told
whether a dotted key has made the table. -/
def alter (byDots : Bool) (change : Bool → Members → Option Members) :
    List String → Bool → Members → Option Members
  | [], dotted, members => change dotted members
  | key :: path, _, members =>
    match members.find? key with
    | none =>
      (alter byDots change path byDots []).map fun inner =>
        members.put key (.table false byDots inner)
    | some (.value _) => none
    | some (.table defined dotted inner) =>
      if byDots && defined then none
      else
        (alter byDots change path dotted inner).map fun inner =>
          members.put key (.table defined dotted inner)
    | some (.tables items) =>
      (alter byDots change path false (items.getLast?.getD [])).map fun inner =>
        members.put key (.tables (items.dropLast ++ [inner]))

/-- Adds a value under a dotted key; the key may not be in use. -/
def addValue (members : Members) (path : List String) (value : Value) : Option Members :=
  let last := path.getLast?.getD ""
  let tables := path.dropLast
  alter true
    (fun dotted members =>
      if dotted == tables.isEmpty || (members.find? last).isSome then none
      else some (members.put last (.value value)))
    tables false members

/-- Defines the table of a header. -/
def addTable (members : Members) (path : List String) : Option Members :=
  let last := path.getLast?.getD ""
  alter false
    (fun _ members =>
      match members.find? last with
      | none => some (members.put last (.table true false []))
      | some (.table false false inner) => some (members.put last (.table true false inner))
      | some _ => none)
    path.dropLast false members

/-- Adds one more table to the list of tables of a header. -/
def addListed (members : Members) (path : List String) : Option Members :=
  let last := path.getLast?.getD ""
  alter false
    (fun _ members =>
      match members.find? last with
      | none => some (members.put last (.tables [[]]))
      | some (.tables items) => some (members.put last (.tables (items ++ [[]])))
      | some _ => none)
    path.dropLast false members

/-- Adds a value to the table of the last header. -/
def addWithin (members : Members) (header path : List String) (value : Value) : Option Members :=
  alter false (fun _ members => members.addValue path value) header false members

end Members

end ZoneSync.Toml
