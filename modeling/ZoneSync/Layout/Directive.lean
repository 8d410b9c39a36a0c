import ZoneSync.Record

/-!
# Directives

Between the records of a zone there may be directives that edit the records declared before them.
The only one removes the records that match a pattern.
-/

namespace ZoneSync.Layout

/-- Why a directive is refused. -/
inductive DirectiveError where
  | unknownAction (name : String)
  | unknownFilter (key : String)
  | duplicateFilter (key : String)
  | malformedFilter (token : String)
  | recordType (error : RecordError)
  deriving DecidableEq, Repr

/-- The actions that a directive may name. -/
inductive Action where
  | removeRecord
  deriving DecidableEq, Repr

namespace Action

def all : List Action := [removeRecord]

def name : Action → String
  | removeRecord => "remove-record"

def ofName? (name : String) : Option Action :=
  all.find? fun action => name == action.name

end Action

def DirectiveError.message : DirectiveError → String
  | unknownAction name =>
    s!"unknown directive action '{name}', valid actions are: " ++
      ", ".intercalate (Action.all.map Action.name)
  | unknownFilter key =>
    s!"unknown directive filter '{key}', valid filters are: type, hostname, destination"
  | duplicateFilter key => s!"directive filter '{key}' given more than once"
  | malformedFilter token => s!"directive filter '{token}' is not of the form key=value"
  | recordType error => error.message

/-- Which records are meant; an absent part matches everything. -/
structure Pattern where
  type : Option RecordType
  hostname : Option String
  destination : Option String
  deriving DecidableEq, Repr

namespace Pattern

/-- Matches every record. -/
def any : Pattern := ⟨none, none, none⟩

def isMatch (pattern : Pattern) (record : Record) : Bool :=
  pattern.type.all (· == record.type) && pattern.hostname.all (· == record.hostname) &&
    pattern.destination.all (· == record.destination)

/-- The texts before and after the first equals sign. -/
def cutAtEquals? : List Char → Option (List Char × List Char)
  | [] => none
  | c :: rest =>
    if c = '=' then some ([], rest)
    else (cutAtEquals? rest).map fun (key, value) => (c :: key, value)

/-- The key and the value of a filter. -/
def keyValue? (token : String) : Option (String × String) :=
  (cutAtEquals? token.toList).map fun (key, value) => (String.ofList key, String.ofList value)

/-- Adds what one filter demands; each key may be used once. -/
def addFilter (pattern : Pattern) (token : String) : Except DirectiveError Pattern :=
  match keyValue? token with
  | none => .error (.malformedFilter token)
  | some (key, value) =>
    match key with
    | "type" =>
      if pattern.type.isSome then .error (.duplicateFilter key)
      else
        match RecordType.ofName? value with
        | some type => .ok { pattern with type := some type }
        | none => .error (.recordType (.unknownType value))
    | "hostname" =>
      if pattern.hostname.isSome then .error (.duplicateFilter key)
      else .ok { pattern with hostname := some value }
    | "destination" =>
      if pattern.destination.isSome then .error (.duplicateFilter key)
      else .ok { pattern with destination := some value }
    | _ => .error (.unknownFilter key)

/-- The pattern of a list of filters. -/
def ofFilters (tokens : List String) : Except DirectiveError Pattern :=
  tokens.foldlM addFilter any

/-- The filters that make up the pattern. -/
def filters (pattern : Pattern) : List String :=
  (pattern.type.map fun type => "type=" ++ type.name).toList ++
    (pattern.hostname.map fun hostname => "hostname=" ++ hostname).toList ++
    (pattern.destination.map fun destination => "destination=" ++ destination).toList

def display (pattern : Pattern) : String :=
  match pattern.filters with
  | [] => "*"
  | filters => " ".intercalate filters

end Pattern

/-- Drops the records before it that match its pattern. -/
structure Directive where
  action : Action
  pattern : Pattern
  deriving DecidableEq, Repr

namespace Directive

/-- Reads the action and then the filters. -/
def parse (action : String) (filters : List String) : Except DirectiveError Directive :=
  match Action.ofName? action with
  | none => .error (.unknownAction action)
  | some action => return ⟨action, ← Pattern.ofFilters filters⟩

def apply (directive : Directive) (records : List Record) : List Record :=
  match directive.action with
  | .removeRecord => records.filter fun record => !directive.pattern.isMatch record

end Directive

/-- One item in the body of a zone. -/
inductive Entry where
  | record (record : Record)
  | directive (directive : Directive)
  deriving DecidableEq

/-- The records after one more entry. -/
def Entry.apply (records : List Record) : Entry → List Record
  | .record added => records ++ [added]
  | .directive edit => edit.apply records

/-- The records that are left after all directives. -/
def resolve (entries : List Entry) : List Record :=
  entries.foldl Entry.apply []

end ZoneSync.Layout
