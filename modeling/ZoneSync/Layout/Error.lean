import ZoneSync.Layout.Directive
import ZoneSync.Zone

/-!
# Errors of a layout text

A line is either of no known shape, or of a known shape with something wrong in it. Both errors name
the line and show it.
-/

namespace ZoneSync

/-- What is wrong with the content of a line of known shape. -/
inductive Layout.Fault where
  | noOpenZone
  | blankInDomain (domain : String)
  | setting (error : SettingError)
  | directive (error : Layout.DirectiveError)
  | record (error : RecordError)
  | priority (text : String)
  deriving DecidableEq, Repr

def Layout.Fault.message : Layout.Fault → String
  | noOpenZone => "no zone is open at this point"
  | blankInDomain domain => s!"domain name '{domain}' must not contain whitespace"
  | setting error => error.message
  | directive error => error.message
  | record error => error.message
  | priority text => s!"priority '{text}' is not an integer in 0..=65535"

inductive LayoutError where
  | unknownShape (line : Nat) (content : String)
  | invalid (line : Nat) (content : String) (reason : String)
  deriving DecidableEq, Repr

def LayoutError.message : LayoutError → String
  | unknownShape line content => s!"syntax error in line {line}: {Text.quoted content}"
  | invalid line content reason =>
    s!"configuration error in line {line} ({Text.quoted content}): {reason}"

end ZoneSync
