import ZoneSync.Command.Failure
import ZoneSync.Command.Invocation
import ZoneSync.Layout.Parser

/-!
# Layout files

Every file is read on its own. A zone that a later file declares again replaces the earlier one
where it stands, and the operator is warned. A hyphen stands for the standard input, which can be
read once.
-/

namespace ZoneSync.Command

/-- The path stands for the standard input: a hyphen, behind which a path may go on without naming
anything more. -/
def isInput (path : String) : Bool :=
  match Text.fields '/' path.toList with
  | first :: rest => first = ['-'] && rest.all fun part => part.isEmpty || part = ['.']
  | [] => false

/-- The text of a layout file. What has been read from the standard input is gone. -/
def readSource (surroundings : Surroundings) (inputRead : Bool) (path : String) :
    Except ReadFault String :=
  if isInput path then
    if inputRead then .ok "" else Surroundings.decodeText surroundings.input
  else surroundings.readText path

/-- The layout of one file. -/
def loadFile (surroundings : Surroundings) (inputRead : Bool) (path : String) :
    Except Failure Layout := do
  let text ← (readSource surroundings inputRead path).mapError (.unreadable (.file path))
  (Layout.parse text).mapError (Failure.layout path)

/-- Warnings of the domains that are declared again. -/
def declaredAgain (layout : Layout) (path : String) (next : Layout) : List Warning :=
  (next.domains.filter fun domain => (layout.get? domain).isSome).map (.declaredAgain · path)

/-- Takes the files over into `layout`, up to the first that cannot be read. -/
def loadInto (surroundings : Surroundings) (inputRead : Bool) (layout : Layout) :
    List String → List Warning × Except Failure Layout
  | [] => ([], .ok layout)
  | path :: rest =>
    match loadFile surroundings inputRead path with
    | .error failure => ([], .error failure)
    | .ok next =>
      let (warnings, result) :=
        loadInto surroundings (inputRead || isInput path) (layout.extend next) rest
      (declaredAgain layout path next ++ warnings, result)

/-- The layout that the files declare together, with the warnings that there are. -/
def Sources.load (surroundings : Surroundings) (sources : Sources) :
    List Warning × Except Failure Layout :=
  let (warnings, result) := loadInto surroundings false Layout.empty sources.files
  (warnings, result.map (·.filter sources.domains))

end ZoneSync.Command
