import ZoneSync.Command.Run

/-!
# The program

Collects what there is around the program, runs the command, and writes out what it has to say.
There is no network here, so every request finds its endpoint unreachable.
-/

namespace ZoneSync.Main

/-- Everything on a stream, after what has been read of it. -/
partial def readAll (stream : IO.FS.Stream) (before : ByteArray) : IO ByteArray := do
  let bytes ← stream.read 65536
  if bytes.isEmpty then return before else readAll stream (before ++ bytes)

/-- What the system says of a path that goes through a file. -/
def notDirectoryCode : UInt32 := 20

def readFile (path : String) : IO (Except FileFault ByteArray) := do
  try
    return .ok (← IO.FS.readBinFile path)
  catch
    | .noFileOrDirectory .. => return .error .missing
    | .inappropriateType _ code _ =>
      return .error (if code = notDirectoryCode then .beneathFile else .directory)
    | error => return .error (.other (toString error))

/-- Surroundings in which the named files are known. -/
def look (paths : List String) (needsInput : Bool) : IO Surroundings := do
  let files ← paths.mapM fun path => return (path, ← readFile path)
  let bindings ← Surroundings.variableNames.filterMapM fun name => do
    return (← IO.getEnv name).map fun value => (name, value)
  let input ← if needsInput then readAll (← IO.getStdin) ByteArray.empty else pure ByteArray.empty
  return {
    file := fun path => (files.lookup path).getD (.error .missing)
    bindings := bindings
    input := input
    screen := ← (← IO.getStdout).isTty
    answer := none }

def needsInput (invocation : Command.Invocation) : Bool :=
  match invocation.action with
  | .print sources _ | .push sources _ _ => sources.files.any Command.isInput
  | _ => false

def tell (warning : Warning) : IO Unit := do
  let details := warning.details.map fun (key, value) => s!" {key}={value}"
  IO.eprintln ("WARN " ++ warning.message ++ String.join details)

def explain (failed : Failure) : IO Unit := do
  unless failed.code.isEmpty do IO.eprintln failed.code
  IO.eprintln ("  " ++ failed.message)
  match failed.help with
  | some help => IO.eprintln ("  help: " ++ help)
  | none => return ()

def showUsage (usage : Command.Usage) : IO Unit :=
  match usage with
  | .version text => IO.print text
  | .help => IO.println "Usage: dnssync [OPTIONS] <COMMAND>"
  | _ => IO.eprintln "Usage: dnssync [OPTIONS] <COMMAND>"

def runCommand (invocation : Command.Invocation) : IO UInt32 := do
  let before ← look [] false
  let known ← look (Command.filesToRead before invocation) false
  let surroundings ← look (Command.filesToRead known invocation) (needsInput invocation)
  let (transcript, _) := (Command.run surroundings invocation).run
    (fun (_ : Unit) _ => (.unreachable, ())) ()
  let report := transcript.result
  transcript.warnings.forM tell
  IO.print report.output
  IO.eprint report.notes
  if let .error failed := report.result then explain failed
  return report.exitCode.toUInt32

end ZoneSync.Main

def main (words : List String) : IO UInt32 := do
  let before ← ZoneSync.Main.look [] false
  match ZoneSync.Command.parse before.environment words with
  | .ok invocation => ZoneSync.Main.runCommand invocation
  | .error usage =>
    ZoneSync.Main.showUsage usage
    return usage.exitCode.toUInt32
