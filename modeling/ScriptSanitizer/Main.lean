import ScriptSanitizer.Command.Run

/-!
# The program

Reads the arguments, the environment, files and the standard input, and writes what the run gives.
-/

namespace ScriptSanitizer

namespace Program

/-- The variables of the environment that a run looks at. -/
def watchedVariables : List String :=
  [Settings.maxPassesKey, Settings.maxNestingKey, Command.configKey, Command.logFilterKey]

/-- The bytes of a file. -/
def readFile (path : Text) : IO (Except Command.InputError (List UInt8)) := do
  let name := String.ofList path
  try
    return .ok (← IO.FS.readBinFile name).toList
  catch
    | .inappropriateType .. => return .error .isDirectory
    | _ => return .error .notFound

/-- The files that a run may look at: those that its arguments and its environment name. -/
def readFiles (paths : List Text) :
    IO (List (Text × Except Command.InputError (List UInt8))) :=
  paths.mapM fun path => return (path, ← readFile path)

/-- The paths that a request names. -/
def pathsOf (request : Command.Request) : List Text :=
  let document :=
    match request.task with
    | .json path _ => path
    | _ => none
  request.options.config.toList ++ document.toList

/-- A request that needs the standard input. -/
def needsInput (request : Command.Request) : Bool :=
  match request.task with
  | .sanitize values _ => values.isEmpty
  | .query _ => false
  | .json path _ => path.isNone
  | .detect values => values.isEmpty

/-- Read a stream to its end, behind bytes that have been read. -/
partial def readAll (stream : IO.FS.Stream) (bytes : ByteArray) : IO ByteArray := do
  let chunk ← stream.read 65536
  if chunk.isEmpty then return bytes else readAll stream (bytes ++ chunk)

/-- A field of an event, for a line of the log. -/
def showField : String × FieldValue → String
  | (name, .number value) => " " ++ name ++ "=" ++ toString value
  | (name, .text value) => " " ++ name ++ "=" ++ String.ofList value

/-- Show an event on the standard error. -/
def showEvent (log : Command.LogSettings) (event : Event) : IO Unit := do
  let stderr ← IO.getStderr
  match log.format with
  | .json => stderr.putStrLn (String.ofList (log.eventJson event).compact)
  | _ =>
    stderr.putStrLn
      (event.level.name ++ " " ++ event.message ++ String.join (event.fields.map showField))

/-- Run the program with arguments. -/
def start (arguments : List String) : IO UInt32 := do
  let environment ← watchedVariables.filterMapM fun key => do
    return (← IO.getEnv key).map fun value => (key, value.toList)
  let arguments := arguments.map String.toList
  let request? := Command.Request.ofArguments? (environment.lookup Command.configKey) arguments
  let (paths, needed) :=
    match request? with
    | .ok request => (pathsOf request, needsInput request)
    | .error _ => ([], false)
  let files ← readFiles paths
  let input ← if needed then readAll (← IO.getStdin) .empty else pure .empty
  let surroundings : Command.Surroundings :=
    { environment
      file := fun path => (files.lookup path).getD (.error .notFound)
      input := input.toList }
  let outcome := Command.run surroundings arguments
  (← IO.getStdout).putStr (String.ofList outcome.output)
  for event in outcome.events do
    showEvent outcome.log event
  for message in outcome.messages do
    (← IO.getStderr).putStrLn (String.ofList message)
  return outcome.code.toUInt32

end Program

end ScriptSanitizer

/-- The program. -/
def main (arguments : List String) : IO UInt32 := ScriptSanitizer.Program.start arguments
