import ScriptSanitizer.Command.Arguments
import ScriptSanitizer.Command.Basic
import ScriptSanitizer.Command.Configuration
import ScriptSanitizer.Command.Input
import ScriptSanitizer.Command.LogFilter

/-!
# Runs of the program

A run takes the arguments, the environment, the files and the input, and gives an exit status,
the text for the standard output, messages for the standard error, and the events that the log
shows.  The status is zero for success, one if a check finds a value that sanitizing changes, and
two for an error.
-/

namespace ScriptSanitizer

namespace Command

/-- Why a run fails. -/
inductive RunError where
  /-- A stream or a file cannot be read. -/
  | input (cause : InputError)
  /-- The file of a document cannot be read. -/
  | document (cause : InputError)
  /-- The configuration file is none. -/
  | configuration (cause : ConfigurationError)
  /-- The settings make no sanitizer. -/
  | settings (cause : SettingsError)
  /-- The document is no JSON. -/
  | json (failure : Json.Failure)
  deriving DecidableEq

/-- The wording of an error. -/
def RunError.message : RunError → Text
  | input cause => ("IO error: " ++ cause.message).toList
  | document cause => ("Invalid JSON: " ++ cause.message).toList
  | configuration cause => ("Configuration error: " ++ cause.message).toList
  | settings cause => cause.message.toList
  | json failure => "Invalid JSON: ".toList ++ failure.message

/-- What a run reads besides its arguments. -/
structure Surroundings where
  /-- The variables of the environment. -/
  environment : Environment
  /-- The bytes of a file. -/
  file : Text → Except InputError (List UInt8)
  /-- The bytes of the standard input. -/
  input : List UInt8

/-- What a task gives. -/
structure Report where
  /-- The text for the standard output. -/
  output : Text
  /-- How many values a check finds that sanitizing changes, and of how many. -/
  finding : Option (Nat × Nat) := none
  deriving DecidableEq

/-- What a run gives. -/
structure Outcome where
  /-- The exit status. -/
  code : Nat
  /-- The text for the standard output. -/
  output : Text
  /-- The lines for the standard error, besides the log. -/
  messages : List Text
  /-- The events that the log shows. -/
  events : List Event
  /-- How the log shows them. -/
  log : LogSettings

/-- The line that reports an error, without the codes that colour its first word on a terminal. -/
def errorLine (error : RunError) : Text := "Error: ".toList ++ error.message

/-- The line that reports what a check has found, without the codes that colour its sign on a
terminal. -/
def findingLine (changed total : Nat) : Text :=
  "  ⚠ ".toList ++ digitsOf 10 changed ++ " of ".toList ++ digitsOf 10 total ++
    " values changed".toList

/-- The bytes of a document. -/
def documentBytes (surroundings : Surroundings) :
    Option Text → Except RunError (List UInt8)
  | none => .ok surroundings.input
  | some path =>
    match surroundings.file path with
    | .ok bytes => .ok bytes
    | .error .notFound => .error (.input .notFound)
    | .error cause => .error (.document cause)

/-- Do a task with a sanitizer. -/
def Task.perform (surroundings : Surroundings) (sanitizer : Sanitizer) :
    Task → Logged (Except RunError Report)
  | .sanitize values check =>
    match valuesOrLines values surroundings.input with
    | .error cause => pure (.error (.input cause))
    | .ok values => do
      let report ← sanitizeValues sanitizer values
      pure (.ok
        { output := report.output
          finding :=
            if check && report.changed != 0 then some (report.changed, report.total) else none })
  | .query text => do
    let output ← sanitizeQuery sanitizer text
    pure (.ok { output })
  | .json path pretty =>
    match documentBytes surroundings path with
    | .error error => pure (.error error)
    | .ok bytes =>
      match sanitizeJson sanitizer pretty bytes with
      | .error failure => pure (.error (.json failure))
      | .ok logged => do
        let output ← logged
        pure (.ok { output })
  | .detect values =>
    match valuesOrLines values surroundings.input with
    | .error cause => pure (.error (.input cause))
    | .ok values => do
      let report ← detectValues sanitizer values
      Logged.report (.detectFinished values.length report.flagged)
      pure (.ok { output := report.output })

/-- Set up the sanitizer and do a task. -/
def perform (surroundings : Surroundings) (settings : Settings) (task : Task) :
    Logged (Except RunError Report) :=
  match Sanitizer.ofSettings? settings with
  | .error cause => pure (.error (.settings cause))
  | .ok sanitizer => do
    Logged.report
      (.sanitizerReady settings.maxPasses settings.maxNesting sanitizer.patterns.size)
    task.perform surroundings sanitizer

/-- The configuration of a run. -/
def loadConfiguration (surroundings : Surroundings) :
    Option Text → Except RunError Configuration
  | none => .ok (.default surroundings.environment)
  | some path => do
    let bytes ← (surroundings.file path).mapError .input
    let text ← (decodeInput bytes).mapError .input
    (Configuration.ofText? surroundings.environment text).mapError .configuration

/-- The settings of the sanitizer, where options override the configuration. -/
def Options.settings (options : Options) (settings : Settings) : Settings :=
  { settings with
    maxPasses := options.maxPasses.getD settings.maxPasses
    maxNesting := options.maxNesting.getD settings.maxNesting }

/-- The settings of the log, where options override the configuration. -/
def Options.logSettings (options : Options) (log : LogSettings) : LogSettings :=
  { log with
    level := options.logLevel.getD log.level
    format := options.logFormat.getD log.format
    colors := log.colors && !(.noColor ∈ options.switches) }

/-- The variable that holds a log filter. -/
def logFilterKey : String := "RUST_LOG"

/-- The variable that names the configuration file. -/
def configKey : String := "BULWARK_CONFIG"

/-- The filter of the log: the one in the environment, or else the threshold of the settings. -/
def logFilter (environment : Environment) (log : LogSettings) : LogFilter :=
  ((environment.lookup logFilterKey).bind LogFilter.ofText?).getD (.ofThreshold log.level)

/-- The outcome of a run that fails before it has a log. -/
def Outcome.failure (error : RunError) : Outcome :=
  { code := 2, output := [], messages := [errorLine error], events := [], log := {} }

/-- The outcome of a task. -/
def Outcome.ofReport (environment : Environment) (log : LogSettings)
    (logged : Logged (Except RunError Report)) : Outcome :=
  let events := logged.events.filter (logFilter environment log).admits
  match logged.value with
  | .error error => { code := 2, output := [], messages := [errorLine error], events, log }
  | .ok report =>
    match report.finding with
    | none => { code := 0, output := report.output, messages := [], events, log }
    | some (changed, total) =>
      { code := 1, output := report.output, messages := [findingLine changed total], events, log }

/-- The outcome of a request. -/
def Request.outcome (surroundings : Surroundings) (request : Request) : Outcome :=
  match loadConfiguration surroundings request.options.config with
  | .error error => .failure error
  | .ok configuration =>
    .ofReport surroundings.environment (request.options.logSettings configuration.log)
      (perform surroundings (request.options.settings configuration.sanitizer) request.task)

/-- The line that names the version. -/
def versionLine (command : Option Name) : Text :=
  let suffix :=
    match command with
    | none => ""
    | some command => "-" ++ command.text
  line ("bulwark" ++ suffix ++ " 0.1.0").toList

/-- The outcome of arguments that make no request. -/
def Refusal.outcome : Refusal → Outcome
  | misuse => { code := 2, output := [], messages := [], events := [], log := {} }
  | help => { code := 0, output := [], messages := [], events := [], log := {} }
  | version command =>
    { code := 0, output := versionLine command, messages := [], events := [], log := {} }

/-- The outcome of a run. -/
def run (surroundings : Surroundings) (arguments : List Text) : Outcome :=
  match Request.ofArguments? (surroundings.environment.lookup configKey) arguments with
  | .error refusal => refusal.outcome
  | .ok request => request.outcome surroundings

/-- An event as an object, with its target if the log shows targets. -/
def LogSettings.eventJson (log : LogSettings) (event : Event) : Json.Value :=
  let fieldJson : FieldValue → Json.Value
    | .number value => .number (.integer value)
    | .text value => .string value
  let fields :=
    ("message".toList, .string event.message.toList) ::
      event.fields.map fun (name, value) => (name.toList, fieldJson value)
  let target :=
    if log.targets then [("target".toList, .string event.target.toList)] else []
  .object
    (("level".toList, .string event.level.name.toList) :: ("fields".toList, .object fields) ::
      target)

end Command

end ScriptSanitizer
