import ScriptSanitizer.Command.Options

/-!
# Command lines

The arguments of a run: options, the name of a command, further options, and the values of the
command.  Behind a double hyphen there are only values.

Main operation: `Request.ofArguments?`.
-/

namespace ScriptSanitizer

namespace Command

/-- The arguments of one side as far as they have been read. -/
structure Side where
  /-- The options that have been set. -/
  options : Options := {}
  /-- An option with the value behind it, which has not been looked at. -/
  pending : Option (Setting × Text) := none
  /-- The values. -/
  values : List Text := []

namespace Side

/-- Look at the value that is pending. -/
def settle (side : Side) : Except Refusal Side := do
  match side.pending with
  | none => .ok side
  | some (setting, value) =>
    .ok { side with options := ← side.options.set setting value, pending := none }

/-- Read an option without a value. -/
def switchOn (side : Side) (command : Option Name) (switch : Switch) : Except Refusal Side := do
  let side ← side.settle
  .ok { side with options := ← side.options.switchOn command switch }

/-- Read an option whose value is attached to it. -/
def attach (side : Side) (setting : Setting) (value : Text) : Except Refusal Side := do
  let side ← side.settle
  .ok { side with options := ← side.options.set setting value }

/-- Read short options.  One that waits for a value is answered too. -/
def readShort (command : Option Name) (side : Side) :
    Text → Except Refusal (Side × Option Setting)
  | [] => .ok (side, none)
  | name :: rest =>
    match shortFlag? command name with
    | none => .error .misuse
    | some (.switch switch) => do readShort command (← side.switchOn command switch) rest
    | some (.setting setting) =>
      match rest with
      | [] => do .ok (← side.settle, some setting)
      | '=' :: value => do .ok (← side.attach setting value, none)
      | value => do .ok (← side.attach setting value, none)

/-- Read a long option.  One that waits for a value is answered too. -/
def readLong (command : Option Name) (side : Side) (text : Text) :
    Except Refusal (Side × Option Setting) :=
  let name := text.takeWhile (· != '=')
  match longFlag? command name, text.drop name.length with
  | none, _ => .error .misuse
  | some (.switch switch), [] => do .ok (← side.switchOn command switch, none)
  | some (.switch _), _ => .error .misuse
  | some (.setting setting), [] => do .ok (← side.settle, some setting)
  | some (.setting setting), _ :: value => do .ok (← side.attach setting value, none)

end Side

/-- What an argument looks like. -/
inductive Shape where
  /-- The mark behind which there are only values. -/
  | escape
  /-- A long option. -/
  | long (text : Text)
  /-- Short options. -/
  | short (text : Text)
  /-- A value. -/
  | value
  deriving DecidableEq

/-- What an argument looks like. -/
def Shape.of : Text → Shape
  | ['-', '-'] => .escape
  | '-' :: '-' :: text => .long text
  | '-' :: first :: text => .short (first :: text)
  | _ => .value

/-- There is an explanation for what follows `help`: nothing, or one command. -/
def isExplained : List Text → Bool
  | [] => true
  | [name] => (Name.ofText? name).isSome || name = "help".toList
  | _ => false

/-- Read the arguments in front of the name of the command: what they set, the command, and the
arguments behind.  `awaiting` is an option whose value must follow. -/
def readFront : Option Setting → Side → List Text → Except Refusal (Side × Name × List Text)
  | _, _, [] => .error .misuse
  | awaiting, side, argument :: rest =>
    match Shape.of argument with
    | .escape => .error .misuse
    | .long text => do
      if awaiting.isSome then .error .misuse
      else
        let (side, awaiting) ← side.readLong none text
        readFront awaiting side rest
    | .short text => do
      if awaiting.isSome then .error .misuse
      else
        let (side, awaiting) ← side.readShort none text
        readFront awaiting side rest
    | .value =>
      match awaiting with
      | some setting => readFront none { side with pending := some (setting, argument) } rest
      | none =>
        if argument = "help".toList then
          .error (if isExplained rest then .help else .misuse)
        else
          match Name.ofText? argument with
          | some command => .ok (side, command, rest)
          | none => .error .misuse

/-- How many values a command takes. -/
def Name.takes (command : Name) (count : Nat) : Bool :=
  match command with
  | sanitize => true
  | detect => true
  | query => count ≤ 1
  | json => count ≤ 1

/-- Read one more value of a command. -/
def readValue (command : Name) (side : Side) (value : Text) : Except Refusal Side := do
  let side ← side.settle
  if !command.takes (side.values.length + 1) then .error .misuse
  else if command = .json ∧ value.isEmpty then .error .misuse
  else .ok { side with values := side.values ++ [value] }

/-- Read the arguments behind the name of the command.  `onlyValues` tells that no options
follow. -/
def readBehind (command : Name) :
    Bool → Option Setting → Side → List Text → Except Refusal Side
  | _, some _, _, [] => .error .misuse
  | _, none, side, [] => side.settle
  | true, awaiting, side, argument :: rest => do
    readBehind command true awaiting (← readValue command side argument) rest
  | false, awaiting, side, argument :: rest =>
    match Shape.of argument with
    | .escape =>
      if awaiting.isSome then .error .misuse else readBehind command true none side rest
    | .long text => do
      if awaiting.isSome then .error .misuse
      else
        let (side, awaiting) ← side.readLong (some command) text
        readBehind command false awaiting side rest
    | .short text => do
      if awaiting.isSome then .error .misuse
      else
        let (side, awaiting) ← side.readShort (some command) text
        readBehind command false awaiting side rest
    | .value =>
      match awaiting with
      | some setting =>
        readBehind command false none { side with pending := some (setting, argument) } rest
      | none => do readBehind command false none (← readValue command side argument) rest

/-- What a command is to do. -/
inductive Task where
  /-- Sanitize values, or the lines of the input if there are none. -/
  | sanitize (values : List Text) (check : Bool)
  /-- Sanitize a query string. -/
  | query (query : Text)
  /-- Sanitize the document in a file, or in the input if there is none. -/
  | json (file : Option Text) (pretty : Bool)
  /-- Inspect values, or the lines of the input if there are none. -/
  | detect (values : List Text)
  deriving DecidableEq

/-- The task of a command with options and values. -/
def Task.of (command : Name) (options : Options) (values : List Text) : Except Refusal Task :=
  match command, values with
  | .sanitize, values => .ok (.sanitize values (.check ∈ options.switches))
  | .query, [text] => .ok (.query text)
  | .query, _ => .error .misuse
  | .json, values => .ok (.json values.head? (.pretty ∈ options.switches))
  | .detect, values => .ok (.detect values)

/-- What a run is asked for. -/
structure Request where
  /-- The options. -/
  options : Options
  /-- The task. -/
  task : Task

/-- The configuration file of one side; the environment names one where the arguments do not. -/
def Options.withDefaultConfig (options : Options) (config : Option Text) :
    Except Refusal Options :=
  match options.config, config with
  | some _, _ => .ok options
  | none, none => .ok options
  | none, some path => options.set .config path

/-- The request that arguments write.  `config` is the configuration file that the environment
names. -/
def Request.ofArguments? (config : Option Text) (arguments : List Text) :
    Except Refusal Request := do
  let (front, command, rest) ← readFront none {} arguments
  let behind ← readBehind command false none {} rest
  let task ← Task.of command behind.options behind.values
  let _ ← behind.options.withDefaultConfig config
  let front ← front.settle
  let options ← (front.options.merge behind.options).withDefaultConfig config
  let _ ← front.options.withDefaultConfig config
  .ok { options, task }

end Command

end ScriptSanitizer
