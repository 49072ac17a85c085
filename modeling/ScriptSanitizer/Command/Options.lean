import ScriptSanitizer.Command.Log
import ScriptSanitizer.Text.Word

/-!
# Options and commands

The names of the commands, the options that every command takes, and those of single commands.
On one side of the name of the command an option may stand once; where both sides set one, the
side behind the name counts.
-/

namespace ScriptSanitizer

namespace Command

/-- An option that takes a value. -/
inductive Setting where
  /-- The configuration file. -/
  | config
  /-- The bound on passes. -/
  | maxPasses
  /-- The bound on nesting. -/
  | maxNesting
  /-- The threshold of the log. -/
  | logLevel
  /-- The format of the log. -/
  | logFormat
  deriving DecidableEq

/-- An option without a value. -/
inductive Switch where
  /-- No colours. -/
  | noColor
  /-- Tell by the exit status whether a value changes. -/
  | check
  /-- Write an indented document. -/
  | pretty
  /-- Explain the command. -/
  | help
  /-- Name the version. -/
  | version
  deriving DecidableEq

/-- An option. -/
inductive Flag where
  /-- With a value. -/
  | setting (setting : Setting)
  /-- Without a value. -/
  | switch (switch : Switch)
  deriving DecidableEq

/-- The name of a command. -/
inductive Name where
  /-- Sanitize values. -/
  | sanitize
  /-- Sanitize a query string. -/
  | query
  /-- Sanitize a JSON document. -/
  | json
  /-- Inspect values. -/
  | detect
  deriving DecidableEq

namespace Name

/-- The name as it is written in full. -/
def text : Name → String
  | sanitize => "sanitize"
  | query => "query"
  | json => "json"
  | detect => "detect"

/-- The commands by their names and short names. -/
def names : List (String × Name) :=
  [("sanitize", .sanitize), ("s", .sanitize), ("query", .query), ("q", .query),
    ("json", .json), ("j", .json), ("detect", .detect), ("d", .detect)]

/-- The command with a name. -/
def ofText? (name : Text) : Option Name := names.lookup (String.ofList name)

end Name

/-- The long names of the options that stand everywhere. -/
def commonFlags : List (String × Flag) :=
  [("config", .setting .config), ("max-passes", .setting .maxPasses),
    ("max-nesting", .setting .maxNesting), ("log-level", .setting .logLevel),
    ("log-format", .setting .logFormat), ("no-color", .switch .noColor),
    ("help", .switch .help), ("version", .switch .version)]

/-- The option with a long name, in front of the name of the command or behind it. -/
def longFlag? (command : Option Name) (name : Text) : Option Flag :=
  let own : List (String × Flag) :=
    match command with
    | some .sanitize => [("check", .switch .check)]
    | some .json => [("pretty", .switch .pretty)]
    | _ => []
  (commonFlags ++ own).lookup (String.ofList name)

/-- The option with a short name. -/
def shortFlag? (command : Option Name) (name : Char) : Option Flag :=
  match name with
  | 'c' => some (.setting .config)
  | 'h' => some (.switch .help)
  | 'V' => some (.switch .version)
  | 'p' => if command = some .json then some (.switch .pretty) else none
  | _ => none

/-- The options that have been set on one side of the name of the command. -/
structure Options where
  /-- The configuration file. -/
  config : Option Text := none
  /-- The bound on passes. -/
  maxPasses : Option Nat := none
  /-- The bound on nesting. -/
  maxNesting : Option Nat := none
  /-- The threshold of the log. -/
  logLevel : Option Threshold := none
  /-- The format of the log. -/
  logFormat : Option Format := none
  /-- The options without a value. -/
  switches : List Switch := []
  deriving DecidableEq

/-- Why a command line is not acted on. -/
inductive Refusal where
  /-- It is not written as it must be. -/
  | misuse
  /-- It asks for an explanation. -/
  | help
  /-- It asks for the version of the program, or of one of its commands. -/
  | version (command : Option Name)
  deriving DecidableEq

/-- A value that is read once. -/
def once {Content : Type} (known read : Option Content) : Except Refusal (Option Content) :=
  match known, read with
  | none, some content => .ok (some content)
  | _, _ => .error .misuse

/-- A path is not empty. -/
def path? (value : Text) : Option Text := if value.isEmpty then none else some value

namespace Options

/-- The options with one more set. -/
def set (options : Options) (setting : Setting) (value : Text) : Except Refusal Options := do
  match setting with
  | .config => .ok { options with config := ← once options.config (path? value) }
  | .maxPasses => .ok { options with maxPasses := ← once options.maxPasses (wordOf? value) }
  | .maxNesting => .ok { options with maxNesting := ← once options.maxNesting (wordOf? value) }
  | .logLevel => .ok { options with logLevel := ← once options.logLevel (Threshold.ofName? value) }
  | .logFormat => .ok { options with logFormat := ← once options.logFormat (Format.ofName? value) }

/-- The options with one more switched on. -/
def switchOn (options : Options) (command : Option Name) (switch : Switch) :
    Except Refusal Options :=
  match switch with
  | .help => .error .help
  | .version => .error (.version command)
  | _ =>
    if switch ∈ options.switches then .error .misuse
    else .ok { options with switches := options.switches ++ [switch] }

/-- The options of both sides of the name of the command. -/
def merge (front behind : Options) : Options where
  config := behind.config <|> front.config
  maxPasses := behind.maxPasses <|> front.maxPasses
  maxNesting := behind.maxNesting <|> front.maxNesting
  logLevel := behind.logLevel <|> front.logLevel
  logFormat := behind.logFormat <|> front.logFormat
  switches := front.switches ++ behind.switches

end Options

end Command

end ScriptSanitizer
