import ScriptSanitizer.Command.Log
import ScriptSanitizer.Settings
import ScriptSanitizer.Text.Word
import ScriptSanitizer.Toml.Parser

/-!
# Configuration files

A configuration is a TOML document with a table for the sanitizer and one for the log.  What is
missing in a table takes its default; where the table of the sanitizer is missing altogether, the
environment is asked.  Keys that mean nothing are passed over.  A table may also be written as an
array of its values in order.
-/

namespace ScriptSanitizer

namespace Command

/-- What a configuration file sets. -/
structure Configuration where
  /-- The settings of the sanitizer. -/
  sanitizer : Settings
  /-- The settings of the log. -/
  log : LogSettings
  deriving DecidableEq

/-- Why a text is no configuration. -/
inductive ConfigurationError where
  /-- It is no TOML document. -/
  | malformed
  /-- The value under a key is not of the kind it must be. -/
  | mistyped (key : String)
  deriving DecidableEq

/-- A phrase for an error.  The program shows the text of the library that reads TOML, with the
place in the document; none of these texts is kept here. -/
def ConfigurationError.message : ConfigurationError → String
  | malformed => "not a TOML document"
  | mistyped key => "unusable value for " ++ key

/-- The fields of a table or an array, by key and by place. -/
inductive Fields where
  /-- Values under keys. -/
  | named (entries : Toml.Entries)
  /-- Values in order. -/
  | ordered (items : List Toml.Value)

namespace Fields

/-- The fields of a value.  A date or a time has none of a known name. -/
def of? : Toml.Value → Option Fields
  | .table _ entries => some (.named entries)
  | .array items => some (.ordered items)
  | .tables items => some (.ordered (items.map (.table .header)))
  | .moment => some (.named [])
  | _ => none

/-- The value of a field. -/
def get? (fields : Fields) (key : String) (place : Nat) : Option Toml.Value :=
  match fields with
  | named entries => entries.lookup key.toList
  | ordered items => items[place]?

/-- The content of a field, or the default if the field is missing. -/
def read {Content : Type} (fields : Fields) (key : String) (place : Nat)
    (content? : Toml.Value → Option Content) (default : Content) :
    Except ConfigurationError Content :=
  match fields.get? key place with
  | none => .ok default
  | some value =>
    match content? value with
    | some content => .ok content
    | none => .error (.mistyped key)

end Fields

/-- The bound that a value writes. -/
def bound? : Toml.Value → Option Nat
  | .integer (.ofNat value) => if value ≤ maximalWord then some value else none
  | _ => none

/-- The text that a value writes. -/
def text? : Toml.Value → Option Text
  | .string value => some value
  | _ => none

/-- The texts that a value writes. -/
def texts? : Toml.Value → Option (List Text)
  | .array items => items.mapM text?
  | _ => none

/-- The truth value that a value writes. -/
def flag? : Toml.Value → Option Bool
  | .bool value => some value
  | _ => none

/-- What a value names: by a string, or by the key of its only entry, which holds nothing. -/
def named? {Content : Type} (ofName? : Text → Option Content) : Toml.Value → Option Content
  | .string name => ofName? name
  | .table _ [(name, .table _ [])] => ofName? name
  | .table _ [(name, .array [])] => ofName? name
  | _ => none

/-- The settings of the sanitizer that a value writes. -/
def readSettings (value : Toml.Value) : Except ConfigurationError Settings := do
  let defaults : Settings := {}
  match Fields.of? value with
  | none => .error (.mistyped "sanitizer")
  | some fields =>
    .ok
      { maxPasses := ← fields.read "max_passes" 0 bound? defaults.maxPasses
        maxNesting := ← fields.read "max_nesting" 1 bound? defaults.maxNesting
        extraPatterns := ← fields.read "extra_patterns" 2 texts? defaults.extraPatterns }

/-- The settings of the log that a value writes. -/
def readLogSettings (value : Toml.Value) : Except ConfigurationError LogSettings := do
  let defaults : LogSettings := {}
  match Fields.of? value with
  | none => .error (.mistyped "log")
  | some fields =>
    .ok
      { level := ← fields.read "level" 0 (named? Threshold.ofName?) defaults.level
        format := ← fields.read "format" 1 (named? Format.ofName?) defaults.format
        targets := ← fields.read "targets" 2 flag? defaults.targets
        colors := ← fields.read "colors" 3 flag? defaults.colors }

namespace Configuration

/-- The configuration without a file. -/
def default (environment : Environment) : Configuration where
  sanitizer := (Settings.ofEnvironment environment).value
  log := {}

/-- The configuration that a text writes. -/
def ofText? (environment : Environment) (text : Text) :
    Except ConfigurationError Configuration := do
  let defaults := default environment
  match Toml.Document.ofText? text with
  | none => .error .malformed
  | some entries =>
    let sanitizer ←
      match entries.lookup "sanitizer".toList with
      | some value => readSettings value
      | none => .ok defaults.sanitizer
    let log ←
      match entries.lookup "log".toList with
      | some value => readLogSettings value
      | none => .ok defaults.log
    .ok { sanitizer, log }

end Configuration

end Command

end ScriptSanitizer
