import ScriptSanitizer.Event
import ScriptSanitizer.Text.Blank
import ScriptSanitizer.Text.Word

/-!
# Settings

The bounds and the custom patterns of a sanitizer, with their defaults, and how the environment
overrides them.
-/

namespace ScriptSanitizer

/-- The variables of the environment that are set. -/
abbrev Environment := List (String × Text)

/-- The settings of a sanitizer. -/
structure Settings where
  /-- How many passes a value may take. -/
  maxPasses : Nat := 10
  /-- How deep base64 inside base64 is inspected. -/
  maxNesting : Nat := 4
  /-- Custom patterns, applied behind the built-in ones. -/
  extraPatterns : List Text := []
  deriving DecidableEq

/-- Why settings make no sanitizer. -/
inductive SettingsError where
  /-- Not even one pass is allowed. -/
  | noPasses
  /-- A custom pattern cannot be read. -/
  | invalidPattern (cause : PatternError)
  deriving DecidableEq

/-- The wording of an error.  For a pattern, the text behind the colon is that of the library that
reads expressions; one phrase stands for all such texts. -/
def SettingsError.message : SettingsError → String
  | noPasses => "Invalid sanitizer configuration: max_passes must be at least 1"
  | invalidPattern _ => "Invalid strip pattern: the expression cannot be read"

namespace Settings

/-- The variable that overrides the bound on passes. -/
def maxPassesKey : String := "BULWARK_XSS_MAX_PASSES"

/-- The variable that overrides the bound on nesting. -/
def maxNestingKey : String := "BULWARK_XSS_MAX_NESTING"

/-- The number that a variable holds, or the default if it is not set or holds no number. -/
def override (environment : Environment) (key : String) (default : Nat) : Logged Nat :=
  match environment.lookup key with
  | none => pure default
  | some value =>
    match wordOf? (trim value) with
    | some number => pure number
    | none => do
      Logged.report (.settingIgnored key.toList value)
      pure default

/-- The defaults, overridden by the environment. -/
def ofEnvironment (environment : Environment) : Logged Settings := do
  let defaults : Settings := {}
  let maxPasses ← override environment maxPassesKey defaults.maxPasses
  let maxNesting ← override environment maxNestingKey defaults.maxNesting
  pure { maxPasses, maxNesting }

/-- Settings are valid if they allow a pass. -/
def validate (settings : Settings) : Except SettingsError Unit :=
  if settings.maxPasses = 0 then .error .noPasses else .ok ()

end Settings

end ScriptSanitizer
