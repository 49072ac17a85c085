import ScriptSanitizer.Detection
import ScriptSanitizer.FormEncoding
import ScriptSanitizer.Json.Sanitization

/-!
# The commands

What each command writes for a given sanitizer and given values.
-/

namespace ScriptSanitizer

namespace Command

/-- A text with a line feed behind it. -/
def line (text : Text) : Text := text ++ ['\n']

/-- What sanitizing values gives. -/
structure SanitizeReport where
  /-- The sanitized values, a line each. -/
  output : Text
  /-- How many values there are. -/
  total : Nat
  /-- How many of them sanitizing changes. -/
  changed : Nat
  deriving DecidableEq

/-- Sanitize values. -/
def sanitizeValues (sanitizer : Sanitizer) (values : List Text) : Logged SanitizeReport := do
  let results ← values.mapM sanitizer.sanitize
  let report : SanitizeReport :=
    { output := results.flatMap line
      total := values.length
      changed := (values.zip results).countP fun (value, result) => value != result }
  Logged.report (.sanitizeFinished report.total report.changed)
  pure report

/-- What inspecting values gives. -/
structure DetectReport where
  /-- The attacks found, a line each. -/
  output : Text
  /-- How many values carry an attack. -/
  flagged : Nat
  deriving DecidableEq

/-- What is written for a value that carries no attack. -/
def cleanMark : Text := ['-']

/-- Inspect values. -/
def detectValues (sanitizer : Sanitizer) (values : List Text) : Logged DetectReport := do
  let findings ← values.mapM sanitizer.detect
  pure
    { output := findings.flatMap fun
        | some attack => line attack.label.toList
        | none => line cleanMark
      flagged := findings.countP Option.isSome }

/-- Sanitize the parameters of a query string, which a question mark may precede, and write them
as JSON. -/
def sanitizeQuery (sanitizer : Sanitizer) (query : Text) : Logged Text := do
  let query :=
    match query with
    | '?' :: query => query
    | _ => query
  let clean ← sanitizer.sanitizeAll (.ofQuery query)
  pure (line clean.toJson.compact)

/-- Sanitize the strings of the JSON document that bytes write, and write it indented or compact. -/
def sanitizeJson (sanitizer : Sanitizer) (pretty : Bool) (input : List UInt8) :
    Except Json.Failure (Logged Text) := do
  let document ← Json.Value.ofBytes? input
  .ok do
    let clean ← sanitizer.sanitizeJson document
    pure (line (if pretty then clean.pretty 0 else clean.compact))

end Command

end ScriptSanitizer
