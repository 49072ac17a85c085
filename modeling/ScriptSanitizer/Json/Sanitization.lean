import ScriptSanitizer.Json.Parser
import ScriptSanitizer.Json.Printer
import ScriptSanitizer.MultiMap

/-!
# Sanitizing JSON documents

Every string in a document is sanitized by itself; names, numbers and the shape of the document
stay.  A map of parameters is written as an object of arrays, in the order of its names.
-/

namespace ScriptSanitizer

/-- The map as an object of arrays. -/
def MultiMap.toJson (map : MultiMap) : Json.Value :=
  .object (map.entries.map fun entry => (entry.1, .array (entry.2.map .string)))

namespace Sanitizer

/-- The value with every string in it sanitized. -/
def sanitizeJson (sanitizer : Sanitizer) (value : Json.Value) : Logged Json.Value where
  value := value.mapStrings fun string => (sanitizer.sanitize string).value
  events := value.strings.flatMap fun string => (sanitizer.sanitize string).events

/-- The compact form of the document that a text writes, with every string sanitized. -/
def sanitizeDocument (sanitizer : Sanitizer) (text : Text) : Except Json.Failure (Logged Text) := do
  let value ← Json.Value.ofText? text
  .ok (Json.Value.compact <$> sanitizer.sanitizeJson value)

end Sanitizer

end ScriptSanitizer
