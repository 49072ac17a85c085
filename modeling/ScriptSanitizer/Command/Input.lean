import ScriptSanitizer.Text.Utf8

/-!
# What commands read

The lines of a stream, and the faults that reading a stream or a file can have.
-/

namespace ScriptSanitizer

namespace Command

/-- Why a stream or a file cannot be read. -/
inductive InputError where
  /-- There is no such file. -/
  | notFound
  /-- The file is a directory. -/
  | isDirectory
  /-- The bytes encode no text. -/
  | malformed
  deriving DecidableEq

/-- The wording of an error, as the operating system or the reader of the text puts it. -/
def InputError.message : InputError → String
  | notFound => "No such file or directory (os error 2)"
  | isDirectory => "Is a directory (os error 21)"
  | malformed => "stream did not contain valid UTF-8"

/-- The text that bytes encode. -/
def decodeInput (bytes : List UInt8) : Except InputError Text :=
  match Utf8.decode? bytes with
  | some text => .ok text
  | none => .error .malformed

/-- A line without the carriage return that may stand in front of its line feed. -/
def dropReturn (line : Text) : Text :=
  if line.getLast? = some '\r' then line.dropLast else line

/-- The lines of a text.  What stands behind the last line feed is a line unless it is empty. -/
def lines (text : Text) : List Text :=
  let pieces := splitAtEach '\n' text
  pieces.dropLast.map dropReturn ++ (pieces.getLast?.filter fun last => !last.isEmpty).toList

/-- The values given, or the lines of a stream if none are. -/
def valuesOrLines (values : List Text) (input : List UInt8) : Except InputError (List Text) :=
  if values.isEmpty then lines <$> decodeInput input else .ok values

end Command

end ScriptSanitizer
