import ScriptSanitizer.Text.Utf8

/-!
# Failures of reading JSON

Why a text is no JSON document, and where this shows.  A reader that stops tells what it has left
unread; the line and the column follow from that, with columns counted in bytes.
-/

namespace ScriptSanitizer

namespace Json

/-- Why a text cannot be read. -/
inductive Cause where
  /-- The text ends inside an array. -/
  | endInArray
  /-- The text ends inside an object. -/
  | endInObject
  /-- The text ends inside a string. -/
  | endInString
  /-- The text ends where a value must stand. -/
  | endInValue
  /-- No colon follows a name. -/
  | expectedColon
  /-- Neither a comma nor the closing bracket follows an item. -/
  | expectedCommaInArray
  /-- Neither a comma nor the closing brace follows a member. -/
  | expectedCommaInObject
  /-- A word that only starts like a literal. -/
  | expectedWord
  /-- No value stands where one must. -/
  | expectedValue
  /-- A backslash that starts no escape. -/
  | invalidEscape
  /-- A number that is not written as it must. -/
  | invalidNumber
  /-- A number whose magnitude is infinite. -/
  | numberTooLarge
  /-- An exponent that makes any number infinite. -/
  | exponentTooLarge
  /-- Bytes that encode no character. -/
  | invalidCodePoint
  /-- A control character inside a string. -/
  | controlCharacter
  /-- No name stands where one must. -/
  | expectedName
  /-- The escape of a surrogate without its partner. -/
  | loneSurrogate
  /-- A comma in front of a closing bracket. -/
  | trailingComma
  /-- Something follows the document. -/
  | trailingCharacters
  /-- The escape of the first half of a surrogate pair, and no escape behind it. -/
  | unfinishedPair
  /-- Too many brackets are open. -/
  | recursionLimit
  /-- The document is well-formed, but of another form than the one asked for. -/
  | unexpected (description : Text)
  deriving DecidableEq

/-- The wording of a cause. -/
def Cause.message : Cause → Text
  | endInArray => "EOF while parsing a list".toList
  | endInObject => "EOF while parsing an object".toList
  | endInString => "EOF while parsing a string".toList
  | endInValue => "EOF while parsing a value".toList
  | expectedColon => "expected `:`".toList
  | expectedCommaInArray => "expected `,` or `]`".toList
  | expectedCommaInObject => "expected `,` or `\x7d`".toList
  | expectedWord => "expected ident".toList
  | expectedValue => "expected value".toList
  | invalidEscape => "invalid escape".toList
  | invalidNumber => "invalid number".toList
  | numberTooLarge => "number out of range".toList
  | exponentTooLarge => "number out of range".toList
  | invalidCodePoint => "invalid unicode code point".toList
  | controlCharacter =>
    "control character (\\u0000-\\u001F) found while parsing a string".toList
  | expectedName => "key must be a string".toList
  | loneSurrogate => "lone leading surrogate in hex escape".toList
  | trailingComma => "trailing comma".toList
  | trailingCharacters => "trailing characters".toList
  | unfinishedPair => "unexpected end of hex escape".toList
  | recursionLimit => "recursion limit exceeded".toList
  | unexpected description => description

/-- How a reader stops. -/
structure Mishap where
  /-- The cause. -/
  cause : Cause
  /-- What has not been read. -/
  rest : Text
  /-- How many bytes of the rest have been seen. -/
  seen : Nat
  deriving DecidableEq

namespace Mishap

/-- A mishap behind what has been read. -/
def before (cause : Cause) (rest : Text) : Mishap := ⟨cause, rest, 0⟩

/-- A mishap at the first byte of the rest, or at the end of the text. -/
def atFront (cause : Cause) (rest : Text) : Mishap := ⟨cause, rest, if rest.isEmpty then 0 else 1⟩

end Mishap

/-- Why and where a text is no document. -/
structure Failure where
  /-- The cause. -/
  cause : Cause
  /-- The line, from one. -/
  line : Nat
  /-- The number of bytes in the line up to the failure. -/
  column : Nat
  deriving DecidableEq

/-- The wording of a failure. -/
def Failure.message (failure : Failure) : Text :=
  failure.cause.message ++ " at line ".toList ++ digitsOf 10 failure.line ++ " column ".toList ++
    digitsOf 10 failure.column

/-- The line and the column behind bytes. -/
def position (bytes : List UInt8) : Nat × Nat :=
  bytes.foldl
    (fun place byte => if byte = 0x0A then (place.1 + 1, 0) else (place.1, place.2 + 1)) (1, 0)

/-- The failure that a mishap is in a text. -/
def Mishap.locate (mishap : Mishap) (text : Text) : Failure :=
  let offset := Utf8.byteLength text - Utf8.byteLength mishap.rest + mishap.seen
  let place := position ((Utf8.encode text).take offset)
  ⟨mishap.cause, place.1, place.2⟩

end Json

end ScriptSanitizer
