import ScriptSanitizer.Base64.Codec

/-!
# Malformed fragments

An encoded fragment that a decoder cannot read is reported and left as it is written.
-/

namespace ScriptSanitizer

/-- A fragment that no decoder could read. -/
inductive MalformedFragment where
  /-- A numeric character reference whose number names no character. -/
  | numericEntity (fragment : Text)
  /-- The escape of a surrogate without its partner. -/
  | unicodeEscape (fragment : Text)
  /-- A base64 payload that does not decode. -/
  | base64 (fragment : Text) (cause : Base64.DecodeError)
  deriving DecidableEq

namespace MalformedFragment

/-- The fragment as it is written. -/
def text : MalformedFragment → Text
  | numericEntity fragment => fragment
  | unicodeEscape fragment => fragment
  | base64 fragment _ => fragment

/-- The part of the fragment that reports show: 64 characters at most. -/
def excerpt (malformed : MalformedFragment) : Text := malformed.text.take 64

/-- The wording of the report. -/
def message : MalformedFragment → String
  | numericEntity fragment =>
    "numeric entity `" ++ String.ofList fragment ++ "` does not name a character"
  | unicodeEscape fragment =>
    "unicode escape `" ++ String.ofList fragment ++ "` is an unpaired surrogate"
  | base64 fragment cause =>
    "base64 payload `" ++ String.ofList fragment ++ "` could not be decoded: " ++ cause.message

end MalformedFragment

end ScriptSanitizer
