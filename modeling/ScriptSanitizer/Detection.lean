import ScriptSanitizer.Sanitizer

/-!
# Detection

Which attack a text carries, if any.  The text is decoded once; the patterns are asked first, and
then the inline base64 blocks, which are judged as the sanitizer judges them.
-/

namespace ScriptSanitizer

/-- The wording in which an attack refuses a text. -/
def Attack.refusal (attack : Attack) : String :=
  "Potentially malicious content detected: " ++ attack.label

namespace Sanitizer

/-- Some payload decodes and hides an attack.  Payloads behind the first such are not looked at. -/
def anyPayloadHides (sanitizer : Sanitizer) : List Text → Logged Bool
  | [] => pure false
  | payload :: payloads =>
    match Base64.decodePayload payload with
    | .error _ => sanitizer.anyPayloadHides payloads
    | .ok hidden => do
      if ← sanitizer.hidesAttack sanitizer.maxNesting 0 hidden then pure true
      else sanitizer.anyPayloadHides payloads

/-- The attack that a text carries. -/
def detect (sanitizer : Sanitizer) (text : Text) : Logged (Option Attack) := do
  let decoded ← decodeLayers (stripNul text)
  match sanitizer.patterns.firstMatch? decoded with
  | some pattern =>
    Logged.report (.attackMatched pattern.attack pattern.source)
    pure (some pattern.attack)
  | none =>
    if ← sanitizer.anyPayloadHides (Base64.payloads decoded) then pure (some .base64Payload)
    else pure none

/-- The text carries an attack. -/
def isMalicious (sanitizer : Sanitizer) (text : Text) : Bool :=
  (sanitizer.detect text).value.isSome

/-- Refuse a text that carries an attack. -/
def validate (sanitizer : Sanitizer) (text : Text) : Except Attack Unit :=
  match (sanitizer.detect text).value with
  | some attack => .error attack
  | none => .ok ()

end Sanitizer

end ScriptSanitizer
