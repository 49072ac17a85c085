import ScriptSanitizer.Base64.Block
import ScriptSanitizer.Entity.Reference
import ScriptSanitizer.Settings
import ScriptSanitizer.UnicodeEscape

/-!
# The sanitizer

A pass decodes the Unicode escapes and the character references of a value, removes the inline
base64 blocks that hide an attack, and strikes out the patterns.  A pass that removes nothing is
stable, and the value it was given is the answer, as it is written; any other pass leaves a
decoded value for the next one.  A base64 payload hides an attack if sanitizing it changes its
length, or if it lies deeper than the sanitizer inspects.
-/

namespace ScriptSanitizer

/-- The text without NUL characters. -/
def stripNul (text : Text) : Text := strikeOut '\x00' text

/-- The text with its Unicode escapes decoded; those that name no character are reported. -/
def decodeEscapes (text : Text) : Logged Text where
  value := UnicodeEscape.decode text
  events := (UnicodeEscape.unpaired text).map fun escape => .leftInPlace (.unicodeEscape escape)

/-- The text with its character references decoded; numbers that name no character are reported. -/
def decodeReferences (text : Text) : Logged Text where
  value := Entity.decode text
  events := (Entity.malformed text).map fun reference => .leftInPlace (.numericEntity reference)

/-- The text with its Unicode escapes and then its character references decoded. -/
def decodeLayers (text : Text) : Logged Text := do
  decodeReferences (← decodeEscapes text)

namespace Base64

/-- What is left of a block: nothing if `judge` finds that its payload hides an attack. -/
def strikeBlock (judge : Text → Logged Bool) (block : Block) : Logged Text :=
  match decodePayload block.payload with
  | .error cause => do
    Logged.report (.leftInPlace (.base64 block.payload cause))
    pure block.text
  | .ok hidden => do
    if ← judge hidden then
      Logged.report (.blockRemoved (Utf8.byteLength block.text))
      pure []
    else pure block.text

/-- What is left of the pieces of a text. -/
def strikePieces (judge : Text → Logged Bool) : List Piece → Logged Text
  | [] => pure []
  | .plain character :: pieces => do
    let rest ← strikePieces judge pieces
    pure (character :: rest)
  | .block block :: pieces => do
    let kept ← strikeBlock judge block
    let rest ← strikePieces judge pieces
    pure (kept ++ rest)

/-- The text without the inline blocks whose payload hides an attack. -/
def strikeBlocks (judge : Text → Logged Bool) (text : Text) : Logged Text :=
  strikePieces judge (pieces text)

end Base64

/-- The result of one pass. -/
inductive Pass where
  /-- Nothing was removed. -/
  | stable
  /-- Something was removed, and this is left. -/
  | changed (next : Text)
  deriving DecidableEq

/-- One pass over a value; `judge` tells which payloads hide an attack. -/
def Pass.run (patterns : PatternSet) (judge : Text → Logged Bool) (text : Text) : Logged Pass := do
  let decoded ← decodeLayers text
  let kept ← Base64.strikeBlocks judge decoded
  let stripped := patterns.strike kept
  if Utf8.byteLength decoded = Utf8.byteLength kept ∧
      Utf8.byteLength kept = Utf8.byteLength stripped then
    pure .stable
  else pure (.changed stripped)

/-- Passes over a value until one is stable, at most `remaining` more of `maxPasses`. -/
def runPasses (patterns : PatternSet) (judge : Text → Logged Bool) (maxPasses depth : Nat) :
    Nat → Text → Logged Text
  | 0, text => do
    Logged.report (.passLimit maxPasses depth)
    pure text
  | remaining + 1, text => do
    match ← Pass.run patterns judge text with
    | .stable =>
      if remaining + 1 < maxPasses then
        Logged.report (.sanitized (maxPasses - remaining) depth)
      pure text
    | .changed next => runPasses patterns judge maxPasses depth remaining (stripNul next)

/-- A sanitizer. -/
structure Sanitizer where
  /-- The patterns that it strikes out. -/
  patterns : PatternSet
  /-- How many passes a value may take. -/
  maxPasses : Nat
  /-- How deep base64 inside base64 is inspected. -/
  maxNesting : Nat

namespace Sanitizer

/-- The sanitizer with given settings, its custom patterns compiled by any library. -/
def compiled? (compile : Compiler) (settings : Settings) : Except SettingsError Sanitizer := do
  settings.validate
  match PatternSet.compiled? compile settings.extraPatterns with
  | .ok patterns => .ok ⟨patterns, settings.maxPasses, settings.maxNesting⟩
  | .error cause => .error (.invalidPattern cause)

/-- The sanitizer with given settings. -/
def ofSettings? (settings : Settings) : Except SettingsError Sanitizer :=
  compiled? Regex.compile? settings

/-- The sanitizer with the default settings. -/
def default : Sanitizer :=
  let settings : Settings := {}
  ⟨.builtin, settings.maxPasses, settings.maxNesting⟩

/-- Whether a text from `depth` payloads deep hides an attack, with `budget` levels left. -/
def hidesAttack (sanitizer : Sanitizer) : (budget depth : Nat) → Text → Logged Bool
  | 0, depth, _ => do
    Logged.report (.nestingLimit depth)
    pure true
  | budget + 1, depth, text => do
    let judge := fun hidden => sanitizer.hidesAttack budget (depth + 1) hidden
    let clean ← runPasses sanitizer.patterns judge sanitizer.maxPasses (depth + 1)
      sanitizer.maxPasses (stripNul text)
    pure (Utf8.byteLength clean != Utf8.byteLength text)

/-- Sanitize a text that lies `depth` payloads deep. -/
def sanitizeAt (sanitizer : Sanitizer) (depth : Nat) (text : Text) : Logged Text :=
  runPasses sanitizer.patterns (sanitizer.hidesAttack (sanitizer.maxNesting - depth) depth)
    sanitizer.maxPasses depth sanitizer.maxPasses (stripNul text)

/-- Sanitize a value. -/
def sanitize (sanitizer : Sanitizer) (text : Text) : Logged Text := sanitizer.sanitizeAt 0 text

end Sanitizer

end ScriptSanitizer
