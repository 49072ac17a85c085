import ScriptSanitizer.Regex.Meaning

/-!
# Attack patterns

The built-in patterns of script injection and the custom ones that may follow them.  A set strikes
its patterns out one after another, each from what the one before has left; it detects an attack
if one of them occurs in the text as it is.  Nothing here depends on the library that compiles the
custom patterns: any `Compiler` will do, and `Regex.compile?` is the one that runs.
-/

namespace ScriptSanitizer

/-- A kind of attack. -/
inductive Attack where
  /-- A script element, or one of its tags. -/
  | scriptInjection
  /-- A call of `eval`. -/
  | evalCall
  /-- An expression in a style sheet. -/
  | cssExpression
  /-- A call of `atob`. -/
  | base64DecodeCall
  /-- An address that runs JavaScript. -/
  | javascriptProtocol
  /-- An address that runs VBScript. -/
  | vbscriptProtocol
  /-- An attribute that handles an event. -/
  | eventHandler
  /-- A match of a custom pattern. -/
  | customPattern
  /-- An inline base64 block that hides an attack. -/
  | base64Payload
  deriving DecidableEq

/-- The name under which an attack is reported. -/
def Attack.label : Attack → String
  | scriptInjection => "Script injection"
  | evalCall => "Eval call"
  | cssExpression => "CSS expression"
  | base64DecodeCall => "Base64 decode call"
  | javascriptProtocol => "JavaScript protocol"
  | vbscriptProtocol => "VBScript protocol"
  | eventHandler => "Event handler injection"
  | customPattern => "Custom pattern"
  | base64Payload => "Base64 payload"

/-- A pattern that is struck out of texts. -/
structure Pattern where
  /-- What a match is taken for. -/
  attack : Attack
  /-- The expression as it is written. -/
  source : Text
  /-- How its matches are found. -/
  finder : Finder

namespace Pattern

/-- The pattern occurs in the text. -/
def occursIn (pattern : Pattern) (text : Text) : Bool := pattern.finder.occursIn text

/-- The text without the matches of the pattern. -/
def strike (pattern : Pattern) (text : Text) : Text := pattern.finder.strike text

/-- As few characters as possible, up to what follows. -/
def anything (allowed : CharClass) : Regex := .star (.char allowed) false

/-- The expression of a call: the name of a function, and everything up to the next closing
parenthesis. -/
def callRegex (name : Text) : Regex :=
  .sequence [.text (name ++ ['(']), anything .any, .text [')']]

/-- A call of a function. -/
def call (attack : Attack) (name : Text) : Pattern where
  attack
  source := name ++ "\\((.*?)\\)".toList
  finder := (callRegex name).finder

/-- A text, in any case. -/
def word (attack : Attack) (letters : Text) : Pattern where
  attack
  source := letters
  finder := (Regex.text letters).finder

/-- What the names of events start with. -/
def eventStems : List Text :=
  ["click", "context", "mouse", "dblclick", "key", "abort", "error", "before", "hash", "load",
    "page", "resize", "scroll", "unload", "blur", "change", "focus", "input", "invalid", "reset",
    "search", "select", "submit", "drag", "drop", "copy", "cut", "paste", "after", "can", "end",
    "duration", "emptied", "play", "progress", "seek", "stall", "suspend", "time", "volume",
    "waiting", "message", "open", "touch", "online", "offline", "popstate", "show", "storage",
    "toggle", "wheel", "animationstart", "begin"].map String.toList

/-- The expression of a script element within a line. -/
def scriptElementRegex : Regex :=
  .sequence [.text "<script>".toList, anything .withinLine, .text "</script>".toList]

/-- A script element within a line. -/
def scriptElement : Pattern where
  attack := .scriptInjection
  source := "<script>(.*?)</script>".toList
  finder := scriptElementRegex.finder

/-- The expression of an opening tag of a script element, with its attributes. -/
def scriptTagRegex : Regex := .sequence [.text "<script".toList, anything .any, .text ['>']]

/-- An opening tag of a script element. -/
def scriptTag : Pattern where
  attack := .scriptInjection
  source := "<script(.*?)>".toList
  finder := scriptTagRegex.finder

/-- The expression of an attribute that handles an event: `on`, a stem, one word more, and the
equals sign. -/
def eventHandlerRegex : Regex :=
  .sequence
    [.text "on".toList, .oneOf (eventStems.map .text), .star (.char .blank) true,
      .star (.char .word) true, .star (.char .blank) true, .text ['=']]

/-- An attribute that handles an event. -/
def eventHandler : Pattern where
  attack := .eventHandler
  source :=
    "on(".toList ++ ['|'].intercalate eventStems ++ ")(\\s*\\w*\\s*)=".toList
  finder := eventHandlerRegex.finder

/-- The built-in patterns, in the order in which they are applied. -/
def builtin : List Pattern :=
  [scriptElement,
    word .scriptInjection "<script>".toList,
    word .scriptInjection "</script>".toList,
    scriptTag,
    call .evalCall "eval".toList,
    call .cssExpression "expression".toList,
    call .base64DecodeCall "atob".toList,
    word .javascriptProtocol "javascript:".toList,
    word .vbscriptProtocol "vbscript:".toList,
    eventHandler]

end Pattern

/-- A library of expressions: what it makes of a written one, or why it refuses it. -/
abbrev Compiler := Text → Except PatternError Finder

/-- The flags of custom patterns: case does not matter, and the dot matches every character. -/
def Regex.customFlags : Regex.Flags := { ignoreCase := true, dotAll := true }

/-- The library of the expressions in this development. -/
def Regex.compile? : Compiler := fun source => do
  let expression ← Regex.ofText? Regex.customFlags source
  .ok expression.finder

/-- The custom pattern that a text writes. -/
def Pattern.custom? (compile : Compiler) (source : Text) : Except PatternError Pattern := do
  .ok ⟨.customPattern, source, ← compile source⟩

/-- Patterns in the order in which they are applied. -/
structure PatternSet where
  /-- The patterns of the set. -/
  patterns : List Pattern

namespace PatternSet

/-- The built-in patterns. -/
def builtin : PatternSet := ⟨Pattern.builtin⟩

/-- The built-in patterns followed by custom ones, which any library may compile. -/
def compiled? (compile : Compiler) (sources : List Text) : Except PatternError PatternSet := do
  .ok ⟨Pattern.builtin ++ (← sources.mapM (Pattern.custom? compile))⟩

/-- The built-in patterns followed by custom ones. -/
def withCustom? (sources : List Text) : Except PatternError PatternSet :=
  compiled? Regex.compile? sources

/-- The number of patterns. -/
def size (set : PatternSet) : Nat := set.patterns.length

/-- The text without the matches of the patterns, struck out one pattern after another. -/
def strike (set : PatternSet) (text : Text) : Text :=
  set.patterns.foldl (fun text pattern => pattern.strike text) text

/-- The first pattern that occurs in the text. -/
def firstMatch? (set : PatternSet) (text : Text) : Option Pattern :=
  set.patterns.find? fun pattern => pattern.occursIn text

end PatternSet

end ScriptSanitizer
