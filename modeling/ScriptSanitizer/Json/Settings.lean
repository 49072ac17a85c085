import ScriptSanitizer.Json.Bracket
import ScriptSanitizer.Json.Printer
import ScriptSanitizer.Settings
import ScriptSanitizer.Text.Quoted

/-!
# Settings as JSON

Settings are written as an object of three members, and read from such an object or from an array
of the three in order.  What is missing takes its default, and members of other names are passed
over, whatever they hold.  The reader stops at the first fault, be it one of JSON or of form.
-/

namespace ScriptSanitizer

namespace Json

/-- What a report calls a number. -/
def Number.describe : Number → Text
  | integer value => "integer `".toList ++ formatInteger value ++ ['\x60']
  | float value => "floating point `".toList ++ formatFloat value ++ ['\x60']

/-- The mishap of a value that is not of the expected kind. -/
def mismatch (found : Text) (expected : String) (rest : Text) : Mishap :=
  .before
    (.unexpected ("invalid type: ".toList ++ found ++ ", expected ".toList ++ expected.toList)) rest

/-- Read a value only to refuse it. -/
def refuse {Result : Type} (expected : String) (text : Text) : Except Mishap Result :=
  match text with
  | [] => .error (.before .endInValue [])
  | front :: rest =>
    match front with
    | 'n' => do .error (mismatch "null".toList expected (← readWord "ull".toList rest))
    | 't' => do
      .error (mismatch "boolean `true`".toList expected (← readWord "rue".toList rest))
    | 'f' => do
      .error (mismatch "boolean `false`".toList expected (← readWord "alse".toList rest))
    | '-' => do
      let (number, rest) ← readNumber true rest
      .error (mismatch number.describe expected rest)
    | '"' => do
      let (string, rest) ← readString rest
      .error (mismatch ("string ".toList ++ Quoted.encode string) expected rest)
    | '[' => .error (mismatch "sequence".toList expected text)
    | '\x7b' => .error (mismatch "map".toList expected text)
    | _ =>
      if isDecimalDigit front then do
        let (number, rest) ← readNumber false text
        .error (mismatch number.describe expected rest)
      else .error (.atFront .expectedValue text)

/-- Read a bound. -/
def readBound (text : Text) : Except Mishap (Nat × Text) :=
  let text := skipSpace text
  let negative := text.head? = some '-'
  if negative || text.head?.any isDecimalDigit then do
    match ← readNumber negative (if negative then text.drop 1 else text) with
    | (.integer (.ofNat value), rest) => .ok (value, rest)
    | (.integer value, rest) =>
      .error (.before
        (.unexpected ("invalid value: ".toList ++ (Number.integer value).describe ++
          ", expected usize".toList)) rest)
    | (.float value, rest) => .error (mismatch (Number.float value).describe "usize" rest)
  else refuse "usize" text

/-- Read a pattern. -/
def readPattern (text : Text) : Except Mishap (Text × Text) :=
  match skipSpace text with
  | '"' :: rest => readString rest
  | text => refuse "a string" text

/-- Read patterns. -/
def readPatterns (text : Text) : Except Mishap (List Text × Text) :=
  match skipSpace text with
  | '[' :: rest => readItems readPattern (rest.length + 1) true rest
  | text => refuse "a sequence" text

/-- The settings that have been read so far. -/
structure Draft where
  /-- The bound on passes. -/
  maxPasses : Option Nat := none
  /-- The bound on nesting. -/
  maxNesting : Option Nat := none
  /-- The custom patterns. -/
  extraPatterns : Option (List Text) := none

/-- The settings of a draft, with defaults for what is missing. -/
def Draft.settings (draft : Draft) : Settings :=
  let defaults : Settings := {}
  { maxPasses := draft.maxPasses.getD defaults.maxPasses
    maxNesting := draft.maxNesting.getD defaults.maxNesting
    extraPatterns := draft.extraPatterns.getD defaults.extraPatterns }

/-- The mishap of a second member with a known name; a brace behind it is passed over. -/
def duplicate (name rest : Text) : Mishap :=
  let rest :=
    match skipSpace rest with
    | '\x7d' :: rest => rest
    | rest => rest
  .before (.unexpected ("duplicate field `".toList ++ name ++ ['\x60'])) rest

/-- Read what a known member holds. -/
def readField {Content : Type} (readContent : Text → Except Mishap (Content × Text))
    (known : Option Content) (name rest : Text) : Except Mishap (Content × Text) := do
  if known.isSome then .error (duplicate name rest)
  else readContent (← skipColon rest)

/-- The name of the bound on passes. -/
def maxPassesName : Text := "max_passes".toList

/-- The name of the bound on nesting. -/
def maxNestingName : Text := "max_nesting".toList

/-- The name of the custom patterns. -/
def extraPatternsName : Text := "extra_patterns".toList

/-- Read a member of settings. -/
def readSetting (draft : Draft) (name rest : Text) : Except Mishap (Draft × Text) :=
  if name = maxPassesName then do
    let (value, rest) ← readField readBound draft.maxPasses name rest
    .ok ({ draft with maxPasses := some value }, rest)
  else if name = maxNestingName then do
    let (value, rest) ← readField readBound draft.maxNesting name rest
    .ok ({ draft with maxNesting := some value }, rest)
  else if name = extraPatternsName then do
    let (value, rest) ← readField readPatterns draft.extraPatterns name rest
    .ok ({ draft with extraPatterns := some value }, rest)
  else do
    let rest ← skipColon rest
    .ok (draft, ← skipValue (rest.length + 1) [] rest)

/-- Read the next item of an array, if there is one. -/
def readOptional {Item : Type} (readItem : Text → Except Mishap (Item × Text)) (first : Bool)
    (text : Text) : Except Mishap (Option Item × Text) :=
  match skipSpace text with
  | [] => .error (.before .endInArray [])
  | ']' :: rest => .ok (none, ']' :: rest)
  | text => do
    let (item, rest) ← readItem (← nextItem first text)
    .ok (some item, rest)

/-- Read the closing bracket of an array whose items have been read. -/
def readClosing (text : Text) : Except Mishap Text :=
  match skipSpace text with
  | [] => .error (.before .endInArray [])
  | ']' :: rest => .ok rest
  | ',' :: rest =>
    match skipSpace rest with
    | ']' :: rest => .error (.atFront .trailingComma (']' :: rest))
    | rest => .error (.atFront .trailingCharacters rest)
  | rest => .error (.atFront .trailingCharacters rest)

/-- Read settings in either form. -/
def readSettings (text : Text) : Except Mishap (Settings × Text) :=
  match skipSpace text with
  | '[' :: rest => do
    let (maxPasses, rest) ← readOptional readBound true rest
    let (maxNesting, rest) ← readOptional readBound false rest
    let (extraPatterns, rest) ← readOptional readPatterns false rest
    let draft : Draft := { maxPasses, maxNesting, extraPatterns }
    .ok (draft.settings, ← readClosing rest)
  | '\x7b' :: rest => do
    let (draft, rest) ← readMembers readSetting (rest.length + 1) true {} rest
    .ok (draft.settings, rest)
  | text => refuse "struct SanitizerConfig" text

end Json

namespace Settings

/-- The settings that a document writes. -/
def ofJson? (text : Text) : Except Json.Failure Settings :=
  Except.mapError (·.locate text) do
    let (settings, rest) ← Json.readSettings text
    Json.finish rest
    .ok settings

/-- Settings as an object. -/
def toJson (settings : Settings) : Json.Value :=
  .object
    [(Json.maxPassesName, .number (.integer settings.maxPasses)),
      (Json.maxNestingName, .number (.integer settings.maxNesting)),
      (Json.extraPatternsName, .array (settings.extraPatterns.map .string))]

end Settings

end ScriptSanitizer
