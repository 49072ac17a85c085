import ScriptSanitizer.Json.Lexeme

/-!
# Reading JSON documents

The items of an array and the members of an object are read by one loop each, which takes the
reader of an item or of a member.  A value is read with a bound on the brackets
that may still be opened.

Main operations: `Value.ofText?`, `Value.ofBytes?`.
-/

namespace ScriptSanitizer

namespace Json

/-- Go to the next item of an array, behind the comma in front of it unless it is the first. -/
def nextItem (first : Bool) (text : Text) : Except Mishap Text :=
  if first then .ok text
  else
    match text with
    | ',' :: rest =>
      match skipSpace rest with
      | [] => .error (.before .endInValue [])
      | ']' :: rest => .error (.atFront .trailingComma (']' :: rest))
      | rest => .ok rest
    | rest => .error (.atFront .expectedCommaInArray rest)

/-- Read the items of an array up to its closing bracket. -/
def readItems {Item : Type} (readItem : Text → Except Mishap (Item × Text)) :
    Nat → Bool → Text → Except Mishap (List Item × Text)
  | 0, _, text => .error (.before .endInArray text)
  | turns + 1, first, text =>
    match skipSpace text with
    | [] => .error (.before .endInArray [])
    | ']' :: rest => .ok ([], rest)
    | text => do
      let (item, rest) ← readItem (← nextItem first text)
      let (items, rest) ← readItems readItem turns false rest
      .ok (item :: items, rest)

/-- Go to the next member of an object, behind the comma in front of it unless it is the first,
and behind the quotation mark of its name. -/
def nextMember (first : Bool) (text : Text) : Except Mishap Text :=
  if first then
    match text with
    | '"' :: rest => .ok rest
    | rest => .error (.atFront .expectedName rest)
  else
    match text with
    | ',' :: rest =>
      match skipSpace rest with
      | [] => .error (.before .endInValue [])
      | '"' :: rest => .ok rest
      | '\x7d' :: rest => .error (.atFront .trailingComma ('\x7d' :: rest))
      | rest => .error (.atFront .expectedName rest)
    | rest => .error (.atFront .expectedCommaInObject rest)

/-- Go behind the colon that follows a name. -/
def skipColon (text : Text) : Except Mishap Text :=
  match skipSpace text with
  | [] => .error (.before .endInObject [])
  | ':' :: rest => .ok rest
  | rest => .error (.atFront .expectedColon rest)

/-- Read the members of an object up to its closing brace.  `readMember` takes what the members so
far have come to, the name of the next one and the text behind it. -/
def readMembers {State : Type} (readMember : State → Text → Text → Except Mishap (State × Text)) :
    Nat → Bool → State → Text → Except Mishap (State × Text)
  | 0, _, _, text => .error (.before .endInObject text)
  | turns + 1, first, state, text =>
    match skipSpace text with
    | [] => .error (.before .endInObject [])
    | '\x7d' :: rest => .ok (state, rest)
    | text => do
      let (name, rest) ← readString (← nextMember first text)
      let (state, rest) ← readMember state name rest
      readMembers readMember turns false state rest

/-- Read the value of a member and put it among the others. -/
def readMember (readInner : Text → Except Mishap (Value × Text)) (members : List (Text × Value))
    (name rest : Text) : Except Mishap (List (Text × Value) × Text) := do
  let (value, rest) ← readInner (← skipColon rest)
  .ok (insertMember name value members, rest)

/-- Read what stands between brackets; `inner` reads the values there, if brackets may be opened
at all. -/
def readNested (inner : Option (Text → Except Mishap (Value × Text))) (opening : Char)
    (rest : Text) : Except Mishap (Value × Text) :=
  match inner with
  | none => .error (.atFront .recursionLimit (opening :: rest))
  | some readInner =>
    if opening = '[' then do
      let (items, rest) ← readItems readInner (rest.length + 1) true rest
      .ok (.array items, rest)
    else do
      let (members, rest) ← readMembers (readMember readInner) (rest.length + 1) true [] rest
      .ok (.object members, rest)

/-- Read a value; `inner` reads the values inside its brackets. -/
def readValueWith (inner : Option (Text → Except Mishap (Value × Text))) (text : Text) :
    Except Mishap (Value × Text) :=
  match skipSpace text with
  | [] => .error (.before .endInValue [])
  | front :: rest =>
    match front with
    | 'n' => do .ok (.null, ← readWord "ull".toList rest)
    | 't' => do .ok (.bool true, ← readWord "rue".toList rest)
    | 'f' => do .ok (.bool false, ← readWord "alse".toList rest)
    | '-' => do
      let (number, rest) ← readNumber true rest
      .ok (.number number, rest)
    | '"' => do
      let (string, rest) ← readString rest
      .ok (.string string, rest)
    | '[' => readNested inner front rest
    | '\x7b' => readNested inner front rest
    | _ =>
      if isDecimalDigit front then do
        let (number, rest) ← readNumber false (front :: rest)
        .ok (.number number, rest)
      else .error (.atFront .expectedValue (front :: rest))

/-- Read a value in which at most so many brackets are open at a time. -/
def readValue : Nat → Text → Except Mishap (Value × Text)
  | 0 => readValueWith none
  | depth + 1 => readValueWith (some (readValue depth))

/-- How many brackets may be open at a time. -/
def maximalDepth : Nat := 127

/-- Only white space is left. -/
def finish (text : Text) : Except Mishap Unit :=
  match skipSpace text with
  | [] => .ok ()
  | rest => .error (.atFront .trailingCharacters rest)

/-- Read a document. -/
def readDocument (text : Text) : Except Mishap Value := do
  let (value, rest) ← readValue maximalDepth text
  finish rest
  .ok value

/-- The value that a text writes. -/
def Value.ofText? (text : Text) : Except Failure Value :=
  (readDocument text).mapError (·.locate text)

/-- A number that is too large shows in a stream of bytes where the byte behind it shows. -/
def Mishap.streamed (mishap : Mishap) : Mishap :=
  match mishap.cause with
  | .numberTooLarge => .atFront .numberTooLarge mishap.rest
  | _ => mishap

/-- The value that bytes write.  Where they are no text, what stands in front of the first
malformed byte is read, and a string that reaches that byte is refused. -/
def Value.ofBytes? (bytes : List UInt8) : Except Failure Value :=
  match Utf8.decode? bytes with
  | some text => (readDocument text).mapError (·.streamed.locate text)
  | none =>
    let sound := ((Utf8.units bytes).takeWhile Option.isSome).filterMap id
    let text := sound ++ ['\uFFFD']
    (readDocument text).mapError fun mishap =>
      if mishap.cause = .endInString then
        Mishap.locate ⟨.invalidCodePoint, ['\uFFFD'], 1⟩ text
      else mishap.streamed.locate text

end Json

end ScriptSanitizer
