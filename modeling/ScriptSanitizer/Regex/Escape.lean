import ScriptSanitizer.Regex.Spacing

/-!
# Escapes in expressions

What a backslash stands for together with the characters behind it: a character, a class, or a
condition on the place.

Main operation: `escape`.
-/

namespace ScriptSanitizer

namespace Regex

/-- The hexadecimal digits of an escape of fixed width. -/
def fixedDigits (blanks : Bool) : Nat → Text → Except PatternError (Text × Text)
  | 0, text => .ok ([], text)
  | digits + 1, text => do
    match ← skipWithin blanks text with
    | digit :: rest =>
      if isHexDigit digit then
        let (others, rest) ← fixedDigits blanks digits rest
        .ok (digit :: others, rest)
      else .error .badEscape
    | [] => .error .unclosed

/-- The hexadecimal digits of an escape up to its closing brace. -/
def bracedDigits (blanks : Bool) : Nat → Text → Except PatternError (Text × Text)
  | 0, _ => .error .unclosed
  | turns + 1, text => do
    match ← skipWithin blanks text with
    | '}' :: rest => .ok ([], rest)
    | digit :: rest =>
      if isHexDigit digit then
        let (others, rest) ← bracedDigits blanks turns rest
        .ok (digit :: others, rest)
      else .error .badEscape
    | [] => .error .unclosed

/-- The name of a class up to its closing brace. -/
def bracedName (blanks : Bool) : Nat → Text → Except PatternError (Text × Text)
  | 0, _ => .error .unclosed
  | turns + 1, text => do
    match ← skipWithin blanks text with
    | '}' :: rest => .ok ([], rest)
    | letter :: rest =>
      let (others, rest) ← bracedName blanks turns rest
      .ok (letter :: others, rest)
    | [] => .error .unclosed

/-- The character that an escape writes by its code point, behind the letter of the escape. -/
def codePoint (blanks : Bool) (width : Nat) (text : Text) :
    Except PatternError ((Char × Bool) × Text) := do
  let (digits, rest, byte) ←
    match ← skipWithin blanks text with
    | '{' :: rest => do
      let (digits, rest) ← bracedDigits blanks rest.length rest
      .ok (digits, rest, false)
    | rest => do
      let (digits, rest) ← fixedDigits blanks width rest
      .ok (digits, rest, width == 2)
  if digits.isEmpty then .error .badEscape
  else
    match scalar? (digitsValue 16 digits) with
    | some character => .ok ((character, byte), skip blanks rest)
    | none => .error .badEscape

/-- Cut a text in front of the first occurrence of a word. -/
def cutAt? (word : Text) : Text → Option (Text × Text)
  | [] => none
  | character :: rest =>
    if word.isPrefixOf (character :: rest) then some ([], (character :: rest).drop word.length)
    else (cutAt? word rest).map fun (front, back) => (character :: front, back)

/-- The class that a name in braces stands for, and whether the name negates it. -/
def classInBraces? (name : Text) : Option (CharClass × Bool) :=
  match cutAt? ['!', '='] name with
  | some (property, value) => (classWithValue? property value).map (·, true)
  | none =>
    match cutAt? [':'] name <|> cutAt? ['='] name with
    | some (property, value) => (classWithValue? property value).map (·, false)
    | none => (classNamed? name).map (·, false)

/-- A class by its name, behind the letter of its escape. -/
def namedClass (blanks negated : Bool) (text : Text) : Except PatternError (SetTree × Text) := do
  match ← skipWithin blanks text with
  | '{' :: rest =>
    let (name, rest) ← bracedName blanks rest.length rest
    match classInBraces? name with
    | some (members, unequal) => .ok (.unicode members (negated != unequal), rest)
    | none => .error .unknownProperty
  | '\\' :: _ => .error .badEscape
  | letter :: rest =>
    match classNamed? [letter] with
    | some members => .ok (.unicode members negated, rest)
    | none => .error .unknownProperty
  | [] => .error .unclosed

/-- What an escape or a single character stands for. -/
inductive Atom where
  /-- A character. -/
  | literal (character : Char) (byte : Bool)
  /-- A class. -/
  | set (members : SetTree)
  /-- An anchor. -/
  | anchor (anchor : Anchor)

/-- A special word boundary in braces behind its escape, if that is what the braces hold. -/
def specialBoundary? (blanks : Bool) (text : Text) :
    Except PatternError (Option Anchor × Text) := do
  let isLetter (letter : Char) : Bool := letter.isAlpha || letter == '-'
  match text with
  | '{' :: rest =>
    let inside ← skipWithin blanks rest
    if inside.head?.any isLetter then
      let (name, rest) ← bracedName blanks rest.length rest
      if name = "start".toList then .ok (some .wordStart, rest)
      else if name = "end".toList then .ok (some .wordEnd, rest)
      else if name = "start-half".toList then .ok (some .noWordBefore, rest)
      else if name = "end-half".toList then .ok (some .noWordAfter, rest)
      else .error .badEscape
    else .ok (none, text)
  | _ => .ok (none, text)

/-- A character of ASCII that a backslash makes an ordinary one. -/
def isEscapable (character : Char) : Bool :=
  character.toNat < 0x80 && !character.isAlphanum && character != '<' && character != '>'

/-- What an escape stands for, behind its backslash. -/
def escape (blanks : Bool) : Text → Except PatternError (Atom × Text)
  | [] => .error .unclosed
  | letter :: rest => do
    let literal (character : Char) : Except PatternError (Atom × Text) :=
      .ok (.literal character false, rest)
    let shorthand (name : Shorthand) (negated : Bool) : Except PatternError (Atom × Text) :=
      .ok (.set (.shorthand name negated), rest)
    let byCode (width : Nat) : Except PatternError (Atom × Text) := do
      let ((character, byte), rest) ← codePoint blanks width rest
      .ok (.literal character byte, rest)
    let byName (negated : Bool) : Except PatternError (Atom × Text) := do
      let (members, rest) ← namedClass blanks negated rest
      .ok (.set members, rest)
    if isDecimalDigit letter then .error .unsupported
    else if isEscapable letter then literal letter
    else
      match letter with
      | 'x' => byCode 2
      | 'u' => byCode 4
      | 'U' => byCode 8
      | 'p' => byName false
      | 'P' => byName true
      | 'd' => shorthand .digit false
      | 'D' => shorthand .digit true
      | 's' => shorthand .blank false
      | 'S' => shorthand .blank true
      | 'w' => shorthand .word false
      | 'W' => shorthand .word true
      | 'a' => literal '\x07'
      | 'f' => literal '\x0c'
      | 't' => literal '\t'
      | 'n' => literal '\n'
      | 'r' => literal '\r'
      | 'v' => literal '\x0b'
      | 'A' => .ok (.anchor .textStart, rest)
      | 'z' => .ok (.anchor .textEnd, rest)
      | 'b' => do
        let (special, rest) ← specialBoundary? blanks rest
        .ok (.anchor (special.getD .wordBoundary), rest)
      | 'B' => .ok (.anchor .noWordBoundary, rest)
      | '<' => .ok (.anchor .wordStart, rest)
      | '>' => .ok (.anchor .wordEnd, rest)
      | _ => .error .badEscape

end Regex

end ScriptSanitizer
