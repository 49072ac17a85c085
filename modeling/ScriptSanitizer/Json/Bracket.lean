import ScriptSanitizer.Json.Parser

/-!
# Passing over JSON values

A value that nobody asks for is passed over with its open brackets on a stack, so that it may nest
to any depth.  What it holds is not looked at closely: numbers may be too large, and surrogates
may stand alone.

Main operation: `skipValue`.
-/

namespace ScriptSanitizer

namespace Json

/-- A bracket that is still open. -/
inductive Bracket where
  /-- The bracket of an array. -/
  | array
  /-- The brace of an object. -/
  | object
  deriving DecidableEq

namespace Bracket

/-- What closes a bracket. -/
def closing : Bracket → Char
  | array => ']'
  | object => '\x7d'

/-- The cause of stopping at the end of the text. -/
def endCause : Bracket → Cause
  | array => .endInArray
  | object => .endInObject

/-- The cause of stopping at anything but a comma and what closes the bracket. -/
def commaCause : Bracket → Cause
  | array => .expectedCommaInArray
  | object => .expectedCommaInObject

end Bracket

/-- Pass over a string behind its opening quotation mark, and over `skip` characters first. -/
def skipStringFrom : Nat → Text → Except Mishap Text
  | _, [] => .error (.before .endInString [])
  | skip + 1, _ :: rest => skipStringFrom skip rest
  | 0, front :: rest =>
    if front = '"' then .ok rest
    else if front = '\\' then
      match rest with
      | [] => .error (.before .endInString [])
      | mark :: digits =>
        if mark = 'u' then do
          let _ ← readUnit digits
          skipStringFrom 5 rest
        else if mark ∈ ['"', '\\', '/', 'b', 'f', 'n', 'r', 't'] then skipStringFrom 1 rest
        else .error (.atFront .invalidEscape rest)
    else if front < ' ' then .error (.before .controlCharacter (front :: rest))
    else skipStringFrom 0 rest

/-- Pass over the digits of an exponent. -/
def skipExponent (text : Text) : Except Mishap Text :=
  let text :=
    match text with
    | '+' :: rest => rest
    | '-' :: rest => rest
    | _ => text
  if (text.takeWhile isDecimalDigit).isEmpty then .error (.atFront .invalidNumber text)
  else .ok (text.dropWhile isDecimalDigit)

/-- Pass over an exponent, if there is one. -/
def skipScale (text : Text) : Except Mishap Text :=
  match text with
  | 'e' :: rest => skipExponent rest
  | 'E' :: rest => skipExponent rest
  | _ => .ok text

/-- Pass over a number behind its sign, however large it is. -/
def skipNumber (text : Text) : Except Mishap Text :=
  let rest := text.dropWhile isDecimalDigit
  match text.takeWhile isDecimalDigit with
  | [] => .error (.atFront .invalidNumber text)
  | '0' :: _ :: _ => .error (.atFront .invalidNumber (text.drop 1))
  | _ =>
    match rest with
    | '.' :: fraction =>
      if (fraction.takeWhile isDecimalDigit).isEmpty then
        .error (.atFront .invalidNumber fraction)
      else skipScale (fraction.dropWhile isDecimalDigit)
    | _ => skipScale rest

/-- Pass over what closes brackets, up to an item or a member that follows; no bracket is left
open if none does.  `comma` tells that one may stand here. -/
def skipClosings (comma : Bool) :
    List Bracket → Text → Except Mishap (List Bracket × Text)
  | [], text => .ok ([], text)
  | bracket :: outer, text =>
    match skipSpace text with
    | [] => .error (.before bracket.endCause [])
    | front :: rest =>
      if comma ∧ front = ',' then .ok (bracket :: outer, rest)
      else if front = bracket.closing then skipClosings true outer rest
      else if comma then .error (.atFront bracket.commaCause (front :: rest))
      else .ok (bracket :: outer, front :: rest)

/-- Pass over the name in front of a member, if the innermost bracket holds members. -/
def skipName (brackets : List Bracket) (text : Text) : Except Mishap Text :=
  match brackets with
  | .object :: _ =>
    match skipSpace text with
    | [] => .error (.before .endInObject [])
    | '"' :: rest => do skipColon (← skipStringFrom 0 rest)
    | rest => .error (.atFront .expectedName rest)
  | _ => .ok text

/-- Pass over a value inside open brackets, and over what closes them. -/
def skipValue : Nat → List Bracket → Text → Except Mishap Text
  | 0, _, text => .error (.before .endInValue text)
  | turns + 1, brackets, text => do
    let (comma, brackets, rest) ←
      match skipSpace text with
      | [] => (.error (.before .endInValue []) : Except Mishap (Bool × List Bracket × Text))
      | front :: rest =>
        match front with
        | 'n' => do .ok (true, brackets, ← readWord "ull".toList rest)
        | 't' => do .ok (true, brackets, ← readWord "rue".toList rest)
        | 'f' => do .ok (true, brackets, ← readWord "alse".toList rest)
        | '-' => do .ok (true, brackets, ← skipNumber rest)
        | '"' => do .ok (true, brackets, ← skipStringFrom 0 rest)
        | '[' => .ok (false, .array :: brackets, rest)
        | '\x7b' => .ok (false, .object :: brackets, rest)
        | _ =>
          if isDecimalDigit front then do .ok (true, brackets, ← skipNumber (front :: rest))
          else .error (.atFront .expectedValue (front :: rest))
    let (brackets, rest) ← skipClosings comma brackets rest
    if brackets.isEmpty then .ok rest
    else skipValue turns brackets (← skipName brackets rest)

end Json

end ScriptSanitizer
