import ScriptSanitizer.Regex.Names

/-!
# Spacing and counts in expressions

Where the flag for it is on, white space and comments are passed over between the parts of a
construct, even between the digits of a count.
-/

namespace ScriptSanitizer

namespace Regex

/-- The text behind leading white space and comments; `comment` tells that it starts inside one. -/
def skipBlanks (comment : Bool) : Text → Text
  | [] => []
  | character :: rest =>
    if comment then skipBlanks (character != '\n') rest
    else if isBlank character then skipBlanks false rest
    else if character = '#' then skipBlanks true rest
    else character :: rest

/-- The text behind what is passed over. -/
def skip (blanks : Bool) (text : Text) : Text := if blanks then skipBlanks false text else text

/-- The text behind what is passed over, which must not be empty. -/
def skipWithin (blanks : Bool) (text : Text) : Except PatternError Text :=
  match skip blanks text with
  | [] => .error .unclosed
  | rest => .ok rest

/-- The digits that a text starts with, passing over what may stand between them. -/
def spacedDigits (blanks : Bool) : Nat → Text → Text × Text
  | 0, text => ([], text)
  | turns + 1, text =>
    match text with
    | digit :: rest =>
      if isDecimalDigit digit then
        let (digits, rest) := spacedDigits blanks turns (skip blanks rest)
        (digit :: digits, rest)
      else ([], text)
    | [] => ([], text)

/-- The largest count of a repetition. -/
def maximalCount : Nat := 4294967295

/-- A count, with white space around it; none if no digit is there. -/
def count? (blanks : Bool) (text : Text) : Except PatternError (Option Nat × Text) :=
  let (digits, rest) := spacedDigits blanks text.length (trimStart text)
  let rest := skip blanks (trimStart rest)
  let count := digitsValue 10 digits
  if digits.isEmpty then .ok (none, rest)
  else if count ≤ maximalCount then .ok (some count, rest)
  else .error .badCount

/-- The counts of a repetition behind its opening brace. -/
def counts (blanks : Bool) (text : Text) : Except PatternError ((Nat × Option Nat) × Text) := do
  let (low, rest) ← count? blanks (← skipWithin blanks text)
  let bounds : Except PatternError ((Nat × Option Nat) × Text) :=
    match rest with
    | [] => .error .unclosed
    | ',' :: rest => do
      let rest ← skipWithin blanks rest
      match low, rest with
      | none, _ => .error .badCount
      | some low, '}' :: _ => .ok ((low, none), rest)
      | some low, _ =>
        match ← count? blanks rest with
        | (some high, rest) => .ok ((low, some high), rest)
        | (none, _) => .error .badCount
    | _ =>
      match low with
      | some exactly => .ok ((exactly, some exactly), rest)
      | none => .error .badCount
  match ← bounds with
  | ((low, high), '}' :: rest) =>
    if high.all (low ≤ ·) then .ok ((low, high), skip blanks rest) else .error .badCount
  | _ => .error .unclosed

end Regex

end ScriptSanitizer
