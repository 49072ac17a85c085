/-!
# Texts and their digits

A text is the list of its characters, so that the decoders and matchers of the library are
recursions on the text itself.  This file also holds what several notations share: the value of
a digit, numbers read from a run of digits, and the partial map from code points to characters.
-/

namespace ScriptSanitizer

/-- A text, character by character. -/
abbrev Text := List Char

/-- The character with a given code point; surrogates and numbers past U+10FFFF name none. -/
def scalar? (codePoint : Nat) : Option Char :=
  if valid : codePoint.isValidChar then some (Char.ofNatAux codePoint valid) else none

@[simp]
theorem scalar?_toNat (character : Char) : scalar? character.toNat = some character := by
  have valid : character.toNat.isValidChar := character.valid
  rw [scalar?, dif_pos valid]
  rfl

/-- The value of a hexadecimal digit, in either case. -/
def hexDigit? (character : Char) : Option Nat :=
  if '0' ≤ character ∧ character ≤ '9' then some (character.toNat - 48)
  else if 'a' ≤ character ∧ character ≤ 'f' then some (character.toNat - 87)
  else if 'A' ≤ character ∧ character ≤ 'F' then some (character.toNat - 55)
  else none

/-- A hexadecimal digit, in either case. -/
def isHexDigit (character : Char) : Bool := (hexDigit? character).isSome

/-- A decimal digit of ASCII. -/
def isDecimalDigit (character : Char) : Bool := '0' ≤ character && character ≤ '9'

/-- The number that a run of digits writes in the given radix, the most significant digit first. -/
def digitsValue (radix : Nat) (digits : Text) : Nat :=
  digits.foldl (fun value digit => value * radix + (hexDigit? digit).getD 0) 0

/-- The digits of a number in a radix of at most sixteen, in lower case. -/
def digitsOf (radix number : Nat) : Text := Nat.toDigits radix number

/-- The text with one character struck out wherever it stands. -/
def strikeOut (character : Char) (text : Text) : Text := text.filter (· != character)

/-- One text stands somewhere in another one; the empty one stands in every text. -/
def standsIn (needle : Text) : Text → Bool
  | [] => needle.isEmpty
  | front :: rest => needle.isPrefixOf (front :: rest) || standsIn needle rest

/-- The pieces between the occurrences of a separator. -/
def splitAtEach (separator : Char) : Text → List Text
  | [] => [[]]
  | character :: rest =>
    if character = separator then [] :: splitAtEach separator rest
    else
      match splitAtEach separator rest with
      | [] => [[character]]
      | piece :: pieces => (character :: piece) :: pieces

end ScriptSanitizer
