import ScriptSanitizer.Text.Basic

/-!
# Bounded whole numbers

The decimal notation of whole numbers that fit a word of 64 bits.
-/

namespace ScriptSanitizer

/-- The largest number that a bound or a counter may have. -/
def maximalWord : Nat := 18446744073709551615

/-- A number without sign other than a plus, in decimal digits, that is no larger than
`maximalWord`. -/
def wordOf? (text : Text) : Option Nat :=
  let digits :=
    match text with
    | '+' :: digits => digits
    | _ => text
  if digits.isEmpty || !digits.all isDecimalDigit then none
  else (some (digitsValue 10 digits)).filter (· ≤ maximalWord)

/-- The number that a run of digits adds to the end of another one, as far as the bound allows,
and the digits behind. -/
def absorbDigits (bound number : Nat) : Text → Nat × Text
  | [] => (number, [])
  | digit :: digits =>
    let next := number * 10 + (hexDigit? digit).getD 0
    if next ≤ bound then absorbDigits bound next digits else (number, digit :: digits)

end ScriptSanitizer
