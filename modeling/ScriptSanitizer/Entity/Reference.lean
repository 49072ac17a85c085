import ScriptSanitizer.Entity.Table
import ScriptSanitizer.Text.Scan

/-!
# Character references

A reference is an ampersand followed by a name of the table and a semicolon, or by `#` and a
number.  A number is decimal, or hexadecimal behind `x` or `X`; it extends over the longest run
of hexadecimal digits, and a semicolon behind it is optional.  Decoding is one scan: decoded
characters are not looked at again, and an ampersand that starts no reference stays.
-/

namespace ScriptSanitizer

namespace Entity

/-- A stretch of text as the decoder sees it. -/
inductive Piece where
  /-- A character that belongs to no reference. -/
  | plain (character : Char)
  /-- The character that a reference names. -/
  | decoded (character : Char)
  /-- The ampersand of a numeric reference whose number names no character. -/
  | malformed (reference : Text)
  deriving DecidableEq

/-- What a piece contributes to the decoded text. -/
def Piece.text : Piece → Text
  | .plain character => [character]
  | .decoded character => [character]
  | .malformed _ => ['&']

/-- The reference by number whose text behind `&#` is given.  A run of digits that is not a
number in its radix makes no reference at all. -/
def numeric (tail : Text) : Piece × Nat :=
  let (radix, marker, body) : Nat × Text × Text :=
    match tail with
    | 'x' :: body => (16, ['x'], body)
    | 'X' :: body => (16, ['X'], body)
    | _ => (10, [], tail)
  let digits := body.takeWhile isHexDigit
  if digits.isEmpty || (radix == 10 && !digits.all isDecimalDigit) then (.plain '&', 0)
  else
    let closing : Text := if (body.drop digits.length).head? = some ';' then [';'] else []
    let written := '#' :: (marker ++ digits ++ closing)
    match scalar? (digitsValue radix digits) with
    | some character => (.decoded character, written.length)
    | none => (.malformed ('&' :: written), 0)

/-- The reference by name whose text behind `&` is given. -/
def named (tail : Text) : Piece × Nat :=
  let window := tail.take (longestName + 1)
  let name := window.takeWhile (· != ';')
  if name.length < window.length then
    match lookup? name with
    | some character => (.decoded character, name.length + 1)
    | none => (.plain '&', 0)
  else (.plain '&', 0)

/-- The piece in front of a text, and how many characters behind the first belong to it. -/
def step (front : Char) (rest : Text) : Piece × Nat :=
  if front = '&' then
    match rest with
    | '#' :: tail => numeric tail
    | _ => named rest
  else (.plain front, 0)

/-- The pieces of a text. -/
def pieces (text : Text) : List Piece := Scan.pieces step text

/-- The text with every reference replaced by its character. -/
def decode (text : Text) : Text := (pieces text).flatMap Piece.text

/-- The numeric references of a text whose number names no character, in order. -/
def malformed (text : Text) : List Text :=
  (pieces text).filterMap fun
    | .malformed reference => some reference
    | _ => none

end Entity

end ScriptSanitizer
