import ScriptSanitizer.Text.Scan

/-!
# Unicode escapes

A backslash, a `u` and four hexadecimal digits write one UTF-16 code unit.  Decoding replaces an
escape by its character and two escapes of a surrogate pair by the one character they combine
to.  The escape of an unpaired surrogate names no character and stays as it is written.
-/

namespace ScriptSanitizer

namespace UnicodeEscape

/-- A stretch of text as the decoder sees it. -/
inductive Piece where
  /-- A character that belongs to no escape. -/
  | plain (character : Char)
  /-- The character that one escape or a pair of escapes names. -/
  | decoded (character : Char)
  /-- The escape of a surrogate without its partner. -/
  | unpaired (escape : Text)
  deriving DecidableEq

/-- What a piece contributes to the decoded text. -/
def Piece.text : Piece → Text
  | .plain character => [character]
  | .decoded character => [character]
  | .unpaired escape => escape

/-- The code unit that four hexadecimal digits write. -/
def codeUnit? (a b c d : Char) : Option Nat := do
  pure ((((← hexDigit? a) * 16 + (← hexDigit? b)) * 16 + (← hexDigit? c)) * 16 + (← hexDigit? d))

/-- The code unit of the escape that a text starts with. -/
def leadingUnit? : Text → Option Nat
  | '\\' :: 'u' :: a :: b :: c :: d :: _ => codeUnit? a b c d
  | _ => none

/-- The first half of a surrogate pair. -/
def isHighSurrogate (unit : Nat) : Bool := 0xD800 ≤ unit && unit < 0xDC00

/-- The second half of a surrogate pair. -/
def isLowSurrogate (unit : Nat) : Bool := 0xDC00 ≤ unit && unit < 0xE000

/-- The code point that a surrogate pair stands for. -/
def combine (high low : Nat) : Nat := 0x10000 + (high - 0xD800) * 0x400 + (low - 0xDC00)

/-- The piece in front of a text, and how many characters behind the first belong to it. -/
def step (front : Char) (rest : Text) : Piece × Nat :=
  match leadingUnit? (front :: rest) with
  | none => (.plain front, 0)
  | some unit =>
    match leadingUnit? (rest.drop 5) with
    | some second =>
      if isHighSurrogate unit && isLowSurrogate second then
        (.decoded (Char.ofNat (combine unit second)), 11)
      else single unit
    | none => single unit
where
  /-- An escape that is read by itself. -/
  single (unit : Nat) : Piece × Nat :=
    match scalar? unit with
    | some character => (.decoded character, 5)
    | none => (.unpaired (front :: rest.take 5), 5)

/-- The pieces of a text. -/
def pieces (text : Text) : List Piece := Scan.pieces step text

/-- The text with every escape that names a character replaced by it. -/
def decode (text : Text) : Text := (pieces text).flatMap Piece.text

/-- The escapes of unpaired surrogates in a text, in order. -/
def unpaired (text : Text) : List Text :=
  (pieces text).filterMap fun
    | .unpaired escape => some escape
    | _ => none

/-- The escape of one code unit, in lower case. -/
def escapeUnit (unit : Nat) : Text :=
  ['\\', 'u', Nat.digitChar (unit / 4096 % 16), Nat.digitChar (unit / 256 % 16),
    Nat.digitChar (unit / 16 % 16), Nat.digitChar (unit % 16)]

/-- The UTF-16 code units of a character. -/
def codeUnits (character : Char) : List Nat :=
  let code := character.toNat
  if code < 0x10000 then [code]
  else [0xD800 + (code - 0x10000) / 0x400, 0xDC00 + (code - 0x10000) % 0x400]

end UnicodeEscape

end ScriptSanitizer
