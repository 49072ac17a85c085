import ScriptSanitizer.Json.Basic
import ScriptSanitizer.Json.Failure
import ScriptSanitizer.Text.Word
import ScriptSanitizer.UnicodeEscape

/-!
# The lexemes of JSON

Blanks, words, strings and numbers.  A reader takes the text that is left and answers with what it
has read and the text behind it, or with the mishap that stopped it.

A number is read with as many digits of its significand as fit a word; further digits of a whole
part raise the exponent, and further ones of a fraction are dropped.
-/

namespace ScriptSanitizer

namespace Json

/-- White space between lexemes. -/
def isSpace (character : Char) : Bool := character ∈ [' ', '\n', '\t', '\r']

/-- The text behind leading white space. -/
def skipSpace (text : Text) : Text := text.dropWhile isSpace

/-- Read the rest of a word. -/
def readWord : Text → Text → Except Mishap Text
  | [], text => .ok text
  | _ :: _, [] => .error (.before .endInValue [])
  | letter :: letters, front :: rest =>
    if front = letter then readWord letters rest
    else .error (.atFront .expectedWord (front :: rest))

/-- Read the four digits of an escaped code unit. -/
def readUnit (text : Text) : Except Mishap Nat :=
  if Utf8.byteLength (text.take 4) < 4 then .error (.before .endInString [])
  else
    let unit? :=
      match text with
      | a :: b :: c :: d :: _ => UnicodeEscape.codeUnit? a b c d
      | _ => none
    match unit? with
    | some unit => .ok unit
    | none => .error ⟨.invalidEscape, text, 4⟩

/-- Read the second half of a surrogate pair: its code unit. -/
def readLowSurrogate : Text → Except Mishap Nat
  | [] => .error (.before .endInString [])
  | '\\' :: [] => .error (.before .endInString [])
  | '\\' :: 'u' :: rest => do
    let unit ← readUnit rest
    if UnicodeEscape.isLowSurrogate unit then .ok unit
    else .error (.before .loneSurrogate (rest.drop 4))
  | '\\' :: rest => .error (.atFront .unfinishedPair rest)
  | rest => .error (.atFront .unfinishedPair rest)

/-- Read an escape behind its backslash: the character, and how many characters write it. -/
def readEscape : Text → Except Mishap (Char × Nat)
  | [] => .error (.before .endInString [])
  | '"' :: _ => .ok ('"', 1)
  | '\\' :: _ => .ok ('\\', 1)
  | '/' :: _ => .ok ('/', 1)
  | 'b' :: _ => .ok ('\x08', 1)
  | 'f' :: _ => .ok ('\x0c', 1)
  | 'n' :: _ => .ok ('\n', 1)
  | 'r' :: _ => .ok ('\r', 1)
  | 't' :: _ => .ok ('\t', 1)
  | 'u' :: rest => do
    let unit ← readUnit rest
    if UnicodeEscape.isLowSurrogate unit then .error (.before .loneSurrogate (rest.drop 4))
    else if UnicodeEscape.isHighSurrogate unit then
      let second ← readLowSurrogate (rest.drop 4)
      .ok (Char.ofNat (UnicodeEscape.combine unit second), 11)
    else .ok (Char.ofNat unit, 5)
  | rest => .error (.atFront .invalidEscape rest)

/-- Read a string behind its opening quotation mark, passing over `skip` characters first. -/
def readStringFrom : Nat → Text → Except Mishap (Text × Text)
  | _, [] => .error (.before .endInString [])
  | skip + 1, _ :: rest => readStringFrom skip rest
  | 0, front :: rest =>
    if front = '"' then .ok ([], rest)
    else if front = '\\' then do
      let (character, width) ← readEscape rest
      let (characters, rest) ← readStringFrom width rest
      .ok (character :: characters, rest)
    else if front < ' ' then .error (.atFront .controlCharacter (front :: rest))
    else do
      let (characters, rest) ← readStringFrom 0 rest
      .ok (front :: characters, rest)

/-- Read a string behind its opening quotation mark. -/
def readString (text : Text) : Except Mishap (Text × Text) := readStringFrom 0 text

/-- The largest exponent that is not taken for infinite. -/
def maximalExponent : Nat := 2147483647

/-- The number of a sign, a significand and a power of ten, in front of the text behind it. -/
def floatOf (negative : Bool) (significand : Nat) (exponent : Int) (rest : Text) :
    Except Mishap (Number × Text) :=
  match Binary64.ofDecimal? significand exponent with
  | some number => .ok (.float (if negative then number.neg else number), rest)
  | none => .error (.before .numberTooLarge rest)

/-- Read an exponent behind its sign. -/
def readExponent (negative : Bool) (significand : Nat) (exponent : Int) (down : Bool)
    (text : Text) : Except Mishap (Number × Text) :=
  let digits := text.takeWhile isDecimalDigit
  let rest := text.dropWhile isDecimalDigit
  if digits.isEmpty then
    match text with
    | [] => .error (.before .endInValue [])
    | _ => .error (.atFront .invalidNumber text)
  else
    match absorbDigits maximalExponent 0 digits with
    | (power, []) =>
      floatOf negative significand (if down then exponent - power else exponent + power) rest
    | (_, _ :: excess) =>
      if significand ≠ 0 ∧ !down then .error (.before .exponentTooLarge (excess ++ rest))
      else floatOf negative 0 0 rest

/-- Read what may follow the digits of a number: an exponent. -/
def readScale (negative : Bool) (significand : Nat) (exponent : Int) :
    Text → Except Mishap (Number × Text)
  | [] => floatOf negative significand exponent []
  | mark :: rest =>
    if mark = 'e' ∨ mark = 'E' then
      match rest with
      | '+' :: rest => readExponent negative significand exponent false rest
      | '-' :: rest => readExponent negative significand exponent true rest
      | _ => readExponent negative significand exponent false rest
    else floatOf negative significand exponent (mark :: rest)

/-- Read what may follow the point of a number: a fraction, and an exponent. -/
def readFraction (negative : Bool) (significand : Nat) (exponent : Int) (text : Text) :
    Except Mishap (Number × Text) :=
  let digits := text.takeWhile isDecimalDigit
  let rest := text.dropWhile isDecimalDigit
  if digits.isEmpty then
    match text with
    | [] => .error (.before .endInValue [])
    | _ => .error (.atFront .invalidNumber text)
  else
    let (significand, excess) := absorbDigits maximalWord significand digits
    readScale negative significand (exponent - (digits.length - excess.length : Nat)) rest

/-- The largest magnitude of a negative whole number. -/
def maximalNegative : Nat := 9223372036854775808

/-- The number that a sign and digits without a point and an exponent write. -/
def wholeNumber (negative : Bool) (significand : Nat) (rest : Text) :
    Except Mishap (Number × Text) :=
  if !negative then .ok (.integer significand, rest)
  else if significand = 0 ∨ maximalNegative < significand then floatOf true significand 0 rest
  else .ok (.integer (-significand), rest)

/-- Read a number behind its sign. -/
def readNumber (negative : Bool) (text : Text) : Except Mishap (Number × Text) :=
  let digits := text.takeWhile isDecimalDigit
  let rest := text.dropWhile isDecimalDigit
  match digits with
  | [] =>
    match text with
    | [] => .error (.before .endInValue [])
    | _ => .error (.atFront .invalidNumber text)
  | '0' :: _ :: _ => .error (.atFront .invalidNumber (text.drop 1))
  | _ =>
    let (significand, excess) := absorbDigits maximalWord 0 digits
    match rest with
    | '.' :: rest => readFraction negative significand excess.length rest
    | 'e' :: _ => readScale negative significand excess.length rest
    | 'E' :: _ => readScale negative significand excess.length rest
    | _ =>
      if excess.isEmpty then wholeNumber negative significand rest
      else floatOf negative significand excess.length rest

end Json

end ScriptSanitizer
