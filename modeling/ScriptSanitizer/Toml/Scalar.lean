import ScriptSanitizer.Toml.Basic

/-!
# Scalars of TOML

Strings in their four notations, and the bare words that write truth values, numbers, dates and
times.  A reader takes the text that is left and answers with what it has read and the text
behind it, or with nothing if that is not well-formed.
-/

namespace ScriptSanitizer

namespace Toml

/-- A character that comments and strings may hold. -/
def isPrintable (character : Char) : Bool :=
  character == '\t' || (' ' ≤ character && character != '\x7f')

/-- A blank within a line. -/
def isGap (character : Char) : Bool := character == ' ' || character == '\t'

/-- The character that hexadecimal digits name. -/
def characterOf? (digits : Text) : Option Char :=
  if digits.all isHexDigit then scalar? (digitsValue 16 digits) else none

/-- Read an escape behind its backslash: the character, and how many characters write it. -/
def readEscape : Text → Option (Char × Nat)
  | 'b' :: _ => some ('\x08', 1)
  | 't' :: _ => some ('\t', 1)
  | 'n' :: _ => some ('\n', 1)
  | 'f' :: _ => some ('\x0c', 1)
  | 'r' :: _ => some ('\r', 1)
  | 'e' :: _ => some ('\x1b', 1)
  | '"' :: _ => some ('"', 1)
  | '\\' :: _ => some ('\\', 1)
  | 'x' :: a :: b :: _ => (characterOf? [a, b]).map (·, 3)
  | 'u' :: a :: b :: c :: d :: _ => (characterOf? [a, b, c, d]).map (·, 5)
  | 'U' :: a :: b :: c :: d :: e :: f :: g :: h :: _ =>
    (characterOf? [a, b, c, d, e, f, g, h]).map (·, 9)
  | _ => none

/-- Read a string in quotation marks behind the first one, passing over `skip` characters first. -/
def readBasic : Nat → Text → Option (Text × Text)
  | _, [] => none
  | skip + 1, _ :: rest => readBasic skip rest
  | 0, front :: rest =>
    if front = '"' then some ([], rest)
    else if front = '\\' then do
      let (character, width) ← readEscape rest
      let (characters, rest) ← readBasic width rest
      some (character :: characters, rest)
    else if isPrintable front then do
      let (characters, rest) ← readBasic 0 rest
      some (front :: characters, rest)
    else none

/-- Read a string in apostrophes behind the first one. -/
def readLiteral (text : Text) : Option (Text × Text) :=
  let characters := text.takeWhile fun character => isPrintable character && character != '\''
  match text.drop characters.length with
  | '\'' :: rest => some (characters, rest)
  | _ => none

/-- The quotation marks behind three that close a string, two at most, belong to the string. -/
def surplus (mark : Char) (text : Text) : Text := (text.take 2).takeWhile (· == mark)

/-- How many characters a backslash at the end of a line passes over: the blanks up to the end of
the line, and all blanks and line ends behind it. -/
def lineEscape? (text : Text) : Option Nat :=
  let behind := text.dropWhile isGap
  let atEnd :=
    match behind with
    | '\n' :: _ => true
    | '\r' :: '\n' :: _ => true
    | _ => false
  if atEnd then
    some (text.takeWhile fun character =>
      isGap character || character == '\n' || character == '\r').length
  else none

/-- Read a string of several lines behind its three opening marks, passing over `skip` characters
first.  Escapes count only between quotation marks. -/
def readLines (mark : Char) (escapes : Bool) : Nat → Text → Option (Text × Text)
  | _, [] => none
  | skip + 1, _ :: rest => readLines mark escapes skip rest
  | 0, front :: rest =>
    if front = mark ∧ rest.take 2 = [mark, mark] then
      let marks := surplus mark (rest.drop 2)
      some (marks, rest.drop (2 + marks.length))
    else if front = '\\' ∧ escapes then
      match lineEscape? rest with
      | some width => readLines mark escapes width rest
      | none => do
        let (character, width) ← readEscape rest
        let (characters, rest) ← readLines mark escapes width rest
        some (character :: characters, rest)
    else if isPrintable front ∨ front = '\n' ∨ (front = '\r' ∧ rest.head? = some '\n') then do
      let (characters, rest) ← readLines mark escapes 0 rest
      some (front :: characters, rest)
    else none

/-- The text without a line end in front. -/
def dropLineEnd : Text → Text
  | '\n' :: rest => rest
  | '\r' :: '\n' :: rest => rest
  | text => text

/-- Read a string in any notation. -/
def readString : Text → Option (Text × Text)
  | '"' :: '"' :: '"' :: rest => readLines '"' true 0 (dropLineEnd rest)
  | '\'' :: '\'' :: '\'' :: rest => readLines '\'' false 0 (dropLineEnd rest)
  | '"' :: rest => readBasic 0 rest
  | '\'' :: rest => readLiteral rest
  | _ => none

/-- Digits in which an underscore may stand between two of them, without the underscores. -/
def digitsOf? (isDigit : Char → Bool) (word : Text) : Option Text :=
  let runs := splitAtEach '_' word
  if runs.all fun run => !run.isEmpty && run.all isDigit then some runs.flatten else none

/-- The decimal digits of a whole number, of which only zero itself starts with a zero. -/
def decimal? (word : Text) : Option Text := do
  let digits ← digitsOf? isDecimalDigit word
  if digits.head? = some '0' ∧ digits.length ≠ 1 then none else some digits

/-- A word without its sign, and whether that is a minus. -/
def splitSign : Text → Bool × Text
  | '+' :: word => (false, word)
  | '-' :: word => (true, word)
  | word => (false, word)

/-- A number fits 128 bits, with or without a sign bit. -/
def fitsInteger (number : Int) : Bool :=
  -Int.ofNat (Nat.pow 2 127) ≤ number && number < Int.ofNat (Nat.pow 2 128)

/-- The whole number that a word writes. -/
def integer? (word : Text) : Option Int := do
  let number : Int ←
    match word with
    | '0' :: 'x' :: word =>
      (digitsOf? isHexDigit word).map fun digits => (digitsValue 16 digits : Int)
    | '0' :: 'o' :: word =>
      (digitsOf? (fun digit => '0' ≤ digit && digit ≤ '7') word).map fun digits =>
        (digitsValue 8 digits : Int)
    | '0' :: 'b' :: word =>
      (digitsOf? (fun digit => digit == '0' || digit == '1') word).map fun digits =>
        (digitsValue 2 digits : Int)
    | _ =>
      let (negative, word) := splitSign word
      (decimal? word).map fun digits =>
        if negative then -(digitsValue 10 digits : Int) else (digitsValue 10 digits : Int)
  if fitsInteger number then some number else none

/-- A significand times a power of ten is less than what rounds to infinity. -/
def isFiniteDecimal (significand : Nat) (exponent : Int) : Bool :=
  let bound := Nat.pow 2 1024 - Nat.pow 2 970
  let places := (digitsOf 10 significand).length + exponent
  if significand = 0 ∨ places < 309 then true
  else if 309 < places then false
  else if 0 ≤ exponent then significand * Nat.pow 10 exponent.toNat < bound
  else significand < bound * Nat.pow 10 exponent.natAbs

/-- A word writes a finite number with a fraction or an exponent. -/
def isFiniteFloat (word : Text) : Bool :=
  let whole := word.takeWhile fun character => isDecimalDigit character || character == '_'
  let behind := word.drop whole.length
  let (fraction, scale) : Option Text × Text :=
    match behind with
    | '.' :: rest =>
      let digits := rest.takeWhile fun character => isDecimalDigit character || character == '_'
      (digitsOf? isDecimalDigit digits, rest.drop digits.length)
    | _ => (some [], behind)
  let exponent : Option Int :=
    match scale with
    | [] => if behind.isEmpty then none else some 0
    | mark :: rest =>
      if mark = 'e' ∨ mark = 'E' then
        let (negative, rest) := splitSign rest
        (digitsOf? isDecimalDigit rest).map fun digits =>
          if negative then -(digitsValue 10 digits : Int) else (digitsValue 10 digits : Int)
      else none
  match decimal? whole, fraction, exponent with
  | some whole, some fraction, some exponent =>
    isFiniteDecimal (digitsValue 10 (whole ++ fraction)) (exponent - fraction.length)
  | _, _, _ => false

/-- A word writes a floating-point number. -/
def isFloat (word : Text) : Bool :=
  let (_, word) := splitSign word
  word = "inf".toList || word = "nan".toList || isFiniteFloat word

/-- The number that exactly so many digits write. -/
def fixedNumber? (width : Nat) (digits : Text) : Option Nat :=
  if digits.length = width ∧ digits.all isDecimalDigit then some (digitsValue 10 digits) else none

/-- How many days a month has. -/
def daysIn (year month : Nat) : Nat :=
  if month = 2 then
    if year % 4 = 0 ∧ (year % 100 ≠ 0 ∨ year % 400 = 0) then 29 else 28
  else if month ∈ [4, 6, 9, 11] then 30
  else 31

/-- A word is a date. -/
def isDate (word : Text) : Bool :=
  match (splitAtEach '-' word).map fun part => (part, fixedNumber? part.length part) with
  | [(first, some year), (second, some month), (third, some day)] =>
    first.length = 4 && second.length = 2 && third.length = 2 &&
      1 ≤ month && month ≤ 12 && 1 ≤ day && day ≤ daysIn year month
  | _ => false

/-- A word is a time of day without seconds. -/
def isHourAndMinute (word : Text) : Bool :=
  match (splitAtEach ':' word).map (fixedNumber? 2) with
  | [some hour, some minute] => hour ≤ 23 && minute ≤ 59
  | _ => false

/-- A word is a time of day. -/
def isTime (word : Text) : Bool :=
  let minutes := word.take 5
  let seconds := word.drop 5
  isHourAndMinute minutes &&
    match seconds with
    | [] => true
    | ':' :: rest =>
      (match fixedNumber? 2 (rest.take 2) with
        | some second => second ≤ 60
        | none => false) &&
      match rest.drop 2 with
      | [] => true
      | '.' :: fraction => !fraction.isEmpty && fraction.all isDecimalDigit
      | _ => false
    | _ => false

/-- A word is a time of day, with or without an offset. -/
def isTimeWithOffset (word : Text) : Bool :=
  let time := word.takeWhile fun character => !(character ∈ ['Z', 'z', '+', '-'])
  isTime time &&
    match word.drop time.length with
    | [] => true
    | ['Z'] => true
    | ['z'] => true
    | _ :: offset => isHourAndMinute offset

/-- A word is a date, a time of day, or both. -/
def isMoment (word : Text) : Bool :=
  isTime word || isDate word ||
    (isDate (word.take 10) &&
      match word.drop 10 with
      | mark :: time => mark ∈ ['T', 't', ' '] && isTimeWithOffset time
      | [] => false)

/-- A character of a bare word. -/
def isWordCharacter (character : Char) : Bool :=
  character.isAlphanum || character ∈ ['_', '-', '+', '.', ':']

/-- The bare word that a text starts with.  One blank may stand between a date and a time. -/
def bareWord (text : Text) : Text :=
  let word := text.takeWhile isWordCharacter
  match text.drop word.length with
  | ' ' :: digit :: rest =>
    if isDate word && isDecimalDigit digit then
      word ++ ' ' :: (digit :: rest).takeWhile isWordCharacter
    else word
  | _ => word

/-- Read a scalar that is no string. -/
def readBare (text : Text) : Option (Value × Text) :=
  let word := bareWord text
  let rest := text.drop word.length
  if word = "true".toList then some (.bool true, rest)
  else if word = "false".toList then some (.bool false, rest)
  else
    match integer? word with
    | some number => some (.integer number, rest)
    | none =>
      if isFloat word then some (.float, rest)
      else if isMoment word then some (.moment, rest)
      else none

end Toml

end ScriptSanitizer
