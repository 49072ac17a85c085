import ScriptSanitizer.Base64.Codec
import ScriptSanitizer.Text.Blank
import ScriptSanitizer.Text.Scan
import ScriptSanitizer.Text.Utf8

/-!
# Inline base64 blocks

A block is the word `base64`, a comma, and a payload of base64 symbols.  The word is read in any
case, where the long s counts as an s; white space may stand around the comma.  Before any symbol
of the payload spaces and written-out escapes of white space may stand.  The payload is as many
groups of four symbols as follow, and one padded group if it follows them.
-/

namespace ScriptSanitizer

namespace Base64

/-- A character that writes `letter` when case does not matter. -/
def writesLetter (letter character : Char) : Bool :=
  character.toLower == letter || (letter == 's' && character == 'ſ')

/-- A character that the payload takes for a symbol: the alphabet, and the two characters outside
ASCII that differ from a letter only in case, the long s and the Kelvin sign. -/
def isSymbol (character : Char) : Bool :=
  character.isAlphanum || character == '+' || character == '/' || character == 'ſ' ||
    character == '\u212A'

/-- The letter of an escape that stands for white space. -/
def isBlankEscape (character : Char) : Bool :=
  character ∈ ['f', 'r', 'n', 't', 'F', 'R', 'N', 'T']

/-- The symbols that a text starts with, each with the blanks in front of it, and the text behind
them; `blanks` are those in front of the text. -/
def symbolsFrom (blanks : Text) : Text → List Text × Text
  | ' ' :: rest => symbolsFrom (blanks ++ [' ']) rest
  | '\\' :: letter :: rest =>
    if isBlankEscape letter then symbolsFrom (blanks ++ ['\\', letter]) rest
    else ([], blanks ++ '\\' :: letter :: rest)
  | character :: rest =>
    if isSymbol character then
      let following := symbolsFrom [] rest
      ((blanks ++ [character]) :: following.1, following.2)
    else ([], blanks ++ character :: rest)
  | [] => ([], blanks)

/-- The payload that a text starts with. -/
def leadingPayload (text : Text) : Text :=
  let (symbols, rest) := symbolsFrom [] text
  match symbols.length % 4, rest with
  | 2, '=' :: '=' :: _ => symbols.flatten ++ ['=', '=']
  | 3, '=' :: _ => symbols.flatten ++ ['=']
  | _, _ => (symbols.take (symbols.length / 4 * 4)).flatten

/-- The marker that a text starts with: the word, the comma and the white space around it. -/
def leadingMarker? (text : Text) : Option Text :=
  let word := text.take 6
  let rest := text.drop 6
  if word.length = 6 && (List.zipWith writesLetter ['b', 'a', 's', 'e', '6', '4'] word).all id then
    let before := rest.takeWhile isBlank
    match rest.drop before.length with
    | ',' :: tail => some (word ++ before ++ ',' :: tail.takeWhile isBlank)
    | _ => none
  else none

/-- An inline block. -/
structure Block where
  /-- The word, the comma and the white space around it. -/
  marker : Text
  /-- The symbols with the blanks between them, and the padding. -/
  payload : Text
  deriving DecidableEq

/-- The block as it stands in the text. -/
def Block.text (block : Block) : Text := block.marker ++ block.payload

/-- The block that a text starts with. -/
def leadingBlock? (text : Text) : Option Block :=
  (leadingMarker? text).map fun marker =>
    ⟨marker, leadingPayload (text.drop marker.length)⟩

/-- A stretch of text. -/
inductive Piece where
  /-- A character outside every block. -/
  | plain (character : Char)
  /-- A block. -/
  | block (block : Block)
  deriving DecidableEq

/-- The piece in front of a text, and how many characters behind the first belong to it. -/
def step (front : Char) (rest : Text) : Piece × Nat :=
  match leadingBlock? (front :: rest) with
  | some block => (.block block, block.text.length - 1)
  | none => (.plain front, 0)

/-- The pieces of a text. -/
def pieces (text : Text) : List Piece := Scan.pieces step text

/-- The payloads of the blocks of a text. -/
def payloads (text : Text) : List Text :=
  (pieces text).filterMap fun
    | .block block => some block.payload
    | .plain _ => none

/-- The payload without its blanks.  Only escapes in lower case are blanks here. -/
def compact : Text → Text
  | '\\' :: letter :: rest =>
    if letter ∈ ['f', 'r', 'n', 't'] then compact rest else '\\' :: compact (letter :: rest)
  | character :: rest => if character = ' ' then compact rest else character :: compact rest
  | [] => []

/-- The text that a payload hides; bytes that are not UTF-8 show as U+FFFD. -/
def decodePayload (payload : Text) : Except DecodeError Text :=
  (decode (Utf8.encode (compact payload))).map Utf8.decodeLossy

/-- The padded base64 of a text, as characters. -/
def encodeText (text : Text) : Text :=
  (encode (Utf8.encode text)).map fun byte => Char.ofNat byte.toNat

end Base64

end ScriptSanitizer
