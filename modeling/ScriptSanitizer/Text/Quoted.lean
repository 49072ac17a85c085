import ScriptSanitizer.Text.Basic
import ScriptSanitizer.Unicode.Property

/-!
# Quoted texts

How reports show a text: in quotation marks, with an escape for every character that a reader
could not tell by sight.
-/

namespace ScriptSanitizer

namespace Quoted

/-- The categories of characters that leave no mark of their own. -/
def invisibleCategories : List Unicode.Category :=
  [.control, .format, .privateUse, .unassigned, .lineSeparator, .paragraphSeparator,
    .spaceSeparator]

/-- The character cannot be told by sight: it leaves no mark, or it joins the one in front. -/
def isInvisible (character : Char) : Bool :=
  let code := character.toNat
  (character != ' ' && invisibleCategories.any fun category => category.contains code) ||
    Unicode.Property.graphemeExtend.contains code

/-- The spelling of a character. -/
def encodeChar (character : Char) : Text :=
  match character with
  | '\x00' => ['\\', '0']
  | '\t' => ['\\', 't']
  | '\r' => ['\\', 'r']
  | '\n' => ['\\', 'n']
  | '\\' => ['\\', '\\']
  | '"' => ['\\', '"']
  | _ =>
    if isInvisible character then
      ['\\', 'u', '\x7b'] ++ digitsOf 16 character.toNat ++ ['\x7d']
    else [character]

/-- A text in quotation marks. -/
def encode (text : Text) : Text := '"' :: text.flatMap encodeChar ++ ['"']

end Quoted

end ScriptSanitizer
