import ScriptSanitizer.Text.Basic

/-!
# White space

The characters with the Unicode property White_Space, and trimming by them.
-/

namespace ScriptSanitizer

/-- A character with the property White_Space. -/
def isBlank (character : Char) : Bool :=
  let code := character.toNat
  (9 ≤ code && code ≤ 13) || code == 0x20 || code == 0x85 || code == 0xA0 || code == 0x1680 ||
    (0x2000 ≤ code && code ≤ 0x200A) || code == 0x2028 || code == 0x2029 || code == 0x202F ||
    code == 0x205F || code == 0x3000

/-- The text without the white space in front of it. -/
def trimStart (text : Text) : Text := text.dropWhile isBlank

/-- The text without the white space around it. -/
def trim (text : Text) : Text := (trimStart (trimStart text).reverse).reverse

end ScriptSanitizer
