import ScriptSanitizer.Text.Blank
import ScriptSanitizer.Unicode.Age
import ScriptSanitizer.Unicode.CaseFold
import ScriptSanitizer.Unicode.Script
import ScriptSanitizer.Unicode.Segmentation

/-!
# Character classes

A class is kept in the terms in which it is written: ranges, named sets of the Unicode standard,
and their combinations.  Classes are compared as they are written, and membership of a character
is computed from them, with the tables of the edition 16.0.
-/

namespace ScriptSanitizer

/-- The characters that differ from the given one at most in case, the folded one first. -/
def caseVariants (character : Char) : List Char :=
  (Unicode.caseVariants character.toNat).filterMap scalar?

/-- The letters of ASCII that differ from the given character at most in case, or the character
itself. -/
def asciiCaseVariants (character : Char) : List Char :=
  [character.toLower, character.toUpper]

/-- A character that words consist of: letters, marks, decimal digits, connector punctuation,
letterlike numbers, enclosed letters and the joiners. -/
def isWordChar (character : Char) : Bool :=
  if character.toNat < 0x80 then character.isAlphanum || character == '_'
  else
    let code := character.toNat
    Unicode.Property.alphabetic.contains code || Unicode.Category.nonspacingMark.contains code ||
      Unicode.Category.spacingMark.contains code || Unicode.Category.enclosingMark.contains code ||
      Unicode.Category.decimalNumber.contains code ||
      Unicode.Category.connectorPunctuation.contains code ||
      Unicode.Property.joinControl.contains code

/-- A set of characters. -/
inductive CharClass where
  /-- Every character. -/
  | any
  /-- The characters of a list. -/
  | oneOf (characters : List Char)
  /-- The characters between two others, both included. -/
  | range (low high : Char)
  /-- White space. -/
  | blank
  /-- The characters of words. -/
  | word
  /-- The characters of a general category. -/
  | category (members : Unicode.Category)
  /-- The characters with a property. -/
  | property (members : Unicode.Property)
  /-- The characters of a script. -/
  | script (members : Unicode.Script)
  /-- The characters whose script extensions name a script. -/
  | scriptExtension (members : Unicode.Script)
  /-- The characters with a part in the division into grapheme clusters. -/
  | graphemeBreak (members : Unicode.GraphemeBreak)
  /-- The characters with a part in the division into words. -/
  | wordBreak (members : Unicode.WordBreak)
  /-- The characters with a part in the division into sentences. -/
  | sentenceBreak (members : Unicode.SentenceBreak)
  /-- The characters that an edition of the standard assigns. -/
  | assignedBy (edition : Unicode.Edition)
  /-- The characters of one class or the other. -/
  | union (left right : CharClass)
  /-- The characters of both classes. -/
  | intersection (left right : CharClass)
  /-- The characters outside a class. -/
  | complement (inner : CharClass)
  /-- The characters that differ from one of the class at most in case. -/
  | folded (inner : CharClass)
  /-- The same with the letters of ASCII only. -/
  | asciiFolded (inner : CharClass)
  deriving DecidableEq

namespace CharClass

/-- The class without any character. -/
def none : CharClass := oneOf []

/-- The characters of the first class that are not in the second. -/
def difference (left right : CharClass) : CharClass := intersection left (complement right)

/-- The characters of exactly one of two classes. -/
def symmetricDifference (left right : CharClass) : CharClass :=
  union (difference left right) (difference right left)

/-- The class holds the character. -/
def contains : CharClass → Char → Bool
  | any, _ => true
  | oneOf characters, character => characters.contains character
  | range low high, character => low ≤ character && character ≤ high
  | blank, character => isBlank character
  | word, character => isWordChar character
  | category members, character => members.contains character.toNat
  | property members, character => members.contains character.toNat
  | script members, character => members.contains character.toNat
  | scriptExtension members, character => members.extendsTo character.toNat
  | graphemeBreak members, character => members.contains character.toNat
  | wordBreak members, character => members.contains character.toNat
  | sentenceBreak members, character => members.contains character.toNat
  | assignedBy edition, character => edition.contains character.toNat
  | union left right, character => left.contains character || right.contains character
  | intersection left right, character => left.contains character && right.contains character
  | complement inner, character => !inner.contains character
  | folded inner, character => (caseVariants character).any inner.contains
  | asciiFolded inner, character =>
    inner.contains character || (asciiCaseVariants character).any inner.contains

/-- The class of the characters that differ from the given one at most in case. -/
def letter (character : Char) : CharClass := oneOf (caseVariants character)

/-- Every character but the line feed. -/
def withinLine : CharClass := complement (oneOf ['\n'])

/-- The union of general categories. -/
def categories (members : List Unicode.Category) : CharClass :=
  members.foldr (fun member others => union (category member) others) none

end CharClass

end ScriptSanitizer
