import ScriptSanitizer.Regex.Basic
import ScriptSanitizer.Text.Utf8

/-!
# Regular expressions as they are written

The tree of a written expression, before flags are resolved and repetitions are counted out.
-/

namespace ScriptSanitizer

/-- Why a written expression is refused. -/
inductive PatternError where
  /-- A group or a class is not closed, or the text ends inside another construct. -/
  | unclosed
  /-- A closing parenthesis without its opening one. -/
  | unopened
  /-- A repetition with nothing to repeat. -/
  | nothingToRepeat
  /-- The count of a repetition is missing, malformed or decreasing. -/
  | badCount
  /-- A flag that is unknown, repeated, or negated without being named. -/
  | badFlag
  /-- A group name that is empty, malformed or used twice. -/
  | badName
  /-- An escape that means nothing. -/
  | badEscape
  /-- A class with an improper member or a decreasing range. -/
  | badClass
  /-- A name that no category, script, edition or property has. -/
  | unknownProperty
  /-- Looking around, and references to earlier groups. -/
  | unsupported
  /-- The expression could match a part of a character. -/
  | partOfCharacter
  /-- The expression is nested too deeply, or too large when repetitions are counted out. -/
  | tooLarge
  deriving DecidableEq

namespace Regex

/-- What a flag changes. -/
inductive Flag where
  /-- Case does not matter. -/
  | ignoreCase
  /-- The anchors hold at lines. -/
  | multiLine
  /-- The dot matches line feeds. -/
  | dotAll
  /-- Greedy and reluctant repetitions change places. -/
  | swapGreed
  /-- Classes and case are those of the Unicode standard. -/
  | unicode
  /-- A carriage return ends a line too. -/
  | anyLineEnd
  /-- White space and comments are passed over. -/
  | ignoreBlanks
  deriving DecidableEq

/-- Flags that are switched on or off. -/
abbrev FlagChanges := List (Flag × Bool)

/-- A class that a letter abbreviates. -/
inductive Shorthand where
  /-- Decimal digits. -/
  | digit
  /-- White space. -/
  | blank
  /-- The characters of words. -/
  | word
  deriving DecidableEq

/-- A bracketed class, or a member of one. -/
inductive SetTree where
  /-- No member. -/
  | nothing
  /-- A character; `byte` marks one that is written as two hexadecimal digits. -/
  | single (character : Char) (byte : Bool)
  /-- The characters between two others. -/
  | span (low high : Char)
  /-- A named class of ASCII. -/
  | ascii (members : CharClass) (negated : Bool)
  /-- A class that a letter abbreviates. -/
  | shorthand (name : Shorthand) (negated : Bool)
  /-- A named class of the Unicode standard. -/
  | unicode (members : CharClass) (negated : Bool)
  /-- A class in brackets. -/
  | bracketed (inner : SetTree) (negated : Bool)
  /-- Both members. -/
  | union (left right : SetTree)
  /-- What two classes share. -/
  | intersection (left right : SetTree)
  /-- What only the first class holds. -/
  | difference (left right : SetTree)
  /-- What exactly one class holds. -/
  | symmetricDifference (left right : SetTree)

/-- An anchor as it is written. -/
inductive Anchor where
  /-- The caret. -/
  | caret
  /-- The dollar sign. -/
  | dollar
  /-- The start of the text. -/
  | textStart
  /-- The end of the text. -/
  | textEnd
  /-- A word starts or ends. -/
  | wordBoundary
  /-- No word starts or ends. -/
  | noWordBoundary
  /-- A word starts. -/
  | wordStart
  /-- A word ends. -/
  | wordEnd
  /-- No character of a word is in front. -/
  | noWordBefore
  /-- No character of a word follows. -/
  | noWordAfter
  deriving DecidableEq

/-- A written expression. -/
inductive Tree where
  /-- Nothing. -/
  | empty
  /-- A change of flags for the rest of the group. -/
  | flags (changes : FlagChanges)
  /-- A character; `byte` marks one that is written as two hexadecimal digits. -/
  | literal (character : Char) (byte : Bool)
  /-- The dot. -/
  | dot
  /-- An anchor. -/
  | anchor (anchor : Anchor)
  /-- A class. -/
  | set (members : SetTree)
  /-- A repetition between two counts. -/
  | repetition (body : Tree) (low : Nat) (high : Option Nat) (greedy : Bool)
  /-- A group and the flags that change inside it. -/
  | group (changes : FlagChanges) (body : Tree)
  /-- One expression and then another. -/
  | sequence (first second : Tree)
  /-- One expression or another. -/
  | choice (first second : Tree)

namespace SetTree

/-- How deeply brackets are nested. -/
def depth : SetTree → Nat
  | bracketed inner _ => inner.depth + 1
  | union left right => max left.depth right.depth
  | intersection left right => max left.depth right.depth + 1
  | difference left right => max left.depth right.depth + 1
  | symmetricDifference left right => max left.depth right.depth + 1
  | _ => 0

/-- An estimate of the bytes that the automaton for a class takes: 40 for every byte that a state
reads, and a round number for a class of the standard. -/
def weight : SetTree → Nat
  | nothing => 0
  | single character _ => 40 * character.utf8Size
  | span low high => 40 * low.utf8Size + 40 * high.utf8Size
  | ascii .. => 100
  | shorthand .digit _ => 5000
  | shorthand .blank _ => 1000
  | shorthand .word _ => 50000
  | unicode .. => 10000
  | bracketed inner _ => inner.weight + 200
  | union left right => left.weight + right.weight
  | intersection left right => left.weight + right.weight
  | difference left right => left.weight + right.weight
  | symmetricDifference left right => left.weight + right.weight

end SetTree

namespace Tree

/-- How deeply constructs are nested; a run of expressions is one construct. -/
def depth : Tree → Nat
  | set members => members.depth
  | repetition body .. => body.depth + 1
  | group _ body => body.depth + 1
  | sequence first second =>
    match second with
    | sequence .. => max (first.depth + 1) second.depth
    | _ => max first.depth second.depth + 1
  | choice first second =>
    match second with
    | choice .. => max (first.depth + 1) second.depth
    | _ => max first.depth second.depth + 1
  | _ => 0

/-- The deepest nesting that is accepted. -/
def maximalDepth : Nat := 250

/-- An estimate of the bytes that the automaton for an expression takes, repetitions counted out.

A library measures the automaton that it has built.  Close to the limit the two may disagree, so a
statement that is to hold for all expressions of a library is made for any `Compiler`. -/
def weight : Tree → Nat
  | empty => 40
  | flags _ => 40
  | literal character _ => 40 * character.utf8Size
  | dot => 500
  | anchor _ => 40
  | set members => members.weight
  | repetition body low high _ => (body.weight + 40) * max 1 (high.getD low)
  | group _ body => body.weight + 40
  | sequence first second => first.weight + second.weight
  | choice first second => first.weight + second.weight + 40

/-- The largest automaton that is accepted, in bytes. -/
def maximalWeight : Nat := 10 * 1024 * 1024

end Tree

end Regex

end ScriptSanitizer
