import ScriptSanitizer.Regex.Bracketed

/-!
# Reading regular expressions

Groups are kept on a stack while their inside is read, so the reader is a loop that takes at least
one character a turn; the length of the text bounds its turns.

Main operation: `Tree.ofText?`.
-/

namespace ScriptSanitizer

namespace Regex

/-- The flag that a letter names. -/
def flag? : Char → Option Flag
  | 'i' => some .ignoreCase
  | 'm' => some .multiLine
  | 's' => some .dotAll
  | 'U' => some .swapGreed
  | 'u' => some .unicode
  | 'R' => some .anyLineEnd
  | 'x' => some .ignoreBlanks
  | _ => none

/-- The flags up to the character that ends them; `negated` tells that a hyphen was read, and
`dangling` that it was read last. -/
def flagChanges (changes : FlagChanges) (negated dangling : Bool) :
    Text → Except PatternError (FlagChanges × Char × Text)
  | [] => .error .unclosed
  | letter :: rest =>
    if letter = ':' || letter = ')' then
      if dangling then .error .badFlag else .ok (changes, letter, rest)
    else if letter = '-' then
      if negated then .error .badFlag else flagChanges changes true true rest
    else
      match flag? letter with
      | some flag =>
        if changes.any fun change => change.1 == flag then .error .badFlag
        else flagChanges (changes ++ [(flag, !negated)]) negated false rest
      | none => .error .badFlag

/-- A character that the name of a group may hold. -/
def isNameChar (first : Bool) (character : Char) : Bool :=
  let code := character.toNat
  character == '_' || Unicode.Property.alphabetic.contains code ||
    (!first &&
      (character == '.' || character == '[' || character == ']' ||
        Unicode.Category.decimalNumber.contains code ||
        Unicode.Category.letterNumber.contains code || Unicode.Category.otherNumber.contains code))

/-- The name of a group up to its closing angle. -/
def groupName (text : Text) : Except PatternError (Text × Text) :=
  let name := text.takeWhile (· != '>')
  match name, text.drop name.length with
  | first :: others, '>' :: rest =>
    if isNameChar true first && others.all (isNameChar false) then .ok (name, rest)
    else .error .badName
  | _, _ => .error .badName

/-- What is unfinished around the group that is being read. -/
structure Frame where
  /-- The flags that change inside the group. -/
  changes : FlagChanges
  /-- The choices in front of the group, the last one first. -/
  choices : List Tree
  /-- The expressions between them and the group, the last one first. -/
  items : List Tree
  /-- Blanks are passed over behind the group. -/
  blanks : Bool

/-- What has been read. -/
structure Progress where
  /-- The groups that are open, the innermost first. -/
  frames : List Frame
  /-- The finished choices of the innermost group, the last one first. -/
  choices : List Tree
  /-- The expressions of its unfinished choice, the last one first. -/
  items : List Tree
  /-- Blanks are passed over. -/
  blanks : Bool
  /-- The names of the groups so far. -/
  names : List Text

/-- Expressions one after another; the last one is given first. -/
def Tree.ofItems : List Tree → Tree
  | [] => .empty
  | last :: others => others.foldl (fun behind item => .sequence item behind) last

/-- Expressions to choose from; the last one is given first. -/
def Tree.ofChoices (last : Tree) (others : List Tree) : Tree :=
  others.foldl (fun behind item => .choice item behind) last

namespace Progress

/-- The inside of the innermost group. -/
def inside (progress : Progress) : Tree :=
  .ofChoices (.ofItems progress.items) progress.choices

/-- One more expression. -/
def push (progress : Progress) (item : Tree) : Progress :=
  { progress with items := item :: progress.items }

/-- A further choice. -/
def alternate (progress : Progress) : Progress :=
  { progress with choices := .ofItems progress.items :: progress.choices, items := [] }

/-- A group starts. -/
def enter (progress : Progress) (changes : FlagChanges) : Progress :=
  { progress with
    frames := ⟨changes, progress.choices, progress.items, progress.blanks⟩ :: progress.frames
    choices := []
    items := []
    blanks := (changes.lookup .ignoreBlanks).getD progress.blanks }

/-- The innermost group ends. -/
def leave (progress : Progress) : Except PatternError Progress :=
  match progress.frames with
  | [] => .error .unopened
  | frame :: frames =>
    .ok { progress with
      frames
      choices := frame.choices
      items := .group frame.changes progress.inside :: frame.items
      blanks := frame.blanks }

/-- The last expression is repeated. -/
def repetition (progress : Progress) (low : Nat) (high : Option Nat) (greedy : Bool) :
    Except PatternError Progress :=
  match progress.items with
  | [] | .empty :: _ | .flags _ :: _ => .error .nothingToRepeat
  | body :: items =>
    .ok { progress with items := .repetition body low high greedy :: items }

/-- What an opening parenthesis starts: a group, or a change of flags. -/
def openGroup (progress : Progress) (text : Text) : Except PatternError (Progress × Text) := do
  let named (rest : Text) : Except PatternError (Progress × Text) := do
    let (name, rest) ← groupName rest
    if progress.names.contains name then .error .badName
    else .ok ({ progress with names := name :: progress.names }.enter [], rest)
  match skip progress.blanks text with
  | '?' :: '=' :: _ | '?' :: '!' :: _ | '?' :: '<' :: '=' :: _ | '?' :: '<' :: '!' :: _ =>
    .error .unsupported
  | '?' :: 'P' :: '<' :: rest => named rest
  | '?' :: '<' :: rest => named rest
  | '?' :: rest =>
    match ← flagChanges [] false false rest with
    | ([], ')', _) => .error .nothingToRepeat
    | (changes, ')', rest) =>
      .ok ({ progress with
        items := .flags changes :: progress.items
        blanks := (changes.lookup .ignoreBlanks).getD progress.blanks }, rest)
    | (changes, _, rest) => .ok (progress.enter changes, rest)
  | rest => .ok (progress.enter [], rest)

/-- The repetition whose counts are read, and what it says about greed. -/
def repeatBetween (progress : Progress) (low : Nat) (high : Option Nat) (rest : Text) :
    Except PatternError (Progress × Text) := do
  match rest with
  | '?' :: rest => .ok (← progress.repetition low high false, rest)
  | _ => .ok (← progress.repetition low high true, rest)

/-- Read the text to its end. -/
def loop : Nat → Progress → Text → Except PatternError Tree
  | 0, _, _ => .error .unclosed
  | turns + 1, progress, text => do
    match skip progress.blanks text with
    | [] => if progress.frames.isEmpty then .ok progress.inside else .error .unclosed
    | '(' :: rest =>
      let (progress, rest) ← progress.openGroup rest
      loop turns progress rest
    | ')' :: rest => loop turns (← progress.leave) rest
    | '|' :: rest => loop turns progress.alternate rest
    | '[' :: rest =>
      let (members, rest) ← bracketedClass progress.blanks rest
      loop turns (progress.push (.set members)) rest
    | '?' :: rest =>
      let (progress, rest) ← progress.repeatBetween 0 (some 1) rest
      loop turns progress rest
    | '*' :: rest =>
      let (progress, rest) ← progress.repeatBetween 0 none rest
      loop turns progress rest
    | '+' :: rest =>
      let (progress, rest) ← progress.repeatBetween 1 none rest
      loop turns progress rest
    | '{' :: rest =>
      if progress.items.isEmpty then .error .nothingToRepeat
      else
        let ((low, high), rest) ← counts progress.blanks rest
        let (progress, rest) ← progress.repeatBetween low high rest
        loop turns progress rest
    | '\\' :: rest =>
      match ← escape progress.blanks rest with
      | (.literal character byte, rest) =>
        loop turns (progress.push (.literal character byte)) rest
      | (.set members, rest) => loop turns (progress.push (.set members)) rest
      | (.anchor anchor, rest) => loop turns (progress.push (.anchor anchor)) rest
    | '.' :: rest => loop turns (progress.push .dot) rest
    | '^' :: rest => loop turns (progress.push (.anchor .caret)) rest
    | '$' :: rest => loop turns (progress.push (.anchor .dollar)) rest
    | character :: rest => loop turns (progress.push (.literal character false)) rest

end Progress

/-- The tree of a written expression. -/
def Tree.ofText? (text : Text) : Except PatternError Tree := do
  let tree ← Progress.loop (text.length + 1) ⟨[], [], [], false, []⟩ text
  if tree.depth ≤ maximalDepth && tree.weight ≤ maximalWeight then .ok tree else .error .tooLarge

end Regex

end ScriptSanitizer
