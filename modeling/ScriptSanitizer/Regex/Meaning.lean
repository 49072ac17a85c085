import ScriptSanitizer.Regex.Parser

/-!
# What a written expression means

Flags are resolved from left to right: a change holds to the end of the group it stands in, over
the choices behind it too.  Repetitions are counted out.  Where Unicode is switched off, classes
are those of ASCII, and an expression that could match a single byte of a longer character is
refused.

Main operation: `Regex.ofText?`.
-/

namespace ScriptSanitizer

namespace Regex

/-- The flags in force. -/
structure Flags where
  /-- Case does not matter. -/
  ignoreCase : Bool := false
  /-- The anchors hold at lines. -/
  multiLine : Bool := false
  /-- The dot matches line feeds. -/
  dotAll : Bool := false
  /-- Greedy and reluctant repetitions change places. -/
  swapGreed : Bool := false
  /-- Classes and case are those of the Unicode standard. -/
  unicode : Bool := true
  /-- A carriage return ends a line too. -/
  anyLineEnd : Bool := false
  deriving DecidableEq

namespace Flags

/-- Switch one flag. -/
def set (flags : Flags) : Flag × Bool → Flags
  | (.ignoreCase, value) => { flags with ignoreCase := value }
  | (.multiLine, value) => { flags with multiLine := value }
  | (.dotAll, value) => { flags with dotAll := value }
  | (.swapGreed, value) => { flags with swapGreed := value }
  | (.unicode, value) => { flags with unicode := value }
  | (.anyLineEnd, value) => { flags with anyLineEnd := value }
  | (.ignoreBlanks, _) => flags

/-- Switch several flags. -/
def setAll (flags : Flags) (changes : FlagChanges) : Flags := changes.foldl set flags

/-- A class without regard to case, if the flags say so. -/
def foldCase (flags : Flags) (members : CharClass) : CharClass :=
  if !flags.ignoreCase then members
  else if flags.unicode then .folded members
  else .asciiFolded members

end Flags

/-- A class or its complement. -/
def negateIf (negated : Bool) (members : CharClass) : CharClass :=
  if negated then .complement members else members

/-- The class that a letter abbreviates. -/
def Shorthand.members (unicode : Bool) : Shorthand → CharClass
  | digit => if unicode then .category .decimalNumber else .range '0' '9'
  | blank => if unicode then .blank else .oneOf ['\t', '\n', '\x0b', '\x0c', '\r', ' ']
  | word =>
    if unicode then .word else ranges [('0', '9'), ('A', 'Z'), ('_', '_'), ('a', 'z')]

/-- The class that a bracketed class or one of its members means. -/
def SetTree.members (flags : Flags) : SetTree → Except PatternError CharClass
  | nothing => .ok .none
  | single character _ =>
    if flags.unicode || character.toNat < 0x80 then .ok (.oneOf [character])
    else .error .partOfCharacter
  | span low high =>
    if flags.unicode || high.toNat < 0x80 then .ok (.range low high) else .error .partOfCharacter
  | ascii named negated => .ok (negateIf negated (flags.foldCase named))
  | shorthand name negated => .ok (negateIf negated (name.members flags.unicode))
  | unicode named negated =>
    if flags.unicode then .ok (negateIf negated (flags.foldCase named))
    else .error .partOfCharacter
  | bracketed inner negated => do .ok (negateIf negated (flags.foldCase (← inner.members flags)))
  | union left right => do .ok (.union (← left.members flags) (← right.members flags))
  | intersection left right => do
    .ok (.intersection (flags.foldCase (← left.members flags))
      (flags.foldCase (← right.members flags)))
  | difference left right => do
    .ok (.difference (flags.foldCase (← left.members flags))
      (flags.foldCase (← right.members flags)))
  | symmetricDifference left right => do
    .ok (.symmetricDifference (flags.foldCase (← left.members flags))
      (flags.foldCase (← right.members flags)))

/-- A class of ASCII holds no byte of a longer character. -/
def isAscii (members : CharClass) : Bool :=
  (List.range 128).all fun offset => !members.contains (Char.ofNat (128 + offset))

/-- The condition that an anchor states. -/
def Anchor.condition (flags : Flags) : Anchor → Assertion
  | caret =>
    if !flags.multiLine then .textStart
    else if flags.anyLineEnd then .anyLineStart else .lineStart
  | dollar =>
    if !flags.multiLine then .textEnd
    else if flags.anyLineEnd then .anyLineEnd else .lineEnd
  | textStart => .textStart
  | textEnd => .textEnd
  | wordBoundary => .wordBoundary !flags.unicode
  | noWordBoundary => .noWordBoundary !flags.unicode
  | wordStart => .wordStart !flags.unicode
  | wordEnd => .wordEnd !flags.unicode
  | noWordBefore => .noWordBefore !flags.unicode
  | noWordAfter => .noWordAfter !flags.unicode

/-- The class that a literal means. -/
def literalClass (flags : Flags) (character : Char) : CharClass :=
  if !flags.ignoreCase then .oneOf [character]
  else if flags.unicode then .letter character
  else if character.toNat < 0x80 then .oneOf (asciiCaseVariants character)
  else .oneOf [character]

/-- Optional rounds, each inside the one before. -/
def atMost (body : Regex) (greedy : Bool) : Nat → Regex
  | 0 => empty
  | 1 => optional body greedy
  | rounds + 1 => optional (concat body (atMost body greedy rounds)) greedy

/-- Any number of rounds.  Where a round may read nothing, a first one is set apart from those
behind it, so that the first may give way to what its body prefers less than reading nothing. -/
def unbounded (body : Regex) (greedy : Bool) : Regex :=
  if body.minLength = 0 then optional (concat body (star body greedy)) greedy
  else star body greedy

/-- A repetition, counted out. -/
def repeated (body : Regex) (low : Nat) (high : Option Nat) (greedy : Bool) : Regex :=
  let required := List.replicate low body
  match high with
  | none => if low = 0 then unbounded body greedy else sequence (required ++ [star body greedy])
  | some high =>
    if low < high then sequence (required ++ [atMost body greedy (high - low)])
    else sequence required

/-- What a tree means under the flags in force, and the flags in force behind it.

The alternatives of a choice stay as they are written.  A library that moves what they start with in
common in front of the choice prefers another match where that common part itself matches in
several ways, as in `(?:a?abc|a?b)`. -/
def Tree.meaning (flags : Flags) : Tree → Except PatternError (Regex × Flags)
  | empty => .ok (.empty, flags)
  | .flags changes => .ok (.empty, flags.setAll changes)
  | literal character byte =>
    if byte && !flags.unicode && 0x80 ≤ character.toNat then .error .partOfCharacter
    else .ok (.char (literalClass flags character), flags)
  | dot =>
    if !flags.unicode then .error .partOfCharacter
    else if flags.dotAll then .ok (.char .any, flags)
    else if flags.anyLineEnd then .ok (.char (.complement (.oneOf ['\r', '\n'])), flags)
    else .ok (.char .withinLine, flags)
  | anchor place => .ok (.assertion (place.condition flags), flags)
  | set members => do
    let members ← members.members flags
    if flags.unicode || isAscii members then .ok (.char members, flags)
    else .error .partOfCharacter
  | repetition body low high greedy => do
    let (body, flags) ← body.meaning flags
    .ok (repeated body low high (greedy != flags.swapGreed), flags)
  | group changes body => do
    let (body, _) ← body.meaning (flags.setAll changes)
    .ok (body, flags)
  | sequence first second => do
    let (first, flags) ← first.meaning flags
    let (second, flags) ← second.meaning flags
    .ok (first.followedBy second, flags)
  | choice first second => do
    let (first, flags) ← first.meaning flags
    let (second, flags) ← second.meaning flags
    .ok (.choice first second, flags)

/-- The expression that a text writes, under flags to start with. -/
def ofText? (flags : Flags) (text : Text) : Except PatternError Regex := do
  let tree ← Tree.ofText? text
  let (expression, _) ← tree.meaning flags
  .ok expression

end Regex

end ScriptSanitizer
