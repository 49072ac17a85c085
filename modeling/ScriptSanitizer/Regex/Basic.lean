import ScriptSanitizer.Finder
import ScriptSanitizer.Regex.CharClass

/-!
# Regular expressions

An expression matches from the left and prefers: the first of two choices, more rounds of a greedy
repetition, fewer of a reluctant one.  The preferred match is found by following, in order of
preference, what remains to be matched after each character.  At one place of the text each
remainder is followed once, when it is met first.  So the work at every character is bounded by the
expression, and a round that has read nothing when it comes back to its repetition is given up,
while what the round could do otherwise is tried next.

Main operations: `leadingMatch?` gives the length of the preferred match at the front of a text, and
`finder` is the finder of these matches.
-/

namespace ScriptSanitizer

/-- A condition on the place between two characters. -/
inductive Assertion where
  /-- Nothing is in front. -/
  | textStart
  /-- Nothing follows. -/
  | textEnd
  /-- Nothing or a line feed is in front. -/
  | lineStart
  /-- Nothing or a line feed follows. -/
  | lineEnd
  /-- A line starts, where a carriage return with a line feed ends a line as either of them does. -/
  | anyLineStart
  /-- A line ends, where a carriage return with a line feed ends a line as either of them does. -/
  | anyLineEnd
  /-- A word starts or ends. -/
  | wordBoundary (ascii : Bool)
  /-- No word starts or ends. -/
  | noWordBoundary (ascii : Bool)
  /-- A word starts. -/
  | wordStart (ascii : Bool)
  /-- A word ends. -/
  | wordEnd (ascii : Bool)
  /-- No character of a word is in front. -/
  | noWordBefore (ascii : Bool)
  /-- No character of a word follows. -/
  | noWordAfter (ascii : Bool)
  deriving DecidableEq

namespace Assertion

/-- There is a character of a word. -/
def isWord (ascii : Bool) (neighbour : Option Char) : Bool :=
  neighbour.any fun character =>
    isWordChar character && (!ascii || character.toNat < 0x80)

/-- The condition holds between two neighbours. -/
def holds (before after : Option Char) : Assertion → Bool
  | textStart => before.isNone
  | textEnd => after.isNone
  | lineStart => before.isNone || before == some '\n'
  | lineEnd => after.isNone || after == some '\n'
  | anyLineStart =>
    before.isNone || before == some '\n' || (before == some '\r' && after != some '\n')
  | anyLineEnd =>
    after.isNone || after == some '\r' || (after == some '\n' && before != some '\r')
  | wordBoundary ascii => isWord ascii before != isWord ascii after
  | noWordBoundary ascii => isWord ascii before == isWord ascii after
  | wordStart ascii => !isWord ascii before && isWord ascii after
  | wordEnd ascii => isWord ascii before && !isWord ascii after
  | noWordBefore ascii => !isWord ascii before
  | noWordAfter ascii => !isWord ascii after

end Assertion

/-- A regular expression. -/
inductive Regex where
  /-- Matches the empty text. -/
  | empty
  /-- Matches the empty text where a condition holds. -/
  | assertion (condition : Assertion)
  /-- Matches one character of a class. -/
  | char (allowed : CharClass)
  /-- Matches one expression and then the other. -/
  | concat (first second : Regex)
  /-- Matches either expression and prefers the first. -/
  | choice (first second : Regex)
  /-- Matches any number of rounds and prefers more of them if it is greedy. -/
  | star (body : Regex) (greedy : Bool)
  deriving DecidableEq

namespace Regex

/-- A number of characters that every match of an expression reads at least. -/
def minLength : Regex → Nat
  | empty => 0
  | assertion _ => 0
  | char _ => 1
  | concat first second => first.minLength + second.minLength
  | choice first second => min first.minLength second.minLength
  | star _ _ => 0

/-- What remains to be matched. -/
inductive Remainder where
  /-- Nothing remains. -/
  | done
  /-- An expression remains, and then more. -/
  | next (expression : Regex) (behind : Remainder)
  /-- The same remains as behind the first of two choices, but the second one was taken. -/
  | second (behind : Remainder)
  deriving DecidableEq

/-- A way to go on with a match. -/
inductive Move where
  /-- The match can end here. -/
  | accept
  /-- A character of the class can be read, and then the rest remains. -/
  | read (allowed : CharClass) (remaining : Remainder)
  deriving DecidableEq

/-- What was found at one place of the text. -/
structure Search where
  /-- The remainders that were met, the last one first. -/
  met : List Remainder := []
  /-- The moves that they offer, in order of preference. -/
  moves : List Move := []

namespace Search

/-- Follow a remainder if it is met for the first time. -/
def visit (remaining : Remainder) (follow : Search → Search) (search : Search) : Search :=
  if search.met.contains remaining then search
  else follow { search with met := remaining :: search.met }

/-- Offer a move, less preferred than those before. -/
def offer (move : Move) (search : Search) : Search :=
  { search with moves := search.moves ++ [move] }

end Search

/-- Follow an expression between two neighbouring characters, given what remains behind it and how
that is followed.  A round of a repetition comes back to a remainder that was met, so nothing
follows it. -/
def follow (before after : Option Char) :
    Regex → (behind : Remainder) → (followBehind : Search → Search) → Search → Search
  | empty, behind, followBehind => Search.visit (.next empty behind) followBehind
  | assertion condition, behind, followBehind =>
    Search.visit (.next (assertion condition) behind)
      (if condition.holds before after then followBehind else id)
  | char allowed, behind, _ =>
    Search.visit (.next (char allowed) behind) (Search.offer (.read allowed behind))
  | concat first second, behind, followBehind =>
    Search.visit (.next (concat first second) behind)
      (first.follow before after (.next second behind)
        (second.follow before after behind followBehind))
  | choice first second, behind, followBehind =>
    Search.visit (.next (choice first second) behind) fun search =>
      second.follow before after (.second behind) (Search.visit (.second behind) followBehind)
        (first.follow before after behind followBehind search)
  | star body greedy, behind, followBehind =>
    Search.visit (.next (star body greedy) behind) fun search =>
      let followRound := body.follow before after (.next (star body greedy) behind) id
      if greedy then followBehind (followRound search) else followRound (followBehind search)

/-- Follow what remains between two neighbouring characters. -/
def Remainder.follow (before after : Option Char) : Remainder → Search → Search
  | done => Search.visit done (Search.offer .accept)
  | next expression behind =>
    expression.follow before after behind (behind.follow before after)
  | second behind => Search.visit (second behind) (behind.follow before after)

/-- The moves of several remainders, those of the first preferred. -/
def moves (before after : Option Char) (remainders : List Remainder) : List Move :=
  let search := remainders.foldl
    (fun search remaining => Remainder.follow before after remaining search) {}
  search.moves

/-- The moves that count: those preferred to the end of the match, and whether it can end. -/
def Move.untilAccept : List Move → List (CharClass × Remainder) × Bool
  | [] => ([], false)
  | .accept :: _ => ([], true)
  | .read allowed remaining :: others =>
    let (reads, accepts) := Move.untilAccept others
    ((allowed, remaining) :: reads, accepts)

/-- What remains after a character, in order of preference. -/
def remaindersAfter (reads : List (CharClass × Remainder)) (character : Char) : List Remainder :=
  (reads.filter fun read => read.1.contains character).map fun read => read.2

/-- The length of the preferred match of some remainders at the front of a text, given the
character in front of the text, the number of characters already matched, and the length of the
best match that ends there or before. -/
def longestPreferred (before : Option Char) (remainders : List Remainder) (matched : Nat)
    (best : Option Nat) : Text → Option Nat
  | [] =>
    let (_, accepts) := Move.untilAccept (moves before none remainders)
    if accepts then some matched else best
  | character :: rest =>
    let (reads, accepts) := Move.untilAccept (moves before (some character) remainders)
    let best := if accepts then some matched else best
    match remaindersAfter reads character with
    | [] => best
    | remaining => longestPreferred (some character) remaining (matched + 1) best rest

/-- The length of the preferred match at the front of a text, given the character in front of the
text. -/
def leadingMatch? (expression : Regex) (before : Option Char) (text : Text) : Option Nat :=
  longestPreferred before [.next expression .done] 0 none text

theorem longestPreferred_le {before : Option Char} {remainders : List Remainder} {matched : Nat}
    {best : Option Nat} {text : Text} {length : Nat} (best_le : ∀ earlier ∈ best, earlier ≤ matched)
    (found : longestPreferred before remainders matched best text = some length) :
    length ≤ matched + text.length := by
  induction text generalizing before remainders matched best with
  | nil =>
      simp only [longestPreferred] at found
      split at found
      · exact Nat.le_of_eq (Option.some.inj found).symm
      · exact best_le length found
  | cons character rest ih =>
      have chosen_le (accepts : Bool) :
          ∀ earlier ∈ if accepts then some matched else best, earlier ≤ matched := by
        intro earlier chosen
        split at chosen
        · exact Nat.le_of_eq (Option.some.inj chosen).symm
        · exact best_le earlier chosen
      rw [List.length_cons]
      simp only [longestPreferred] at found
      split at found
      · exact Nat.le_add_right_of_le (chosen_le _ length found)
      · have behind :=
          ih (fun earlier chosen => Nat.le_succ_of_le (chosen_le _ earlier chosen)) found
        omega

/-- The finder of the preferred matches. -/
def finder (expression : Regex) : Finder where
  leadingMatch? := expression.leadingMatch?
  within found := by
    have bound := longestPreferred_le
      (fun earlier member => absurd member (Option.not_mem_none earlier)) found
    rwa [Nat.zero_add] at bound

/-- There is a match in the text. -/
def occursIn (expression : Regex) (text : Text) : Bool := expression.finder.occursIn text

/-- One expression and then another. -/
def followedBy : Regex → Regex → Regex
  | empty, next => next
  | first, next => concat first next

/-- An optional expression. -/
def optional (body : Regex) (greedy : Bool) : Regex :=
  if greedy then choice body empty else choice empty body

/-- One expression after another. -/
def sequence : List Regex → Regex
  | [] => empty
  | [expression] => expression
  | expression :: others => concat expression (sequence others)

/-- One of several expressions, the first preferred. -/
def oneOf : List Regex → Regex
  | [] => char CharClass.none
  | [expression] => expression
  | expression :: others => choice expression (oneOf others)

/-- A text, in any case. -/
def text (letters : Text) : Regex := sequence (letters.map fun letter => char (.letter letter))

end Regex

end ScriptSanitizer
