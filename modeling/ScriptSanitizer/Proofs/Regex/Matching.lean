import ScriptSanitizer.Regex.Basic

/-!
# What a regular expression matches

The relation `Regex.Matches` says when an expression matches a stretch of text between what stands
in front of it and what follows, without a word about preference.  The moves of an expression lead
through its matches character by character, so that the match the engine prefers is one of them,
and the engine finds a match wherever there is one.
-/

namespace ScriptSanitizer

theorem lastOf_append (before : Option Char) (front back : Text) :
    lastOf before (front ++ back) = lastOf (lastOf before front) back := by
  induction front generalizing before with
  | nil => rfl
  | cons character front ih => exact ih (some character)

namespace Regex

/-- An expression matches a stretch of text, with `before` in front of it and `after` behind. -/
inductive Matches : Regex → (before : Option Char) → (stretch after : Text) → Prop where
  | empty {before : Option Char} {after : Text} : Matches empty before [] after
  | assertion {condition : Assertion} {before : Option Char} {after : Text}
      (holds : condition.holds before after.head? = true) :
      Matches (assertion condition) before [] after
  | char {allowed : CharClass} {character : Char} {before : Option Char} {after : Text}
      (admitted : allowed.contains character = true) :
      Matches (char allowed) before [character] after
  | concat {first second : Regex} {before : Option Char} {left right after : Text}
      (matchesFirst : Matches first before left (right ++ after))
      (matchesSecond : Matches second (lastOf before left) right after) :
      Matches (concat first second) before (left ++ right) after
  | choiceFirst {first second : Regex} {before : Option Char} {stretch after : Text}
      (matchesFirst : Matches first before stretch after) :
      Matches (choice first second) before stretch after
  | choiceSecond {first second : Regex} {before : Option Char} {stretch after : Text}
      (matchesSecond : Matches second before stretch after) :
      Matches (choice first second) before stretch after
  | starNone {body : Regex} {greedy : Bool} {before : Option Char} {after : Text} :
      Matches (star body greedy) before [] after
  | starRound {body : Regex} {greedy : Bool} {before : Option Char} {left right after : Text}
      (matchesBody : Matches body before left (right ++ after))
      (matchesRounds : Matches (star body greedy) (lastOf before left) right after) :
      Matches (star body greedy) before (left ++ right) after

/-! ## The least length of a match -/

theorem minLength_le_of_matches {expression : Regex} {before : Option Char} {stretch after : Text}
    (found : Matches expression before stretch after) :
    expression.minLength ≤ stretch.length := by
  induction found with
  | empty => exact Nat.zero_le _
  | assertion => exact Nat.zero_le _
  | char => exact Nat.le_refl _
  | concat _ _ firstBound secondBound =>
      rw [List.length_append]
      exact Nat.add_le_add firstBound secondBound
  | choiceFirst _ bound => exact Nat.le_trans (Nat.min_le_left _ _) bound
  | choiceSecond _ bound => exact Nat.le_trans (Nat.min_le_right _ _) bound
  | starNone => exact Nat.zero_le _
  | starRound => exact Nat.zero_le _

/-- What remains matches a stretch of text, one expression after another. -/
def Remainder.Matches : Remainder → (before : Option Char) → (stretch after : Text) → Prop
  | done, _, stretch, _ => stretch = []
  | next expression behind, before, stretch, after =>
    ∃ left right, stretch = left ++ right ∧ expression.Matches before left (right ++ after) ∧
      behind.Matches (lastOf before left) right after
  | second behind, before, stretch, after => behind.Matches before stretch after

/-! ## Moves that are offered -/

/-- What remains offers a move between two neighbouring characters, in some order of preference. -/
inductive Offers (before after : Option Char) : Remainder → Move → Prop where
  | done : Offers before after .done .accept
  | second {behind : Remainder} {move : Move} (offers : Offers before after behind move) :
      Offers before after (.second behind) move
  | empty {behind : Remainder} {move : Move} (offers : Offers before after behind move) :
      Offers before after (.next empty behind) move
  | assertion {condition : Assertion} {behind : Remainder} {move : Move}
      (holds : condition.holds before after = true) (offers : Offers before after behind move) :
      Offers before after (.next (assertion condition) behind) move
  | char {allowed : CharClass} {behind : Remainder} :
      Offers before after (.next (char allowed) behind) (.read allowed behind)
  | concat {first second : Regex} {behind : Remainder} {move : Move}
      (offers : Offers before after (.next first (.next second behind)) move) :
      Offers before after (.next (concat first second) behind) move
  | choiceFirst {first second : Regex} {behind : Remainder} {move : Move}
      (offers : Offers before after (.next first behind) move) :
      Offers before after (.next (choice first second) behind) move
  | choiceSecond {first second : Regex} {behind : Remainder} {move : Move}
      (offers : Offers before after (.next second (.second behind)) move) :
      Offers before after (.next (choice first second) behind) move
  | starNone {body : Regex} {greedy : Bool} {behind : Remainder} {move : Move}
      (offers : Offers before after behind move) :
      Offers before after (.next (star body greedy) behind) move
  | starRound {body : Regex} {greedy : Bool} {behind : Remainder} {move : Move}
      (offers : Offers before after (.next body (.next (star body greedy) behind)) move) :
      Offers before after (.next (star body greedy) behind) move

/-- A move leads through a stretch of text: it ends the match in front of nothing, or it reads the
first character, and what remains matches the others. -/
def Move.Matches : Move → (stretch after : Text) → Prop
  | accept, stretch, _ => stretch = []
  | read allowed remaining, stretch, after =>
    ∃ character rest, stretch = character :: rest ∧ allowed.contains character = true ∧
      remaining.Matches (some character) rest after

/-- What remains can go through a stretch of text by one of the moves that it offers in front
of it. -/
def Remainder.Advances (remaining : Remainder) (before : Option Char) (stretch after : Text) :
    Prop :=
  ∃ move, Offers before (stretch ++ after).head? remaining move ∧ move.Matches stretch after

/-- A match of two expressions, one behind the other, and of what remains behind them. -/
theorem Remainder.exists_parts {first second : Regex} {behind : Remainder} {before : Option Char}
    {stretch after : Text}
    (found : (next first (next second behind)).Matches before stretch after) :
    ∃ left middle right, stretch = left ++ middle ++ right ∧
      Regex.Matches first before left (middle ++ (right ++ after)) ∧
      Regex.Matches second (lastOf before left) middle (right ++ after) ∧
      behind.Matches (lastOf before (left ++ middle)) right after := by
  obtain ⟨left, _, rfl, matchesFirst, middle, right, rfl, matchesSecond, matchesBehind⟩ := found
  rw [List.append_assoc] at matchesFirst
  rw [← lastOf_append] at matchesBehind
  exact ⟨left, middle, right, (List.append_assoc left middle right).symm, matchesFirst,
    matchesSecond, matchesBehind⟩

/-- A move that is offered, and that leads through a stretch, is the front of a match. -/
theorem Offers.matches {before : Option Char} {stretch after : Text} {remaining : Remainder}
    {move : Move} (offers : Offers before (stretch ++ after).head? remaining move)
    (leads : move.Matches stretch after) : remaining.Matches before stretch after := by
  induction offers with
  | done => exact leads
  | second _ ih => exact ih leads
  | empty _ ih => exact ⟨[], stretch, rfl, .empty, ih leads⟩
  | assertion holds _ ih => exact ⟨[], stretch, rfl, .assertion holds, ih leads⟩
  | char =>
      obtain ⟨character, rest, rfl, admitted, matchesRest⟩ := leads
      exact ⟨[character], rest, rfl, .char admitted, matchesRest⟩
  | concat _ ih =>
      obtain ⟨_, _, right, rfl, matchesFirst, matchesSecond, matchesBehind⟩ :=
        Remainder.exists_parts (ih leads)
      exact ⟨_, right, rfl, .concat matchesFirst matchesSecond, matchesBehind⟩
  | choiceFirst _ ih =>
      obtain ⟨left, right, split, matchesFirst, matchesBehind⟩ := ih leads
      exact ⟨left, right, split, .choiceFirst matchesFirst, matchesBehind⟩
  | choiceSecond _ ih =>
      obtain ⟨left, right, split, matchesSecond, matchesBehind⟩ := ih leads
      exact ⟨left, right, split, .choiceSecond matchesSecond, matchesBehind⟩
  | starNone _ ih => exact ⟨[], stretch, rfl, .starNone, ih leads⟩
  | starRound _ ih =>
      obtain ⟨_, _, right, rfl, matchesBody, matchesRounds, matchesBehind⟩ :=
        Remainder.exists_parts (ih leads)
      exact ⟨_, right, rfl, .starRound matchesBody matchesRounds, matchesBehind⟩

/-- Where an expression matches, it offers what leads through the match, or, in front of an empty
one, what is offered behind it. -/
theorem advances_next {expression : Regex} {behind : Remainder} {before : Option Char}
    {left right after : Text} (found : Matches expression before left (right ++ after))
    (advances : behind.Advances (lastOf before left) right after) :
    (Remainder.next expression behind).Advances before (left ++ right) after := by
  generalize text_eq : right ++ after = text at found
  induction found generalizing behind right after with
  | empty =>
      obtain ⟨move, offers, leads⟩ := advances
      exact ⟨move, .empty offers, leads⟩
  | assertion holds =>
      subst text_eq
      obtain ⟨move, offers, leads⟩ := advances
      exact ⟨move, .assertion holds offers, leads⟩
  | char admitted =>
      obtain ⟨move, offers, leads⟩ := advances
      exact ⟨_, .char, _, right, rfl, admitted, offers.matches leads⟩
  | @concat first second before left middle text _ _ firstAdvances secondAdvances =>
      subst text_eq
      rw [lastOf_append] at advances
      have further :=
        firstAdvances (secondAdvances advances rfl) (List.append_assoc middle right after)
      obtain ⟨move, offers, leads⟩ := further
      rw [List.append_assoc]
      exact ⟨move, .concat offers, leads⟩
  | choiceFirst _ firstAdvances =>
      obtain ⟨move, offers, leads⟩ := firstAdvances advances text_eq
      exact ⟨move, .choiceFirst offers, leads⟩
  | choiceSecond _ secondAdvances =>
      obtain ⟨move, offers, leads⟩ := advances
      obtain ⟨move, offers, leads⟩ := secondAdvances ⟨move, .second offers, leads⟩ text_eq
      exact ⟨move, .choiceSecond offers, leads⟩
  | starNone =>
      obtain ⟨move, offers, leads⟩ := advances
      exact ⟨move, .starNone offers, leads⟩
  | @starRound body greedy before left middle text _ _ bodyAdvances roundsAdvance =>
      subst text_eq
      rw [lastOf_append] at advances
      have further :=
        bodyAdvances (roundsAdvance advances rfl) (List.append_assoc middle right after)
      obtain ⟨move, offers, leads⟩ := further
      rw [List.append_assoc]
      exact ⟨move, .starRound offers, leads⟩

/-- What remains matches a stretch of text exactly if one of its moves leads through it. -/
theorem Remainder.matches_iff_advances {remaining : Remainder} {before : Option Char}
    {stretch after : Text} :
    remaining.Matches before stretch after ↔ remaining.Advances before stretch after := by
  constructor
  · intro found
    induction remaining generalizing before stretch with
    | done => exact ⟨.accept, .done, found⟩
    | next expression behind ih =>
        obtain ⟨left, right, rfl, matchesFirst, matchesBehind⟩ := found
        exact advances_next matchesFirst (ih matchesBehind)
    | second behind ih =>
        obtain ⟨move, offers, leads⟩ := ih found
        exact ⟨move, .second offers, leads⟩
  · rintro ⟨move, offers, leads⟩
    exact offers.matches leads

end Regex

end ScriptSanitizer
