import ScriptSanitizer.Proofs.Regex.Moves
import ScriptSanitizer.Regex.Meaning

/-!
# The search for matches

The engine follows all that can remain after each character, and prefers one match among those it
finds.  Here the match it prefers is shown to be a match, and the engine to find one wherever there
is one.
-/

namespace ScriptSanitizer

namespace Regex

/-! ## The moves that count -/

theorem Move.accept_mem_of_untilAccept {list : List Move}
    (accepts : (untilAccept list).2 = true) : .accept ∈ list := by
  induction list with
  | nil => simp [untilAccept] at accepts
  | cons head tail ih =>
      cases head with
      | accept => exact List.mem_cons_self
      | read allowed remaining => exact List.mem_cons_of_mem _ (ih accepts)

theorem Move.read_mem_of_untilAccept {list : List Move} {allowed : CharClass}
    {remaining : Remainder} (member : (allowed, remaining) ∈ (untilAccept list).1) :
    .read allowed remaining ∈ list := by
  induction list with
  | nil => simp [untilAccept] at member
  | cons head tail ih =>
      cases head with
      | accept => simp [untilAccept] at member
      | read headAllowed headRemaining =>
          simp only [untilAccept, List.mem_cons, Prod.mk.injEq] at member
          rcases member with ⟨rfl, rfl⟩ | member
          · exact List.mem_cons_self
          · exact List.mem_cons_of_mem _ (ih member)

/-- Every move counts as long as none ends the match. -/
theorem Move.mem_untilAccept {list : List Move} {move : Move} (member : move ∈ list) :
    (untilAccept list).2 = true ∨
      ∃ allowed remaining, move = .read allowed remaining ∧
        (allowed, remaining) ∈ (untilAccept list).1 := by
  induction list with
  | nil => simp at member
  | cons head tail ih =>
      cases head with
      | accept => exact .inl rfl
      | read headAllowed headRemaining =>
          rcases List.mem_cons.mp member with rfl | member
          · exact .inr ⟨headAllowed, headRemaining, rfl, List.mem_cons_self⟩
          · rcases ih member with accepts | ⟨allowed, remaining, rfl, counts⟩
            · exact .inl accepts
            · exact .inr ⟨allowed, remaining, rfl, List.mem_cons_of_mem _ counts⟩

theorem mem_remaindersAfter {reads : List (CharClass × Remainder)} {character : Char}
    {remaining : Remainder} :
    remaining ∈ remaindersAfter reads character ↔
      ∃ allowed, (allowed, remaining) ∈ reads ∧ allowed.contains character = true := by
  simp [remaindersAfter]

/-- The match can end in front of a text exactly if one of the remainders matches the empty stretch
there. -/
theorem accepts_iff {before : Option Char} {remainders : List Remainder} (text : Text) :
    (Move.untilAccept (moves before text.head? remainders)).2 = true ↔
      ∃ remaining ∈ remainders, remaining.Matches before [] text := by
  constructor
  · intro accepts
    obtain ⟨remaining, member, offers⟩ := mem_moves_iff.mp (Move.accept_mem_of_untilAccept accepts)
    exact ⟨remaining, member, Remainder.matches_iff_advances.mpr ⟨.accept, offers, rfl⟩⟩
  · rintro ⟨remaining, member, matching⟩
    obtain ⟨move, offers, leads⟩ := Remainder.matches_iff_advances.mp matching
    cases move with
    | accept =>
        rcases Move.mem_untilAccept (mem_moves_iff.mpr ⟨remaining, member, offers⟩) with
          accepts | ⟨_, _, ⟨⟩, _⟩
        exact accepts
    | read =>
        obtain ⟨_, _, none_read, _⟩ := leads
        exact nomatch none_read

/-! ## The preferred match -/

/-- The match that is best in front of a text is the one found before, or the empty one there. -/
theorem exists_match_of_best {before : Option Char} {remainders : List Remainder} {matched : Nat}
    {best : Option Nat} {text : Text} {length : Nat}
    (chosen : (if (Move.untilAccept (moves before text.head? remainders)).2 = true
      then some matched else best) = some length) :
    best = some length ∨ ∃ remaining ∈ remainders, ∃ stretch after,
      text = stretch ++ after ∧ length = matched + stretch.length ∧
        remaining.Matches before stretch after := by
  split at chosen
  case isTrue accepts =>
    obtain ⟨remaining, member, matching⟩ := (accepts_iff text).mp accepts
    obtain rfl := Option.some.inj chosen
    exact .inr ⟨remaining, member, [], text, rfl, rfl, matching⟩
  case isFalse => exact .inl chosen

theorem longestPreferred_sound {before : Option Char} {remainders : List Remainder} {matched : Nat}
    {best : Option Nat} {text : Text} {length : Nat}
    (found : longestPreferred before remainders matched best text = some length) :
    best = some length ∨ ∃ remaining ∈ remainders, ∃ stretch after,
      text = stretch ++ after ∧ length = matched + stretch.length ∧
        remaining.Matches before stretch after := by
  induction text generalizing before remainders matched best with
  | nil => exact exists_match_of_best found
  | cons character rest ih =>
      simp only [longestPreferred] at found
      split at found
      · exact exists_match_of_best found
      · rcases ih found with chosen | ⟨remaining, member, stretch, after, rfl, rfl, matching⟩
        · exact exists_match_of_best chosen
        · obtain ⟨allowed, read, admitted⟩ := mem_remaindersAfter.mp member
          obtain ⟨whole, member, offers⟩ := mem_moves_iff.mp (Move.read_mem_of_untilAccept read)
          refine .inr ⟨whole, member, character :: stretch, after, rfl, ?_, ?_⟩
          · rw [List.length_cons]
            omega
          · exact Remainder.matches_iff_advances.mpr
              ⟨.read allowed remaining, offers, character, stretch, rfl, admitted, matching⟩

/-- A match once found is given up only for another one. -/
theorem longestPreferred_isSome_of_best {before : Option Char} {remainders : List Remainder}
    {matched : Nat} {best : Option Nat} {text : Text} (found : best.isSome = true) :
    (longestPreferred before remainders matched best text).isSome = true := by
  induction text generalizing before remainders matched best with
  | nil =>
      simp only [longestPreferred]
      split
      · rfl
      · exact found
  | cons character rest ih =>
      have kept : (if (Move.untilAccept (moves before (some character) remainders)).2 = true
          then some matched else best).isSome = true := by
        split
        · rfl
        · exact found
      simp only [longestPreferred]
      split
      · exact kept
      · exact ih kept

theorem longestPreferred_complete {before : Option Char} {remainders : List Remainder}
    {matched : Nat} {best : Option Nat} {stretch after : Text} {remaining : Remainder}
    (member : remaining ∈ remainders) (matching : remaining.Matches before stretch after) :
    (longestPreferred before remainders matched best (stretch ++ after)).isSome = true := by
  induction stretch generalizing before remainders matched best remaining with
  | nil =>
      have accepts := (accepts_iff after).mpr ⟨remaining, member, matching⟩
      cases after with
      | nil =>
          rw [List.head?_nil] at accepts
          simp [longestPreferred, accepts]
      | cons character rest =>
          rw [List.head?_cons] at accepts
          simp only [List.nil_append, longestPreferred, accepts, ↓reduceIte]
          split
          · rfl
          · exact longestPreferred_isSome_of_best rfl
  | cons character stretch ih =>
      obtain ⟨move, offers, leads⟩ := Remainder.matches_iff_advances.mp matching
      simp only [List.cons_append, longestPreferred]
      rcases Move.mem_untilAccept (mem_moves_iff.mpr ⟨remaining, member, offers⟩) with
        accepts | ⟨allowed, further, rfl, read⟩
      · rw [List.cons_append, List.head?_cons] at accepts
        simp only [accepts, ↓reduceIte]
        split
        · rfl
        · exact longestPreferred_isSome_of_best rfl
      · obtain ⟨_, _, same, admitted, found⟩ := leads
        obtain ⟨rfl, rfl⟩ := List.cons.inj same
        have remains := mem_remaindersAfter.mpr ⟨allowed, read, admitted⟩
        split
        case h_1 none_remain =>
          rw [List.cons_append, List.head?_cons, none_remain] at remains
          exact absurd remains List.not_mem_nil
        case h_2 => exact ih remains found

/-- With nothing behind it an expression remains to match what it matches. -/
theorem matches_next_done_iff {expression : Regex} {before : Option Char} {stretch after : Text} :
    (Remainder.next expression .done).Matches before stretch after ↔
      Matches expression before stretch after := by
  constructor
  · rintro ⟨left, _, rfl, found, rfl⟩
    rwa [List.append_nil]
  · intro found
    exact ⟨stretch, [], (List.append_nil stretch).symm, found, rfl⟩

/-- The match that the engine prefers is a match. -/
theorem matches_of_leadingMatch? {expression : Regex} {before : Option Char} {text : Text}
    {length : Nat} (found : expression.leadingMatch? before text = some length) :
    ∃ stretch after, text = stretch ++ after ∧ stretch.length = length ∧
      Matches expression before stretch after := by
  rcases longestPreferred_sound found with
    none_best | ⟨_, member, stretch, after, split, rfl, matching⟩
  · simp at none_best
  · obtain rfl := List.mem_singleton.mp member
    exact ⟨stretch, after, split, (Nat.zero_add _).symm, matches_next_done_iff.mp matching⟩

-- The second round prefers to read nothing; it is given up for the one that reads the last letter.
example : (ofText? {} "x(?:a?|b)*".toList).toOption.map (·.leadingMatch? none "xab".toList) =
    some (some 3) := by decide +kernel

/-- The engine finds a match at the front of a text exactly if there is one. -/
theorem leadingMatch?_isSome_iff {expression : Regex} {before : Option Char} {text : Text} :
    (expression.leadingMatch? before text).isSome = true ↔
      ∃ stretch after, text = stretch ++ after ∧ Matches expression before stretch after := by
  constructor
  · intro found
    obtain ⟨length, found⟩ := Option.isSome_iff_exists.mp found
    obtain ⟨stretch, after, split, _, matching⟩ := matches_of_leadingMatch? found
    exact ⟨stretch, after, split, matching⟩
  · rintro ⟨stretch, after, rfl, matching⟩
    exact longestPreferred_complete (List.mem_singleton.mpr rfl)
      (matches_next_done_iff.mpr matching)

end Regex

end ScriptSanitizer
