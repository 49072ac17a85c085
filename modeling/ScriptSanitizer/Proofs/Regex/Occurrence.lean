import ScriptSanitizer.Proofs.Decoding
import ScriptSanitizer.Proofs.Regex.Search

/-!
# Occurrences and what they read

An expression occurs in a text exactly if a stretch of the text matches it.  What every such stretch
reads can be computed from the expression: the characters that it may contain, those that it may
start with, and those of which it must contain one.
-/

namespace ScriptSanitizer

namespace Unicode

/-- No character but itself differs from the code point at most in case, as folding moves neither it
nor anything onto it. -/
def Uncased (code : Nat) : Prop := code < 0x61 ∧ ∀ run ∈ foldRuns, run.covers code = false

instance (code : Nat) : Decidable (Uncased code) := inferInstanceAs (Decidable (_ ∧ _))

theorem image_high : ∀ run ∈ foldRuns, 0x61 ≤ run.image := by
  decide +kernel

/-- Nothing below the capital letters has case. -/
theorem uncased_of_lt {code : Nat} (low : code < 0x41) : Uncased code := by
  have starts_high : ∀ run ∈ foldRuns, 0x41 ≤ run.first := by decide +kernel
  refine ⟨by omega, fun run member => ?_⟩
  have above := starts_high run member
  have outside : ¬ run.first ≤ code := by omega
  rw [FoldRun.covers, decide_eq_false outside, Bool.false_and, Bool.false_and]

theorem caseVariants_eq_singleton {code : Nat} (uncased : Uncased code) :
    caseVariants code = [code] := by
  obtain ⟨low, uncovered⟩ := uncased
  have unmoved : foldRuns.find? (fun run => run.covers code) = none := by
    rw [List.find?_eq_none]
    intro run member
    simp [uncovered run member]
  have no_preimage : foldRuns.filterMap (fun run => run.preimage? code) = [] := by
    rw [List.filterMap_eq_nil_iff]
    intro run member
    have above := image_high run member
    rw [FoldRun.preimage?, if_neg (by omega)]
  rw [caseVariants, fold, unmoved]
  exact congrArg (code :: ·) no_preimage

theorem mem_caseVariants_iff {code other : Nat} (uncased : Uncased code) :
    code ∈ caseVariants other ↔ code = other := by
  constructor
  · obtain ⟨low, uncovered⟩ := uncased
    rw [caseVariants, List.mem_cons]
    rintro (folded | preimage)
    · unfold fold at folded
      split at folded
      case h_1 run found =>
        have high := image_high run (List.mem_of_find?_eq_some found)
        rw [FoldRun.apply] at folded
        omega
      case h_2 => exact folded
    · obtain ⟨run, member, found⟩ := List.mem_filterMap.mp preimage
      unfold FoldRun.preimage? at found
      split at found
      case isTrue =>
        have covered := (Option.filter_eq_some_iff.mp found).2
        rw [uncovered run member] at covered
        exact absurd covered Bool.false_ne_true
      case isFalse => simp at found
  · rintro rfl
    rw [caseVariants_eq_singleton uncased]
    exact List.mem_singleton_self code

theorem self_mem_caseVariants (code : Nat) : code ∈ caseVariants code := by
  rw [caseVariants, fold]
  split
  case h_1 run found =>
    have covered := List.find?_some found
    have bounds := covered
    simp only [FoldRun.covers, Bool.and_eq_true, decide_eq_true_eq] at bounds
    have back : run.preimage? (run.apply code) = some code := by
      have inverse : run.first + (run.image + (code - run.first) - run.image) = code := by omega
      rw [FoldRun.preimage?, FoldRun.apply, if_pos (Nat.le_add_right _ _), inverse,
        Option.filter_some, if_pos covered]
    refine List.mem_cons_of_mem _ (List.mem_filterMap.mpr ⟨run, ?_, back⟩)
    exact List.mem_of_find?_eq_some found
  case h_2 => exact List.mem_cons_self

end Unicode

namespace CharClass

/-- A letter is one of its own variants. -/
theorem contains_letter_self (character : Char) :
    (CharClass.letter character).contains character = true := by
  have members : (CharClass.letter character).contains character = true ↔
      character ∈ caseVariants character := List.contains_iff_mem
  rw [members, caseVariants, List.mem_filterMap]
  exact ⟨_, Unicode.self_mem_caseVariants _, scalar?_toNat character⟩

theorem contains_letter {character : Char} (uncased : Unicode.Uncased character.toNat)
    (letter : Char) : (CharClass.letter letter).contains character = (character == letter) := by
  rw [Bool.eq_iff_iff, beq_iff_eq]
  have members : (CharClass.letter letter).contains character = true ↔
      character ∈ caseVariants letter := List.contains_iff_mem
  rw [members, caseVariants, List.mem_filterMap]
  constructor
  · rintro ⟨code, member, found⟩
    obtain rfl := toNat_of_scalar? found
    exact Char.toNat_inj.mp ((Unicode.mem_caseVariants_iff uncased).mp member)
  · rintro rfl
    exact ⟨_, (Unicode.mem_caseVariants_iff uncased).mpr rfl, scalar?_toNat character⟩

/-- The class lists its characters, and all of them are among those chosen. -/
def listsOnly (chosen : Char → Bool) : CharClass → Bool
  | oneOf characters => characters.all chosen
  | _ => false

theorem chosen_of_listsOnly {chosen : Char → Bool} {allowed : CharClass} {character : Char}
    (lists : allowed.listsOnly chosen = true) (admitted : allowed.contains character = true) :
    chosen character = true := by
  cases allowed with
  | oneOf characters =>
      have member : character ∈ characters := List.contains_iff_mem.mp admitted
      exact List.all_eq_true.mp lists character member
  | _ => exact absurd lists Bool.false_ne_true

end CharClass

namespace Regex

/-! ## Occurrences -/

/-- An expression occurs in a text exactly if a stretch of the text matches it. -/
theorem occursIn_iff {expression : Regex} {text : Text} :
    expression.occursIn text = true ↔
      ∃ front stretch after, text = front ++ (stretch ++ after) ∧
        Matches expression (lastOf none front) stretch after := by
  rw [occursIn, Finder.occursIn, Finder.occursFrom_iff]
  constructor
  · rintro ⟨front, _, rfl, found⟩
    obtain ⟨stretch, after, rfl, matching⟩ := leadingMatch?_isSome_iff.mp found
    exact ⟨front, stretch, after, rfl, matching⟩
  · rintro ⟨front, stretch, after, rfl, matching⟩
    exact ⟨front, _, rfl, leadingMatch?_isSome_iff.mpr ⟨stretch, after, rfl, matching⟩⟩

/-! ## Texts, choices and rounds -/

/-- A text matches itself. -/
theorem matches_text (before : Option Char) (letters after : Text) :
    Matches (text letters) before letters after := by
  unfold text
  induction letters generalizing before with
  | nil => exact .empty
  | cons letter letters ih =>
      cases letters with
      | nil => exact .char (CharClass.contains_letter_self letter)
      | cons next letters =>
          have first : Matches (char (.letter letter)) before [letter]
              (next :: letters ++ after) := .char (CharClass.contains_letter_self letter)
          exact (Matches.concat first (ih (some letter)) :)

/-- What matches one of several expressions matches their choice. -/
theorem matches_oneOf {expression : Regex} {expressions : List Regex} {before : Option Char}
    {stretch after : Text} (member : expression ∈ expressions)
    (found : Matches expression before stretch after) :
    Matches (oneOf expressions) before stretch after := by
  induction expressions with
  | nil => exact absurd member List.not_mem_nil
  | cons first others ih =>
      cases others with
      | nil =>
          obtain rfl := List.mem_singleton.mp member
          exact found
      | cons next others =>
          rcases List.mem_cons.mp member with rfl | behind
          · exact .choiceFirst found
          · exact .choiceSecond (ih behind)

/-- Characters of a class match any number of rounds over it. -/
theorem matches_star_char {allowed : CharClass} {stretch : Text}
    (each : ∀ character ∈ stretch, allowed.contains character = true) (greedy : Bool)
    (before : Option Char) (after : Text) :
    Matches (star (char allowed) greedy) before stretch after := by
  induction stretch generalizing before with
  | nil => exact .starNone
  | cons character stretch ih =>
      have first : Matches (char allowed) before [character] (stretch ++ after) :=
        .char (each character List.mem_cons_self)
      have behind := ih fun other member => each other (List.mem_cons_of_mem character member)
      exact (Matches.starRound first (behind (some character)) :)

/-! ## What stands around a match -/

/-- The expression asks nothing about what stands around a match. -/
def unconditional : Regex → Bool
  | empty => true
  | assertion _ => false
  | char _ => true
  | concat first second => first.unconditional && second.unconditional
  | choice first second => first.unconditional && second.unconditional
  | star body _ => body.unconditional

/-- What matches an unconditional expression somewhere matches it everywhere. -/
theorem matches_elsewhere {expression : Regex} {before : Option Char} {stretch after : Text}
    (unconditional : expression.unconditional = true)
    (found : Matches expression before stretch after) (before' : Option Char) (after' : Text) :
    Matches expression before' stretch after' := by
  induction found generalizing before' after' with
  | empty => exact .empty
  | assertion => exact absurd unconditional Bool.false_ne_true
  | char admitted => exact .char admitted
  | concat _ _ firstElsewhere secondElsewhere =>
      obtain ⟨first, second⟩ := (Bool.and_eq_true _ _).mp unconditional
      exact .concat (firstElsewhere first _ _) (secondElsewhere second _ _)
  | choiceFirst _ firstElsewhere =>
      obtain ⟨first, _⟩ := (Bool.and_eq_true _ _).mp unconditional
      exact .choiceFirst (firstElsewhere first _ _)
  | choiceSecond _ secondElsewhere =>
      obtain ⟨_, second⟩ := (Bool.and_eq_true _ _).mp unconditional
      exact .choiceSecond (secondElsewhere second _ _)
  | starNone => exact .starNone
  | starRound _ _ bodyElsewhere roundsElsewhere =>
      exact .starRound (bodyElsewhere unconditional _ _) (roundsElsewhere unconditional _ _)

/-! ## The characters of a match -/

/-- A match may read the character. -/
def mayRead (character : Char) : Regex → Bool
  | empty => false
  | assertion _ => false
  | char allowed => allowed.contains character
  | concat first second => first.mayRead character || second.mayRead character
  | choice first second => first.mayRead character || second.mayRead character
  | star body _ => body.mayRead character

theorem mayRead_of_mem {expression : Regex} {before : Option Char} {stretch after : Text}
    {character : Char} (found : Matches expression before stretch after)
    (member : character ∈ stretch) : expression.mayRead character = true := by
  induction found with
  | empty => exact absurd member List.not_mem_nil
  | assertion => exact absurd member List.not_mem_nil
  | char admitted =>
      obtain rfl := List.mem_singleton.mp member
      exact admitted
  | concat _ _ firstReads secondReads =>
      rw [mayRead, Bool.or_eq_true]
      exact (List.mem_append.mp member).imp firstReads secondReads
  | choiceFirst _ firstReads =>
      rw [mayRead, Bool.or_eq_true]
      exact .inl (firstReads member)
  | choiceSecond _ secondReads =>
      rw [mayRead, Bool.or_eq_true]
      exact .inr (secondReads member)
  | starNone => exact absurd member List.not_mem_nil
  | starRound _ _ bodyReads roundsRead =>
      exact (List.mem_append.mp member).elim bodyReads roundsRead

theorem mayRead_sequence (character : Char) (expressions : List Regex) :
    (sequence expressions).mayRead character =
      expressions.any fun expression => expression.mayRead character := by
  fun_induction sequence expressions with
  | case1 => rfl
  | case2 expression => rw [List.any_cons, List.any_nil, Bool.or_false]
  | case3 expression others _ ih => rw [mayRead, ih, List.any_cons]

theorem mayRead_oneOf (character : Char) (expressions : List Regex) :
    (oneOf expressions).mayRead character =
      expressions.any fun expression => expression.mayRead character := by
  fun_induction oneOf expressions with
  | case1 => rfl
  | case2 expression => rw [List.any_cons, List.any_nil, Bool.or_false]
  | case3 expression others _ ih => rw [mayRead, ih, List.any_cons]

/-- A text in any case reads a character that has no case only if it contains it. -/
theorem mayRead_text {character : Char} (uncased : Unicode.Uncased character.toNat)
    (letters : Text) : (text letters).mayRead character = letters.contains character := by
  rw [text, mayRead_sequence, List.any_map, List.contains_eq_any_beq]
  refine congrArg letters.any (funext fun letter => ?_)
  exact CharClass.contains_letter uncased letter

/-- A match starts with one of the characters chosen, if it reads any. -/
def startsAmong (chosen : Char → Bool) : Regex → Bool
  | empty => true
  | assertion _ => true
  | char allowed => allowed.listsOnly chosen
  | concat first second =>
    first.startsAmong chosen && (first.minLength != 0 || second.startsAmong chosen)
  | choice first second => first.startsAmong chosen && second.startsAmong chosen
  | star body _ => body.startsAmong chosen

theorem chosen_of_startsAmong {chosen : Char → Bool} {expression : Regex} {before : Option Char}
    {stretch after : Text} {character : Char} (starts : expression.startsAmong chosen = true)
    (found : Matches expression before stretch after) (head : stretch.head? = some character) :
    chosen character = true := by
  induction found with
  | empty => simp at head
  | assertion => simp at head
  | char admitted =>
      obtain rfl := Option.some.inj head
      exact CharClass.chosen_of_listsOnly starts admitted
  | @concat first second _ left right _ matchesFirst _ firstStarts secondStarts =>
      simp only [startsAmong, Bool.and_eq_true, Bool.or_eq_true, bne_iff_ne] at starts
      cases left with
      | cons => exact firstStarts starts.1 head
      | nil =>
          have nothing := minLength_le_of_matches matchesFirst
          rw [List.length_nil] at nothing
          exact secondStarts (starts.2.resolve_left fun some_read => by omega) head
  | choiceFirst _ firstStarts =>
      simp only [startsAmong, Bool.and_eq_true] at starts
      exact firstStarts starts.1 head
  | choiceSecond _ secondStarts =>
      simp only [startsAmong, Bool.and_eq_true] at starts
      exact secondStarts starts.2 head
  | starNone => simp at head
  | @starRound body greedy _ left right _ _ _ bodyStarts roundsStart =>
      cases left with
      | cons => exact bodyStarts starts head
      | nil => exact roundsStart starts head

/-- Every match reads one of the characters chosen. -/
def mustRead (chosen : Char → Bool) : Regex → Bool
  | empty => false
  | assertion _ => false
  | char allowed => allowed.listsOnly chosen
  | concat first second => first.mustRead chosen || second.mustRead chosen
  | choice first second => first.mustRead chosen && second.mustRead chosen
  | star _ _ => false

theorem exists_mem_of_mustRead {chosen : Char → Bool} {expression : Regex}
    {before : Option Char} {stretch after : Text} (must : expression.mustRead chosen = true)
    (found : Matches expression before stretch after) :
    ∃ character ∈ stretch, chosen character = true := by
  induction found with
  | empty => exact absurd must Bool.false_ne_true
  | assertion => exact absurd must Bool.false_ne_true
  | char admitted =>
      exact ⟨_, List.mem_singleton_self _, CharClass.chosen_of_listsOnly must admitted⟩
  | concat _ _ firstReads secondReads =>
      rcases (Bool.or_eq_true _ _).mp must with first | second
      · obtain ⟨character, member, among⟩ := firstReads first
        exact ⟨character, List.mem_append_left _ member, among⟩
      · obtain ⟨character, member, among⟩ := secondReads second
        exact ⟨character, List.mem_append_right _ member, among⟩
  | choiceFirst _ firstReads => exact firstReads ((Bool.and_eq_true _ _).mp must).1
  | choiceSecond _ secondReads => exact secondReads ((Bool.and_eq_true _ _).mp must).2
  | starNone => exact absurd must Bool.false_ne_true
  | starRound => exact absurd must Bool.false_ne_true

theorem mustRead_sequence (chosen : Char → Bool) (expressions : List Regex) :
    (sequence expressions).mustRead chosen =
      expressions.any fun expression => expression.mustRead chosen := by
  fun_induction sequence expressions with
  | case1 => rfl
  | case2 expression => rw [List.any_cons, List.any_nil, Bool.or_false]
  | case3 expression others _ ih => rw [mustRead, ih, List.any_cons]

/-- A text in any case reads each of its characters that has no case. -/
theorem mustRead_text {chosen : Char → Bool} {character : Char} {letters : Text}
    (uncased : Unicode.Uncased character.toNat) (picked : chosen character = true)
    (member : character ∈ letters) : (text letters).mustRead chosen = true := by
  have alone : caseVariants character = [character] := by
    rw [caseVariants, Unicode.caseVariants_eq_singleton uncased, List.filterMap_cons,
      scalar?_toNat]
    rfl
  rw [text, mustRead_sequence, List.any_map, List.any_eq_true]
  refine ⟨character, member, ?_⟩
  rw [Function.comp_apply, mustRead, CharClass.letter, CharClass.listsOnly, alone, List.all_cons,
    picked]
  rfl

/-- A sequence reads what one of the texts in it reads. -/
theorem mustRead_sequence_of_text {chosen : Char → Bool} {character : Char} {letters : Text}
    {expressions : List Regex} (uncased : Unicode.Uncased character.toNat)
    (picked : chosen character = true) (member : character ∈ letters)
    (part : text letters ∈ expressions) : (sequence expressions).mustRead chosen = true := by
  rw [mustRead_sequence, List.any_eq_true]
  exact ⟨text letters, part, mustRead_text uncased picked member⟩

/-- An expression does not occur where it has nothing to read. -/
theorem occursIn_eq_false_of_mustRead {chosen : Char → Bool} {expression : Regex} {text : Text}
    (must : expression.mustRead chosen = true)
    (absent : ∀ character ∈ text, chosen character = false) :
    expression.occursIn text = false := by
  refine eq_false_of_ne_true fun occurs => ?_
  obtain ⟨front, stretch, after, rfl, found⟩ := occursIn_iff.mp occurs
  obtain ⟨character, member, among⟩ := exists_mem_of_mustRead must found
  have inside := List.mem_append_right front (List.mem_append_left after member)
  rw [absent character inside] at among
  exact Bool.noConfusion among

end Regex

end ScriptSanitizer
