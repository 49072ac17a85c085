import ScriptSanitizer.Toml.Scalar

/-!
# Scalars in front of more lines

What a reader of a scalar reads of a text it reads also if a line feed and more lines follow the
text, and it leaves them unread.  No scalar in one line reaches behind a line feed, and one of
several lines ends at its closing marks.
-/

namespace ScriptSanitizer

namespace Toml

/-- Where the first reader succeeds, it leaves an end of the text, and if more lines follow, the
second one reads the same and leaves them too. -/
def GoesOn {Result : Type} (read readMore : Text → Option (Result × Text)) : Prop :=
  ∀ text result rest, read text = some (result, rest) →
    rest <:+ text ∧ ∀ tail, readMore (text ++ '\n' :: tail) = some (result, rest ++ '\n' :: tail)

/-- If a reader goes on with more turns, it goes on with a turn for every character and one more. -/
theorem GoesOn.of_turns {Result : Type} {read : Nat → Text → Option (Result × Text)}
    (goes_on : ∀ {turns more}, turns ≤ more → GoesOn (read turns) (read more)) :
    GoesOn (fun text => read (text.length + 1) text) (fun text => read (text.length + 1) text) := by
  intro text result rest reads
  refine ⟨(goes_on (Nat.le_refl _) text result rest reads).1, fun tail => ?_⟩
  have longer := Nat.succ_le_succ (List.sublist_append_left text ('\n' :: tail)).length_le
  exact (goes_on longer text result rest reads).2 tail

section

variable {Item Result : Type}

theorem GoesOn.bind {next nextMore : Item → Text → Option (Result × Text)}
    {first firstMore : Text → Option (Item × Text)} (front : GoesOn first firstMore)
    (behind : ∀ item, GoesOn (next item) (nextMore item)) :
    GoesOn (fun text => (first text).bind fun outcome => next outcome.1 outcome.2)
      (fun text => (firstMore text).bind fun outcome => nextMore outcome.1 outcome.2) := by
  intro text result rest read
  obtain ⟨⟨item, inside⟩, read_item, read⟩ := Option.bind_eq_some_iff.mp read
  obtain ⟨leaves, more⟩ := front _ _ _ read_item
  obtain ⟨leaves_behind, more_behind⟩ := behind item _ _ _ read
  refine ⟨leaves_behind.trans leaves, fun tail => ?_⟩
  dsimp only
  rw [more, Option.bind_some, more_behind]

theorem GoesOn.provided {next nextMore : Item → Text → Option (Result × Text)}
    (found : Option Item) (behind : ∀ item, GoesOn (next item) (nextMore item)) :
    GoesOn (fun text => found.bind fun item => next item text)
      (fun text => found.bind fun item => nextMore item text) := by
  intro text result rest read
  obtain ⟨item, rfl, read⟩ := Option.bind_eq_some_iff.mp read
  exact behind item _ _ _ read

theorem goesOn_some (result : Result) :
    GoesOn (fun rest => some (result, rest)) (fun rest => some (result, rest)) := by
  intro text _ rest read
  cases read
  exact ⟨List.suffix_refl _, fun _ => rfl⟩

end

/-! ## Runs of characters -/

section

variable {inside : Char → Bool} (stops : inside '\n' = false) (text tail : Text)
include stops

theorem takeWhile_append_lineFeed :
    (text ++ '\n' :: tail).takeWhile inside = text.takeWhile inside := by
  induction text with
  | nil => simp [stops]
  | cons front text ih => simp only [List.cons_append, List.takeWhile_cons, ih]

theorem dropWhile_append_lineFeed :
    (text ++ '\n' :: tail).dropWhile inside = text.dropWhile inside ++ '\n' :: tail := by
  induction text with
  | nil => simp [stops]
  | cons front text ih =>
      simp only [List.cons_append, List.dropWhile_cons, ih]
      split <;> rfl

end

theorem drop_length_takeWhile_append (inside : Char → Bool) (text more : Text) :
    (text ++ more).drop (text.takeWhile inside).length =
      text.drop (text.takeWhile inside).length ++ more :=
  List.drop_append_of_le_length (List.takeWhile_prefix inside).length_le

/-- A run of characters that ends inside a text ends at the same place whatever follows. -/
theorem takeWhile_append_of_length_lt {inside : Char → Bool} {text : Text}
    (ends : (text.takeWhile inside).length < text.length) (more : Text) :
    (text ++ more).takeWhile inside = text.takeWhile inside := by
  rw [List.takeWhile_append, if_neg (Nat.ne_of_lt ends)]

/-! ## Strings -/

theorem readEscape_append {text : Text} {character : Char} {width : Nat}
    (read : readEscape text = some (character, width)) (more : Text) :
    readEscape (text ++ more) = some (character, width) := by
  unfold readEscape at read
  split at read <;> first | exact read | cases read

theorem goesOn_readBasic (skip : Nat) : GoesOn (readBasic skip) (readBasic skip) := by
  intro text string rest read
  induction text generalizing skip string with
  | nil => cases skip <;> cases read
  | cons front text ih =>
      cases skip with
      | succ skip =>
          obtain ⟨leaves, more⟩ := ih skip string read
          exact ⟨leaves.trans (List.suffix_cons front text), more⟩
      | zero =>
          simp only [readBasic, List.cons_append] at read ⊢
          split at read
          case isTrue closing =>
            cases read
            exact ⟨List.suffix_cons front _, fun tail => if_pos closing⟩
          case isFalse inside =>
            simp only [inside, ↓reduceIte]
            split at read
            case isTrue escaped =>
              obtain ⟨⟨character, width⟩, escape, read⟩ := Option.bind_eq_some_iff.mp read
              obtain ⟨⟨characters, behind⟩, others, read⟩ := Option.bind_eq_some_iff.mp read
              cases read
              obtain ⟨leaves, more⟩ := ih width characters others
              refine ⟨leaves.trans (List.suffix_cons front text), fun tail => ?_⟩
              simp only [escaped, readEscape_append escape, ↓reduceIte, more tail,
                Option.bind_eq_bind, Option.bind_some]
            case isFalse plain =>
              split at read
              case isTrue printable =>
                obtain ⟨⟨characters, behind⟩, others, read⟩ := Option.bind_eq_some_iff.mp read
                cases read
                obtain ⟨leaves, more⟩ := ih 0 characters others
                refine ⟨leaves.trans (List.suffix_cons front text), fun tail => ?_⟩
                simp only [plain, printable, ↓reduceIte, more tail, Option.bind_eq_bind,
                  Option.bind_some]
              case isFalse => cases read

theorem goesOn_readLiteral : GoesOn readLiteral readLiteral := by
  intro text string rest read
  simp only [readLiteral] at read ⊢
  have stops : (isPrintable '\n' && '\n' != '\'') = false := rfl
  split at read
  case h_1 behind closing =>
    cases read
    refine ⟨(List.suffix_cons _ _).trans (closing ▸ List.drop_suffix _ text), fun tail => ?_⟩
    rw [takeWhile_append_lineFeed stops, drop_length_takeWhile_append, closing]
    rfl
  case h_2 => cases read

/-! ## Strings of several lines -/

section

variable {mark : Char} (no_feed : mark ≠ '\n')
include no_feed

theorem take_two_append_iff (text tail : Text) :
    (text ++ '\n' :: tail).take 2 = [mark, mark] ↔ text.take 2 = [mark, mark] := by
  match text with
  | [] => simp [Ne.symm no_feed]
  | [front] => simp [Ne.symm no_feed]
  | front :: second :: text => simp

omit no_feed in
theorem exists_of_take_two_eq {text : Text} (marks : text.take 2 = [mark, mark]) :
    ∃ behind, text = mark :: mark :: behind := by
  match text with
  | [] => cases marks
  | [_] => cases marks
  | _ :: _ :: behind =>
    cases marks
    exact ⟨behind, rfl⟩

theorem surplus_append_lineFeed (text tail : Text) :
    surplus mark (text ++ '\n' :: tail) = surplus mark text := by
  have other : ('\n' == mark) = false := beq_false_of_ne (Ne.symm no_feed)
  match text with
  | [] => simp [surplus, other]
  | [front] => simp [surplus, List.takeWhile_cons, other]
  | front :: second :: text => simp [surplus]

end

theorem length_surplus_le (mark : Char) (text : Text) : (surplus mark text).length ≤ text.length :=
  Nat.le_trans (List.takeWhile_prefix _).length_le (List.length_take_le' 2 text)

theorem lt_length_of_readLines {mark : Char} {escapes : Bool} {skip : Nat} {text string rest : Text}
    (read : readLines mark escapes skip text = some (string, rest)) : skip < text.length := by
  induction text generalizing skip with
  | nil => cases skip <;> cases read
  | cons front text ih =>
      cases skip with
      | zero => exact Nat.zero_lt_succ _
      | succ skip => exact Nat.succ_lt_succ (ih read)

/-- A backslash in front of an escape is not one at the end of a line. -/
theorem lineEscape?_of_readEscape {text : Text} {character : Char} {width : Nat}
    (read : readEscape text = some (character, width)) : lineEscape? text = none := by
  unfold readEscape at read
  split at read <;> first | rfl | cases read

theorem lineEscape?_append {text : Text} {width : Nat} (passed : lineEscape? text = some width)
    (within : width < text.length) (tail : Text) :
    lineEscape? (text ++ '\n' :: tail) = some width := by
  have stops : isGap '\n' = false := rfl
  simp only [lineEscape?, dropWhile_append_lineFeed stops] at passed ⊢
  split at passed
  case h_3 => cases passed
  all_goals
    rename_i behind
    cases passed
    rw [behind]
    exact congrArg (fun run : Text => some run.length) (takeWhile_append_of_length_lt within _)

theorem goesOn_readLines {mark : Char} (no_feed : mark ≠ '\n') (escapes : Bool) (skip : Nat) :
    GoesOn (readLines mark escapes skip) (readLines mark escapes skip) := by
  intro text string rest read
  induction text generalizing skip string with
  | nil => cases skip <;> cases read
  | cons front text ih =>
      -- whatever happens to the front, what is read behind it goes on by the induction hypothesis
      have goes_on {skip : Nat} {string : Text}
          (read : readLines mark escapes skip text = some (string, rest)) :
          rest <:+ front :: text ∧ ∀ tail,
            readLines mark escapes skip (text ++ '\n' :: tail) =
              some (string, rest ++ '\n' :: tail) :=
        (ih skip string read).imp_left fun leaves => leaves.trans (List.suffix_cons front text)
      cases skip with
      | succ skip => exact goes_on read
      | zero =>
          simp only [readLines, List.cons_append, take_two_append_iff no_feed] at read ⊢
          split at read
          case isTrue closing =>
            obtain ⟨behind, rfl⟩ := exists_of_take_two_eq closing.2
            cases read
            refine ⟨(List.drop_suffix _ _).trans (List.suffix_cons front _), fun tail => ?_⟩
            simp only [closing, and_self, ↓reduceIte, List.cons_append, List.drop_succ_cons,
              List.drop_zero, surplus_append_lineFeed no_feed, Nat.add_comm 2,
              List.drop_append_of_le_length (length_surplus_le mark behind)]
          case isFalse inside =>
            simp only [inside, ↓reduceIte]
            split at read
            case isTrue escaped =>
              obtain ⟨rfl, rfl⟩ := escaped
              simp only [and_self, ↓reduceIte]
              split at read
              case h_1 width passed =>
                obtain ⟨leaves, more⟩ := goes_on read
                refine ⟨leaves, fun tail => ?_⟩
                rw [lineEscape?_append passed (lt_length_of_readLines read)]
                exact more tail
              case h_2 =>
                obtain ⟨⟨character, width⟩, escape, read⟩ := Option.bind_eq_some_iff.mp read
                obtain ⟨⟨characters, behind⟩, others, read⟩ := Option.bind_eq_some_iff.mp read
                cases read
                obtain ⟨leaves, more⟩ := goes_on others
                refine ⟨leaves, fun tail => ?_⟩
                have escape_more := readEscape_append escape ('\n' :: tail)
                simp only [lineEscape?_of_readEscape escape_more, escape_more, more tail,
                  Option.bind_eq_bind, Option.bind_some]
            case isFalse plain =>
              split at read
              case isTrue kept =>
                obtain ⟨⟨characters, behind⟩, others, read⟩ := Option.bind_eq_some_iff.mp read
                cases read
                obtain ⟨leaves, more⟩ := goes_on others
                refine ⟨leaves, fun tail => ?_⟩
                have kept_more : isPrintable front = true ∨ front = '\n' ∨
                    front = '\r' ∧ (text ++ '\n' :: tail).head? = some '\n' := by
                  refine kept.imp_right (Or.imp_right (And.imp_right fun feed => ?_))
                  rw [List.head?_append, feed]
                  rfl
                simp only [plain, kept_more, ↓reduceIte, more tail, Option.bind_eq_bind,
                  Option.bind_some]
              case isFalse => cases read

theorem suffix_dropLineEnd (text : Text) : dropLineEnd text <:+ text := by
  unfold dropLineEnd
  split
  · exact List.suffix_cons _ _
  · exact (List.suffix_cons _ _).trans (List.suffix_cons _ _)
  · exact List.suffix_refl _

theorem dropLineEnd_append {text : Text} (present : text ≠ []) (no_return : text ≠ ['\r'])
    (tail : Text) : dropLineEnd (text ++ '\n' :: tail) = dropLineEnd text ++ '\n' :: tail := by
  rw [dropLineEnd.eq_def text]
  split
  case h_1 => rfl
  case h_2 => rfl
  case h_3 no_feed no_line_end =>
    obtain ⟨front, rest, rfl⟩ := List.exists_cons_of_ne_nil present
    refine dropLineEnd.eq_3 _ (fun behind shown => ?_) fun behind shown => ?_
    · exact no_feed rest (congrArg (· :: rest) (List.cons.inj shown).1)
    · obtain ⟨rfl, others⟩ := List.cons.inj shown
      cases rest with
      | nil => exact no_return rfl
      | cons second rest =>
          have same : second = '\n' := (List.cons.inj others).1
          exact no_line_end rest (congrArg (fun second => '\r' :: second :: rest) same)

theorem goesOn_readLines_dropLineEnd {mark : Char} (no_feed : mark ≠ '\n')
    (no_return : mark ≠ '\r') (escapes : Bool) :
    GoesOn (fun text => readLines mark escapes 0 (dropLineEnd text))
      (fun text => readLines mark escapes 0 (dropLineEnd text)) := by
  intro text string rest read
  obtain ⟨leaves, more⟩ := goesOn_readLines no_feed escapes 0 _ _ _ read
  have present : text ≠ [] := by
    rintro rfl
    cases read
  have longer : text ≠ ['\r'] := by
    rintro rfl
    simp [dropLineEnd, readLines, Ne.symm no_return, isPrintable] at read
  refine ⟨leaves.trans (suffix_dropLineEnd text), fun tail => ?_⟩
  dsimp only
  rw [dropLineEnd_append present longer]
  exact more tail

/-- What stands in front of a line feed and more lines stands in the text itself. -/
theorem eq_cons_of_append {front : Char} {text tail rest : Text} (no_feed : front ≠ '\n')
    (shown : text ++ '\n' :: tail = front :: rest) :
    ∃ behind, text = front :: behind ∧ rest = behind ++ '\n' :: tail := by
  cases text with
  | nil => exact absurd (List.cons.inj shown).1.symm no_feed
  | cons first behind =>
      obtain ⟨rfl, rfl⟩ := List.cons.inj shown
      exact ⟨behind, rfl, rfl⟩

theorem append_ne_cons {front : Char} {text : Text} (no_feed : front ≠ '\n')
    (others : ∀ rest, text ≠ front :: rest) (tail rest : Text) :
    text ++ '\n' :: tail ≠ front :: rest := by
  intro shown
  obtain ⟨behind, shown, -⟩ := eq_cons_of_append no_feed shown
  exact others behind shown

theorem eq_cons_cons_of_append {first second : Char} {text tail rest : Text}
    (no_feed : first ≠ '\n' ∧ second ≠ '\n')
    (shown : text ++ '\n' :: tail = first :: second :: rest) :
    ∃ behind, text = first :: second :: behind := by
  obtain ⟨behind, rfl, others⟩ := eq_cons_of_append no_feed.1 shown
  obtain ⟨behind, rfl, -⟩ := eq_cons_of_append no_feed.2 others.symm
  exact ⟨behind, rfl⟩

theorem goesOn_readString : GoesOn readString readString := by
  intro text string rest read
  unfold readString at read
  split at read
  case h_1 behind =>
    obtain ⟨leaves, more⟩ :=
      goesOn_readLines_dropLineEnd (by decide : '"' ≠ '\n') (by decide) true behind _ _ read
    exact ⟨leaves.trans (List.suffix_append ['"', '"', '"'] behind), more⟩
  case h_2 behind =>
    obtain ⟨leaves, more⟩ :=
      goesOn_readLines_dropLineEnd (by decide : '\'' ≠ '\n') (by decide) false behind _ _ read
    exact ⟨leaves.trans (List.suffix_append ['\'', '\'', '\''] behind), more⟩
  case h_3 behind single =>
    obtain ⟨leaves, more⟩ := goesOn_readBasic 0 behind _ _ read
    refine ⟨leaves.trans (List.suffix_cons _ _), fun tail => ?_⟩
    rw [List.cons_append, readString.eq_3, more tail]
    intro others shown
    obtain ⟨others, rfl⟩ := eq_cons_cons_of_append (by decide) shown
    exact single others rfl
  case h_4 behind single =>
    obtain ⟨leaves, more⟩ := goesOn_readLiteral behind _ _ read
    refine ⟨leaves.trans (List.suffix_cons _ _), fun tail => ?_⟩
    rw [List.cons_append, readString.eq_4, more tail]
    intro others shown
    obtain ⟨others, rfl⟩ := eq_cons_cons_of_append (by decide) shown
    exact single others rfl
  case h_5 => cases read

/-! ## Bare words -/

theorem bareWord_append_lineFeed (text tail : Text) :
    bareWord (text ++ '\n' :: tail) = bareWord text := by
  have stops : isWordCharacter '\n' = false := rfl
  simp only [bareWord, takeWhile_append_lineFeed stops, drop_length_takeWhile_append]
  match text.drop (text.takeWhile isWordCharacter).length with
  | [] => rfl
  | [front] =>
    have no_digit : isDecimalDigit '\n' = false := rfl
    by_cases blank : front = ' '
    · subst blank
      simp [no_digit]
    · simp [blank]
  | front :: digit :: rest =>
    have run := takeWhile_append_lineFeed stops (digit :: rest) tail
    by_cases blank : front = ' '
    · subst blank
      simp only [List.cons_append] at run ⊢
      rw [run]
    · simp [blank]

theorem bareWord_isPrefix (text : Text) : bareWord text <+: text := by
  have front := List.takeWhile_prefix (l := text) isWordCharacter
  have whole := List.prefix_iff_eq_append.mp front
  simp only [bareWord]
  split
  case h_1 digit rest behind =>
    split
    · rw [behind] at whole
      have run := List.takeWhile_prefix (l := digit :: rest) isWordCharacter
      have inside := (List.prefix_append_right_inj (text.takeWhile isWordCharacter)).mpr
        ((List.prefix_cons_inj ' ').mpr run)
      rwa [whole] at inside
    · exact front
  case h_2 => exact front

/-- The value that a bare word writes. -/
def bareValue? (word : Text) : Option Value :=
  if word = "true".toList then some (.bool true)
  else if word = "false".toList then some (.bool false)
  else
    match integer? word with
    | some number => some (.integer number)
    | none => if isFloat word then some .float else if isMoment word then some .moment else none

theorem readBare_eq_map (text : Text) :
    readBare text =
      (bareValue? (bareWord text)).map fun value => (value, text.drop (bareWord text).length) := by
  unfold readBare bareValue?
  dsimp only
  generalize bareWord text = word
  split
  · rfl
  split
  · rfl
  cases integer? word with
  | some number => rfl
  | none =>
    dsimp only
    split
    · rfl
    split <;> rfl

theorem goesOn_readBare : GoesOn readBare readBare := by
  intro text value rest read
  rw [readBare_eq_map] at read
  obtain ⟨value, written, read⟩ := Option.map_eq_some_iff.mp read
  cases read
  refine ⟨List.drop_suffix _ text, fun tail => ?_⟩
  rw [readBare_eq_map, bareWord_append_lineFeed, written, Option.map_some,
    List.drop_append_of_le_length (bareWord_isPrefix text).length_le]

end Toml

end ScriptSanitizer
