import ScriptSanitizer.Proofs.Toml.Scalars
import ScriptSanitizer.Toml.Parser

/-!
# Values in front of more lines

A value that is read from a text is what is read if more lines follow the text.  Blanks between the
parts of a value do reach behind a line feed, but no value is complete before what comes behind
them.
-/

namespace ScriptSanitizer

namespace Toml

variable {Result : Type}

/-- The text starts with a character that no line feed behind it turns into a line end. -/
def Solid (text : Text) : Prop := ∃ front rest, text = front :: rest ∧ front ≠ '\r'

/-! ## Blanks -/

theorem skipGap_append_lineFeed (text tail : Text) :
    skipGap (text ++ '\n' :: tail) = skipGap text ++ '\n' :: tail :=
  dropWhile_append_lineFeed rfl text tail

theorem suffix_skipGap (text : Text) : skipGap text <:+ text := List.dropWhile_suffix _

theorem solid_of_skipGap {text : Text} (solid : Solid (skipGap text)) : Solid text := by
  cases text with
  | nil => exact solid
  | cons front text =>
      refine ⟨front, text, rfl, ?_⟩
      rintro rfl
      obtain ⟨_, _, shown, no_return⟩ := solid
      exact no_return (List.cons.inj shown).1.symm

theorem skipSpaceFrom_cons {front : Char} (no_return : front ≠ '\r') (comment : Bool)
    (rest : Text) :
    skipSpaceFrom comment (front :: rest) =
      if front = '\n' then skipSpaceFrom false rest
      else if comment then if isPrintable front then skipSpaceFrom true rest else front :: rest
      else if isGap front then skipSpaceFrom false rest
      else if front = '#' then skipSpaceFrom true rest
      else front :: rest :=
  skipSpaceFrom.eq_3 comment front rest fun _ same => absurd same no_return

theorem suffix_skipSpaceFrom (comment : Bool) (text : Text) :
    skipSpaceFrom comment text <:+ text := by
  fun_induction skipSpaceFrom comment text with
  | case1 => exact List.suffix_refl _
  | case2 _ rest ih => exact ih.trans (List.suffix_append ['\r', '\n'] rest)
  | _ => first | exact List.suffix_refl _ | exact List.IsSuffix.trans ‹_› (List.suffix_cons _ _)

theorem skipSpaceFrom_append_lineFeed {comment : Bool} {text : Text}
    (solid : Solid (skipSpaceFrom comment text)) (tail : Text) :
    skipSpaceFrom comment (text ++ '\n' :: tail) = skipSpaceFrom comment text ++ '\n' :: tail := by
  -- A carriage return in front of the line feed would end a line together with it.  None is passed
  -- over alone, and none is left in front.
  fun_induction skipSpaceFrom comment text with
  | case1 =>
      obtain ⟨_, _, shown, -⟩ := solid
      cases shown
  | case2 _ rest ih => exact ih solid
  | case3 comment rest _ ih =>
      rw [List.cons_append, skipSpaceFrom_cons (by decide), if_pos rfl]
      exact ih solid
  | case4 front rest _ no_feed printable ih =>
      have no_return : front ≠ '\r' := by
        rintro rfl
        cases printable
      simp only [List.cons_append, skipSpaceFrom_cons no_return, no_feed, printable, ↓reduceIte]
      exact ih solid
  | case5 front rest _ no_feed not_printable =>
      obtain ⟨_, _, shown, no_return⟩ := solid
      cases shown
      simp only [List.cons_append, skipSpaceFrom_cons no_return, no_feed, not_printable, ↓reduceIte,
        Bool.false_eq_true]
  | case6 comment front rest _ no_feed no_comment gap ih =>
      have no_return : front ≠ '\r' := by
        rintro rfl
        cases gap
      simp only [List.cons_append, skipSpaceFrom_cons no_return, no_feed, no_comment, gap,
        ↓reduceIte]
      exact ih solid
  | case7 comment rest no_comment _ no_feed no_gap ih =>
      simp only [List.cons_append, skipSpaceFrom_cons (by decide : '#' ≠ '\r'), no_feed, no_comment,
        no_gap, ↓reduceIte]
      exact ih solid
  | case8 comment front rest _ no_feed no_comment no_gap no_mark =>
      obtain ⟨_, _, shown, no_return⟩ := solid
      cases shown
      simp only [List.cons_append, skipSpaceFrom_cons no_return, no_feed, no_comment, no_gap,
        no_mark, ↓reduceIte, Bool.false_eq_true]

theorem suffix_skipSpace (text : Text) : skipSpace text <:+ text := suffix_skipSpaceFrom false text

theorem skipSpace_append_lineFeed {text : Text} (solid : Solid (skipSpace text)) (tail : Text) :
    skipSpace (text ++ '\n' :: tail) = skipSpace text ++ '\n' :: tail :=
  skipSpaceFrom_append_lineFeed solid tail

/-- White space in front of a character that is no carriage return is passed over alike. -/
theorem skipSpace_append_of_eq_cons {text rest : Text} {front : Char}
    (shown : skipSpace text = front :: rest) (no_return : front ≠ '\r') (tail : Text) :
    skipSpace (text ++ '\n' :: tail) = front :: (rest ++ '\n' :: tail) := by
  rw [skipSpace_append_lineFeed ⟨front, rest, shown, no_return⟩, shown]
  rfl

/-! ## Keys -/

theorem goesOn_readSimpleKey : GoesOn readSimpleKey readSimpleKey := by
  intro text key rest read
  unfold readSimpleKey at read
  split at read
  case h_1 behind =>
    obtain ⟨leaves, more⟩ := goesOn_readBasic 0 behind _ _ read
    exact ⟨leaves.trans (List.suffix_cons _ _), more⟩
  case h_2 behind =>
    obtain ⟨leaves, more⟩ := goesOn_readLiteral behind _ _ read
    exact ⟨leaves.trans (List.suffix_cons _ _), more⟩
  case h_3 no_quote no_apostrophe =>
    have stops : isKeyCharacter '\n' = false := rfl
    dsimp only at read
    split at read
    case isTrue => cases read
    case isFalse present =>
      cases read
      refine ⟨List.drop_suffix _ text, fun tail => ?_⟩
      rw [readSimpleKey.eq_3 _ (append_ne_cons (by decide) no_quote tail)
          (append_ne_cons (by decide) no_apostrophe tail),
        takeWhile_append_lineFeed stops, if_neg present, drop_length_takeWhile_append]

theorem solid_of_readSimpleKey {text key rest : Text}
    (read : readSimpleKey text = some (key, rest)) : Solid text := by
  cases text with
  | nil => cases read
  | cons front text =>
      refine ⟨front, text, rfl, ?_⟩
      rintro rfl
      cases read

theorem goesOn_readKey {turns more : Nat} (enough : turns ≤ more) :
    GoesOn (readKey turns) (readKey more) := by
  intro text keys rest read
  induction turns generalizing more text keys with
  | zero => cases read
  | succ turns ih =>
      obtain ⟨more, rfl⟩ := Nat.exists_eq_succ_of_ne_zero (Nat.ne_zero_of_lt enough)
      obtain ⟨⟨key, behind⟩, first, read⟩ := Option.bind_eq_some_iff.mp read
      obtain ⟨leaves, first_more⟩ := goesOn_readSimpleKey _ _ _ first
      have within : skipGap behind <:+ text :=
        (suffix_skipGap behind).trans (leaves.trans (suffix_skipGap text))
      simp only [readKey, skipGap_append_lineFeed, first_more, Option.bind_eq_bind,
        Option.bind_some]
      dsimp only at read
      split at read
      case h_1 next dot =>
        obtain ⟨⟨others, _⟩, behind_dot, read⟩ := Option.bind_eq_some_iff.mp read
        cases read
        obtain ⟨leaves, others_more⟩ := ih (Nat.le_of_succ_le_succ enough) _ _ behind_dot
        rw [dot] at within ⊢
        refine ⟨leaves.trans ((List.suffix_cons _ _).trans within), fun tail => ?_⟩
        simp only [List.cons_append, others_more, Option.bind_some]
      case h_2 no_dot =>
        cases read
        refine ⟨within, fun tail => ?_⟩
        split
        case h_1 next dot => exact absurd dot (append_ne_cons (by decide) no_dot tail next)
        case h_2 => rfl

theorem solid_of_readKey {turns : Nat} {text rest : Text} {keys : List Text}
    (read : readKey turns text = some (keys, rest)) : Solid text := by
  cases turns with
  | zero => cases read
  | succ turns =>
      obtain ⟨⟨key, behind⟩, first, -⟩ := Option.bind_eq_some_iff.mp read
      exact solid_of_skipGap (solid_of_readSimpleKey first)

/-! ## Values -/

section

variable {read readMore : Text → Option (Result × Text)}

/-- Read the mark that closes a sequence, or else what stands in front of it. -/
def readClosing (close : Char) (result : Result) (read : Text → Option (Result × Text))
    (text : Text) : Option (Result × Text) :=
  match skipSpace text with
  | front :: rest => if front = close then some (result, rest) else read (front :: rest)
  | [] => read []

/-- Read a comma and what stands behind it. -/
def readComma (read : Text → Option (Result × Text)) (text : Text) : Option (Result × Text) :=
  match text with
  | ',' :: rest => read rest
  | _ => none

theorem readClosing_of_eq {close : Char} {result : Result} {text rest : Text}
    (shown : skipSpace text = close :: rest) :
    readClosing close result read text = some (result, rest) := by
  rw [readClosing, shown]
  exact if_pos rfl

theorem readClosing_of_ne {close : Char} {result : Result} {text : Text}
    (others : ∀ rest, skipSpace text ≠ close :: rest) :
    readClosing close result read text = read (skipSpace text) := by
  rw [readClosing]
  split
  case h_1 front rest shown =>
    rw [shown]
    refine if_neg ?_
    rintro rfl
    exact others rest shown
  case h_2 shown => rw [shown]

theorem readClosing_of_comma {close : Char} (no_comma : close ≠ ',') {result : Result}
    {text rest : Text} (shown : skipSpace text = ',' :: rest) :
    readClosing close result (readComma read) text = read rest := by
  rw [readClosing, shown]
  exact if_neg (Ne.symm no_comma)

theorem readClosing_of_ne_comma {close : Char} {result : Result} {text : Text}
    (no_close : ∀ rest, skipSpace text ≠ close :: rest)
    (no_comma : ∀ rest, skipSpace text ≠ ',' :: rest) :
    readClosing close result (readComma read) text = none :=
  (readClosing_of_ne no_close).trans (readComma.eq_2 _ _ no_comma)

theorem solid_of_readComma {text : Text} {outcome : Result × Text}
    (reads : readComma read text = some outcome) : Solid text := by
  unfold readComma at reads
  split at reads
  · exact ⟨',', _, rfl, by decide⟩
  · cases reads

theorem goesOn_readComma (goes_on : GoesOn read readMore) :
    GoesOn (readComma read) (readComma readMore) := by
  intro text result rest reads
  unfold readComma at reads
  split at reads
  case h_1 behind =>
    obtain ⟨leaves, more⟩ := goes_on _ _ _ reads
    exact ⟨leaves.trans (List.suffix_cons _ _), more⟩
  case h_2 => cases reads

theorem goesOn_readClosing {close : Char} (no_return : close ≠ '\r') (result : Result)
    (goes_on : GoesOn read readMore)
    (solid : ∀ {text outcome}, read text = some outcome → Solid text) :
    GoesOn (readClosing close result read) (readClosing close result readMore) := by
  intro text _ rest reads
  have within := suffix_skipSpace text
  unfold readClosing at reads
  split at reads
  case h_1 front behind shown =>
    rw [shown] at within
    split at reads
    case isTrue closing =>
      subst closing
      cases reads
      refine ⟨(List.suffix_cons _ _).trans within, fun tail => ?_⟩
      rw [readClosing, skipSpace_append_of_eq_cons shown no_return]
      exact if_pos rfl
    case isFalse not_closing =>
      obtain ⟨leaves, more⟩ := goes_on _ _ _ reads
      refine ⟨leaves.trans within, fun tail => ?_⟩
      have solid_front : Solid (skipSpace text) := shown ▸ solid reads
      rw [readClosing, skipSpace_append_lineFeed solid_front, shown]
      exact (if_neg not_closing).trans (more tail)
  case h_2 =>
    obtain ⟨_, _, shown, -⟩ := solid reads
    cases shown

end

theorem readItems_succ (read : Text → Option (Value × Text)) (turns : Nat) :
    readItems read (turns + 1) = readClosing ']' [] fun text =>
      (read text).bind fun outcome =>
        readClosing ']' [outcome.1] (readComma fun rest =>
          (readItems read turns rest).bind fun others =>
            some (outcome.1 :: others.1, others.2)) outcome.2 := by
  funext text
  simp only [readItems]
  split
  case h_1 closing => exact (readClosing_of_eq closing).symm
  case h_2 open_still =>
    rw [readClosing_of_ne open_still]
    refine bind_congr fun outcome => ?_
    split
    case h_1 closing => exact (readClosing_of_eq closing).symm
    case h_2 comma =>
      rw [readClosing_of_comma (by decide) comma]
      rfl
    case h_3 no_close no_comma => exact (readClosing_of_ne_comma no_close no_comma).symm

theorem readInline_succ (read : Text → Option (Value × Text)) (turns : Nat) (entries : Entries) :
    readInline read (turns + 1) entries = readClosing '\x7d' entries fun text =>
      (readEntry read text).bind fun outcome =>
        (entries.insert true outcome.1.1 outcome.1.2).bind fun entries =>
          readClosing '\x7d' entries (readComma (readInline read turns entries)) outcome.2 := by
  funext text
  simp only [readInline]
  split
  case h_1 closing => exact (readClosing_of_eq closing).symm
  case h_2 open_still =>
    rw [readClosing_of_ne open_still]
    refine bind_congr fun outcome => bind_congr fun entries => ?_
    split
    case h_1 closing => exact (readClosing_of_eq closing).symm
    case h_2 comma =>
      rw [readClosing_of_comma (by decide) comma]
    case h_3 no_close no_comma => exact (readClosing_of_ne_comma no_close no_comma).symm

section

variable {read : Text → Option (Value × Text)} (goes_on : GoesOn read read)
include goes_on

theorem goesOn_readEntry : GoesOn (readEntry read) (readEntry read) := by
  intro text entry rest reads
  obtain ⟨⟨keys, behind⟩, key, reads⟩ := Option.bind_eq_some_iff.mp reads
  dsimp only at reads
  split at reads
  case h_1 _ keys next shown =>
    obtain ⟨rfl, rfl⟩ := Prod.mk.inj shown
    obtain ⟨⟨value, _⟩, inner, reads⟩ := Option.bind_eq_some_iff.mp reads
    cases reads
    obtain ⟨key_leaves, key_more⟩ := GoesOn.of_turns goesOn_readKey _ _ _ key
    obtain ⟨leaves, inner_more⟩ := goes_on _ _ _ inner
    have within := (suffix_skipGap next).trans ((List.suffix_cons _ _).trans key_leaves)
    refine ⟨leaves.trans within, fun tail => ?_⟩
    simp only [readEntry, key_more, List.cons_append, skipGap_append_lineFeed, inner_more,
      Option.bind_eq_bind, Option.bind_some]
  case h_2 => cases reads

theorem goesOn_readInline {turns more : Nat} (enough : turns ≤ more) (entries : Entries) :
    GoesOn (readInline read turns entries) (readInline read more entries) := by
  induction turns generalizing more entries with
  | zero =>
      intro text result rest reads
      cases reads
  | succ turns ih =>
      obtain ⟨more, rfl⟩ := Nat.exists_eq_succ_of_ne_zero (Nat.ne_zero_of_lt enough)
      rw [readInline_succ, readInline_succ]
      refine goesOn_readClosing (by decide) entries ?_ fun reads => ?_
      · have behind (entries : Entries) :=
          goesOn_readClosing (by decide : '\x7d' ≠ '\r') entries
            (goesOn_readComma (ih (Nat.le_of_succ_le_succ enough) entries)) solid_of_readComma
        exact (goesOn_readEntry goes_on).bind fun entry =>
          .provided (entries.insert true entry.1 entry.2) behind
      · obtain ⟨_, entry, -⟩ := Option.bind_eq_some_iff.mp reads
        obtain ⟨_, key, -⟩ := Option.bind_eq_some_iff.mp entry
        exact solid_of_readKey key

theorem goesOn_readItems (solid : ∀ {text outcome}, read text = some outcome → Solid text)
    {turns more : Nat} (enough : turns ≤ more) :
    GoesOn (readItems read turns) (readItems read more) := by
  induction turns generalizing more with
  | zero =>
      intro text result rest reads
      cases reads
  | succ turns ih =>
      obtain ⟨more, rfl⟩ := Nat.exists_eq_succ_of_ne_zero (Nat.ne_zero_of_lt enough)
      rw [readItems_succ, readItems_succ]
      refine goesOn_readClosing (by decide) [] ?_ fun reads => ?_
      · have others (value : Value) := (ih (Nat.le_of_succ_le_succ enough)).bind fun others =>
          goesOn_some (value :: others)
        have behind (value : Value) :=
          goesOn_readClosing (by decide : ']' ≠ '\r') [value] (goesOn_readComma (others value))
            solid_of_readComma
        exact goes_on.bind behind
      · obtain ⟨_, first, -⟩ := Option.bind_eq_some_iff.mp reads
        exact solid first

end

theorem solid_of_readValueWith {inner : Option (Text → Option (Value × Text))} {text : Text}
    {outcome : Value × Text} (reads : readValueWith inner text = some outcome) : Solid text := by
  cases text with
  | nil => cases reads
  | cons front text =>
      refine ⟨front, text, rfl, ?_⟩
      rintro rfl
      cases reads

theorem goesOn_readValueWith {inner : Option (Text → Option (Value × Text))}
    (goes_on : ∀ read ∈ inner,
      GoesOn read read ∧ ∀ {text outcome}, read text = some outcome → Solid text) :
    GoesOn (readValueWith inner) (readValueWith inner) := by
  intro text value rest reads
  have written := goesOn_readString.bind fun string => goesOn_some (Value.string string)
  unfold readValueWith at reads
  split at reads
  case h_1 => exact written _ _ _ reads
  case h_2 => exact written _ _ _ reads
  case h_3 behind =>
    obtain ⟨read, rfl, inside⟩ := Option.bind_eq_some_iff.mp reads
    obtain ⟨read_on, solid⟩ := goes_on read rfl
    have array := (GoesOn.of_turns (goesOn_readItems read_on solid)).bind fun items =>
      goesOn_some (Value.array items)
    exact (array behind value rest inside).imp_left (·.trans (List.suffix_cons _ _))
  case h_4 behind =>
    obtain ⟨read, rfl, inside⟩ := Option.bind_eq_some_iff.mp reads
    obtain ⟨read_on, -⟩ := goes_on read rfl
    have entries_read := GoesOn.of_turns fun enough => goesOn_readInline read_on enough []
    have table := entries_read.bind fun entries => goesOn_some (Value.table .inline entries)
    exact (table behind value rest inside).imp_left (·.trans (List.suffix_cons _ _))
  case h_5 no_quote no_apostrophe no_bracket no_brace =>
    obtain ⟨leaves, more⟩ := goesOn_readBare _ _ _ reads
    refine ⟨leaves, fun tail => ?_⟩
    rw [readValueWith.eq_5 _ _ (append_ne_cons (by decide) no_quote tail)
        (append_ne_cons (by decide) no_apostrophe tail)
        (append_ne_cons (by decide) no_bracket tail) (append_ne_cons (by decide) no_brace tail),
      more]

theorem goesOn_readValue (depth : Nat) : GoesOn (readValue depth) (readValue depth) := by
  induction depth with
  | zero => exact goesOn_readValueWith fun _ none => absurd none (by simp)
  | succ depth ih =>
      refine goesOn_readValueWith fun read inner => ?_
      obtain rfl := Option.some.inj inner
      refine ⟨ih, fun reads => ?_⟩
      cases depth <;> exact solid_of_readValueWith reads

end Toml

end ScriptSanitizer
