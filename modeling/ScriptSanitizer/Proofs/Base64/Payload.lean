import Mathlib.Data.List.Infix
import ScriptSanitizer.Proofs.Base64.Blocks
import ScriptSanitizer.Proofs.Base64.RoundTrip

/-!
# The structure of payloads

A payload is a row of symbols, each with the blanks in front of it, and perhaps the padding of the
last group.  So it is read again as it was read, complete groups can be read apart from what follows
them, and more text behind can only make it longer.  It follows that a block is still the block that
it was when the text behind it is cut off.
-/

namespace ScriptSanitizer

namespace Base64

/-! ## Symbols with blanks in front of them -/

/-- Spaces and escapes of white space in a row. -/
inductive Blanks : Text → Prop where
  | nil : Blanks []
  | space {behind : Text} (others : Blanks behind) : Blanks (' ' :: behind)
  | escape {letter : Char} {behind : Text} (escapes : isBlankEscape letter = true)
      (others : Blanks behind) : Blanks ('\\' :: letter :: behind)

/-- Blanks with all escapes in lower case, which are those that a payload is decoded without. -/
inductive LowerBlanks : Text → Prop where
  | nil : LowerBlanks []
  | space {behind : Text} (others : LowerBlanks behind) : LowerBlanks (' ' :: behind)
  | escape {letter : Char} {behind : Text} (lower : letter ∈ ['f', 'n', 'r', 't'])
      (others : LowerBlanks behind) : LowerBlanks ('\\' :: letter :: behind)

/-- A symbol with the blanks in front of it. -/
def SpacedSymbol (stretch : Text) : Prop :=
  ∃ blanks character, stretch = blanks ++ [character] ∧ Blanks blanks ∧ isSymbol character = true

theorem Blanks.append {left right : Text} (first : Blanks left) (second : Blanks right) :
    Blanks (left ++ right) := by
  induction first with
  | nil => exact second
  | space _ ih => exact .space ih
  | escape escapes _ ih => exact .escape escapes ih

theorem LowerBlanks.blanks {blanks : Text} (run : LowerBlanks blanks) : Blanks blanks := by
  induction run with
  | nil => exact .nil
  | space _ ih => exact .space ih
  | escape lower _ ih =>
      refine .escape ?_ ih
      simp only [List.mem_cons, List.not_mem_nil, or_false] at lower
      rcases lower with rfl | rfl | rfl | rfl
      all_goals rfl

theorem LowerBlanks.compact_append {blanks : Text} (run : LowerBlanks blanks) (rest : Text) :
    compact (blanks ++ rest) = compact rest := by
  induction run with
  | nil => rfl
  | space _ ih =>
      rw [List.cons_append, compact, if_pos rfl, ih]
      exact fun _ _ space_is_backslash _ => absurd space_is_backslash (by decide)
  | escape lower _ ih =>
      rw [List.cons_append, List.cons_append, compact, if_pos, ih]
      simp only [List.mem_cons, List.not_mem_nil, or_false] at lower ⊢
      tauto

/-- No symbol stands in front of blanks. -/
theorem Blanks.isSymbol_head {blanks rest : Text} (run : Blanks blanks)
    (starts : ∀ character, rest.head? = some character → isSymbol character = false) :
    ∀ character, (blanks ++ rest).head? = some character → isSymbol character = false := by
  cases run with
  | nil => exact starts
  | space =>
      intro character head
      obtain rfl := Option.some.inj head
      rfl
  | escape =>
      intro character head
      obtain rfl := Option.some.inj head
      rfl

theorem symbolsFrom_blanks {blanks : Text} (run : Blanks blanks) (before rest : Text) :
    symbolsFrom before (blanks ++ rest) = symbolsFrom (before ++ blanks) rest := by
  induction run generalizing before with
  | nil => rw [List.nil_append, List.append_nil]
  | space _ ih =>
      rw [List.cons_append, symbolsFrom, ih, List.append_assoc, List.singleton_append]
  | escape escapes _ ih =>
      rw [List.cons_append, List.cons_append, symbolsFrom, if_pos escapes, ih, List.append_assoc]
      rfl

theorem symbolsFrom_spacedSymbol {stretch : Text} (spaced : SpacedSymbol stretch) (rest : Text) :
    symbolsFrom [] (stretch ++ rest) =
      (stretch :: (symbolsFrom [] rest).1, (symbolsFrom [] rest).2) := by
  obtain ⟨blanks, character, rfl, run, symbol⟩ := spaced
  rw [List.append_assoc, symbolsFrom_blanks run, List.nil_append, List.singleton_append,
    symbolsFrom_symbol symbol]

/-- A row of symbols is read as it stands, whatever follows it. -/
theorem symbolsFrom_flatten_append {symbols : List Text}
    (spaced : ∀ stretch ∈ symbols, SpacedSymbol stretch) (rest : Text) :
    symbolsFrom [] (symbols.flatten ++ rest) =
      (symbols ++ (symbolsFrom [] rest).1, (symbolsFrom [] rest).2) := by
  induction symbols with
  | nil => rfl
  | cons stretch symbols ih =>
      have behind := ih fun other member => spaced other (List.mem_cons_of_mem stretch member)
      rw [List.flatten_cons, List.append_assoc,
        symbolsFrom_spacedSymbol (spaced stretch List.mem_cons_self), behind]
      rfl

/-- Symbols alone have no blanks in front of them. -/
theorem spacedSymbol_of_isSymbol {symbols : Text}
    (each : ∀ character ∈ symbols, isSymbol character = true) :
    ∀ stretch ∈ symbols.map ([·]), SpacedSymbol stretch := by
  intro stretch member
  obtain ⟨character, present, rfl⟩ := List.mem_map.mp member
  exact ⟨[], character, rfl, .nil, each character present⟩

theorem flatten_map_singleton (symbols : Text) : (symbols.map ([·])).flatten = symbols := by
  rw [← List.flatMap_def]
  exact List.flatMap_singleton' symbols

theorem spacedSymbol_of_mem {blanks text : Text} (run : Blanks blanks) :
    ∀ stretch ∈ (symbolsFrom blanks text).1, SpacedSymbol stretch := by
  fun_induction symbolsFrom blanks text with
  | case1 blanks rest ih => exact ih (run.append (.space .nil))
  | case2 blanks letter rest escape ih => exact ih (run.append (.escape escape .nil))
  | case3 => simp
  | case4 blanks character rest _ _ symbol following ih =>
      intro stretch member
      rcases List.mem_cons.mp member with rfl | behind
      · exact ⟨blanks, character, rfl, run, symbol⟩
      · exact ih .nil stretch behind
  | case5 => simp
  | case6 => simp

/-- What is left behind the symbols of a text starts with none. -/
theorem isSymbol_head_symbolsFrom {blanks text : Text} (run : Blanks blanks) :
    ∀ character, (symbolsFrom blanks text).2.head? = some character →
      isSymbol character = false := by
  fun_induction symbolsFrom blanks text with
  | case1 blanks rest ih => exact ih (run.append (.space .nil))
  | case2 blanks letter rest escape ih => exact ih (run.append (.escape escape .nil))
  | case3 =>
      refine run.isSymbol_head fun character head => ?_
      obtain rfl := Option.some.inj head
      rfl
  | case4 blanks character rest _ _ symbol following ih => exact ih .nil
  | case5 blanks other rest _ _ no_symbol =>
      refine run.isSymbol_head fun character head => ?_
      obtain rfl := Option.some.inj head
      exact eq_false_of_ne_true no_symbol
  | case6 blanks =>
      have alone := @Blanks.isSymbol_head blanks [] run (by simp)
      rwa [List.append_nil] at alone

/-- More text behind only adds to the symbols. -/
theorem symbolsFrom_append_eq (text more : Text) :
    symbolsFrom [] (text ++ more) =
      ((symbolsFrom [] text).1 ++ (symbolsFrom [] ((symbolsFrom [] text).2 ++ more)).1,
        (symbolsFrom [] ((symbolsFrom [] text).2 ++ more)).2) := by
  have parts := symbolsFrom_flatten [] text
  rw [List.nil_append] at parts
  have again := symbolsFrom_flatten_append (@spacedSymbol_of_mem [] text .nil)
    ((symbolsFrom [] text).2 ++ more)
  rwa [← List.append_assoc, parts] at again

/-! ## Payloads -/

/-- A payload is a row of symbols that the padding completes, or all complete groups of a row. -/
theorem leadingPayload_cases (text : Text) :
    (∃ padding rest, (padding = ['='] ∨ padding = ['=', '=']) ∧
        (symbolsFrom [] text).2 = padding ++ rest ∧
        ((symbolsFrom [] text).1.length + padding.length) % 4 = 0 ∧
        leadingPayload text = (symbolsFrom [] text).1.flatten ++ padding) ∨
      leadingPayload text =
        ((symbolsFrom [] text).1.take ((symbolsFrom [] text).1.length / 4 * 4)).flatten := by
  unfold leadingPayload
  generalize symbolsFrom [] text = found
  obtain ⟨symbols, behind⟩ := found
  dsimp only
  split
  case h_1 rest two => exact .inl ⟨['=', '='], rest, .inr rfl, rfl, by simp; omega, rfl⟩
  case h_2 rest three => exact .inl ⟨['='], rest, .inl rfl, rfl, by simp; omega, rfl⟩
  case h_3 => exact .inr rfl

/-- Complete groups are read apart from what follows them. -/
theorem leadingPayload_flatten_append {symbols : List Text}
    (spaced : ∀ stretch ∈ symbols, SpacedSymbol stretch) (groups : symbols.length % 4 = 0)
    (rest : Text) :
    leadingPayload (symbols.flatten ++ rest) = symbols.flatten ++ leadingPayload rest := by
  obtain ⟨count, length⟩ := Nat.dvd_of_mod_eq_zero groups
  rw [leadingPayload, leadingPayload, symbolsFrom_flatten_append spaced]
  generalize symbolsFrom [] rest = found
  obtain ⟨others, behind⟩ := found
  have rounds : (symbols.length + others.length) / 4 * 4 =
      symbols.length + others.length / 4 * 4 := by omega
  have remaining : (symbols.length + others.length) % 4 = others.length % 4 := by omega
  dsimp only
  rw [List.length_append, remaining, rounds, List.take_length_add_append, List.flatten_append,
    List.flatten_append]
  split <;> simp only [List.append_assoc]

/-- Padding that completes a row ends the payload. -/
theorem leadingPayload_flatten_padding {symbols : List Text} {padding : Text}
    (spaced : ∀ stretch ∈ symbols, SpacedSymbol stretch)
    (padded : padding = ['='] ∨ padding = ['=', '='])
    (whole : (symbols.length + padding.length) % 4 = 0) (rest : Text) :
    leadingPayload (symbols.flatten ++ (padding ++ rest)) = symbols.flatten ++ padding := by
  have stops : symbolsFrom [] (padding ++ rest) = ([], padding ++ rest) := by
    rcases padded with rfl | rfl
    · rfl
    · rfl
  rw [leadingPayload, symbolsFrom_flatten_append spaced, stops, List.append_nil]
  rcases padded with rfl | rfl
  · have three : symbols.length % 4 = 3 := by simp at whole; omega
    simp only [three]
    rfl
  · have two : symbols.length % 4 = 2 := by simp at whole; omega
    simp only [two]
    rfl

/-- A row of symbols is a payload with the padding that completes its last group. -/
theorem leadingPayload_flatten_replicate {symbols : List Text} {count : Nat}
    (spaced : ∀ stretch ∈ symbols, SpacedSymbol stretch) (few : count ≤ 2)
    (whole : (symbols.length + count) % 4 = 0) :
    leadingPayload (symbols.flatten ++ List.replicate count '=') =
      symbols.flatten ++ List.replicate count '=' := by
  obtain rfl | rfl | rfl : count = 0 ∨ count = 1 ∨ count = 2 := by omega
  · exact leadingPayload_flatten_append spaced whole []
  · exact leadingPayload_flatten_padding spaced (.inl rfl) whole []
  · exact leadingPayload_flatten_padding spaced (.inr rfl) whole []

/-- A payload takes all of the base64 of a text. -/
theorem leadingPayload_encodeText (text : Text) :
    leadingPayload (encodeText text) = encodeText text := by
  obtain ⟨symbols, count, encoded, each, whole, few, _⟩ :=
    exists_symbols_encodeBytes (Utf8.encode text)
  have same : encodeText text = (symbols.map ([·])).flatten ++ List.replicate count '=' := by
    rw [flatten_map_singleton]
    exact encoded
  rw [same]
  exact leadingPayload_flatten_replicate (spacedSymbol_of_isSymbol each) few
    (by rwa [List.length_map])

/-- A payload is read again as it was read. -/
theorem leadingPayload_leadingPayload (text : Text) :
    leadingPayload (leadingPayload text) = leadingPayload text := by
  have spaced := @spacedSymbol_of_mem [] text .nil
  rcases leadingPayload_cases text with ⟨padding, _, padded, _, whole, payload⟩ | payload
  · have again := leadingPayload_flatten_padding spaced padded whole []
    rwa [List.append_nil, ← payload] at again
  · have groups : ((symbolsFrom [] text).1.take
        ((symbolsFrom [] text).1.length / 4 * 4)).length % 4 = 0 := by
      rw [List.length_take]
      omega
    have again := leadingPayload_flatten_append
      (fun stretch member => spaced stretch (List.mem_of_mem_take member)) groups []
    rw [List.append_nil, ← payload] at again
    exact again.trans (List.append_nil _)

/-- More text behind can only make a payload longer. -/
theorem leadingPayload_isPrefix_append (text more : Text) :
    leadingPayload text <+: leadingPayload (text ++ more) := by
  rcases leadingPayload_cases text with ⟨padding, rest, padded, left, whole, payload⟩ | payload
  · have parts := symbolsFrom_flatten [] text
    have ended := leadingPayload_flatten_padding (@spacedSymbol_of_mem [] text .nil) padded whole
      (rest ++ more)
    rw [← List.append_assoc padding, ← left, ← List.append_assoc, parts, List.nil_append,
      ← payload] at ended
    rw [ended]
  · have more_symbols : (symbolsFrom [] text).1 <+: (symbolsFrom [] (text ++ more)).1 := by
      rw [symbolsFrom_append_eq]
      exact List.prefix_append _ _
    rw [payload]
    generalize (symbolsFrom [] text).1 = symbols at more_symbols
    rcases leadingPayload_cases (text ++ more) with ⟨padding, _, _, _, _, payload'⟩ | payload'
    · rw [payload']
      exact List.prefix_append_of_prefix ((List.take_prefix _ symbols).trans more_symbols).flatten
    · rw [payload']
      refine List.IsPrefix.flatten ?_
      have count := more_symbols.length_le
      have groups : symbols.length / 4 * 4 ≤ (symbolsFrom [] (text ++ more)).1.length / 4 * 4 := by
        omega
      exact (more_symbols.take _).trans (List.take_prefix_take_left groups)

/-- Cutting off what is behind a payload does not change it. -/
theorem leadingPayload_of_isPrefix {text more : Text}
    (inside : leadingPayload (text ++ more) <+: text) :
    leadingPayload text = leadingPayload (text ++ more) := by
  have shorter := leadingPayload_isPrefix_append text more
  obtain ⟨behind, split⟩ := inside
  have again := leadingPayload_isPrefix_append (leadingPayload (text ++ more)) behind
  rw [leadingPayload_leadingPayload, split] at again
  exact shorter.eq_of_length_le again.length_le

theorem not_mem_of_blanks {blanks : Text} (run : Blanks blanks) {character : Char}
    (no_symbol : isSymbol character = false) (no_space : character ≠ ' ')
    (no_backslash : character ≠ '\\') : character ∉ blanks := by
  induction run with
  | nil => exact List.not_mem_nil
  | space _ ih => exact List.not_mem_cons_of_ne_of_not_mem no_space ih
  | @escape letter _ escapes _ ih =>
      have no_letter : character ≠ letter := by
        rintro rfl
        have letters : ['f', 'r', 'n', 't', 'F', 'R', 'N', 'T'].all isSymbol = true := rfl
        rw [List.all_eq_true.mp letters character (of_decide_eq_true escapes)] at no_symbol
        exact Bool.noConfusion no_symbol
      exact List.not_mem_cons_of_ne_of_not_mem no_backslash
        (List.not_mem_cons_of_ne_of_not_mem no_letter ih)

/-- A payload consists of symbols, blanks and padding. -/
theorem not_mem_leadingPayload {character : Char} (text : Text)
    (no_symbol : isSymbol character = false) (no_sign : character ∉ [' ', '\\', '=']) :
    character ∉ leadingPayload text := by
  simp only [List.mem_cons, List.not_mem_nil, or_false, not_or] at no_sign
  obtain ⟨no_space, no_backslash, no_padding⟩ := no_sign
  have no_spaced : ∀ stretch, SpacedSymbol stretch → character ∉ stretch := by
    rintro _ ⟨blanks, symbol, rfl, run, is_symbol⟩ member
    rcases List.mem_append.mp member with blank | last
    · exact not_mem_of_blanks run no_symbol no_space no_backslash blank
    · obtain rfl := List.mem_singleton.mp last
      rw [is_symbol] at no_symbol
      exact Bool.noConfusion no_symbol
  have no_row : character ∉ (symbolsFrom [] text).1.flatten := by
    intro member
    obtain ⟨stretch, present, inside⟩ := List.mem_flatten.mp member
    exact no_spaced stretch (spacedSymbol_of_mem .nil stretch present) inside
  rcases leadingPayload_cases text with ⟨padding, _, padded, _, _, payload⟩ | payload
  · rw [payload]
    refine List.not_mem_append no_row ?_
    rcases padded with rfl | rfl
    · simpa using no_padding
    · simpa using no_padding
  · rw [payload]
    exact fun member => no_row ((List.take_prefix _ _).flatten.subset member)

/-! ## Markers -/

/-- The word of a marker, in any case. -/
def isMarkerWord (word : Text) : Bool :=
  word.length = 6 && (List.zipWith writesLetter ['b', 'a', 's', 'e', '6', '4'] word).all id

theorem isMarkerWord_length {word : Text} (read : isMarkerWord word = true) : word.length = 6 := by
  simp only [isMarkerWord, Bool.and_eq_true, decide_eq_true_eq] at read
  exact read.1

theorem isBlank_head_dropWhile (text : Text) :
    ∀ character, (text.dropWhile isBlank).head? = some character → isBlank character = false := by
  intro character head
  have ended := List.head?_dropWhile_not isBlank text
  rw [head] at ended
  simpa using ended

/-- A marker is the word, blanks, a comma and all the blanks behind it. -/
theorem leadingMarker?_eq_some_iff {text marker : Text} :
    leadingMarker? text = some marker ↔
      ∃ word before after rest, text = word ++ (before ++ ',' :: (after ++ rest)) ∧
        marker = word ++ (before ++ ',' :: after) ∧ isMarkerWord word = true ∧
        (∀ character ∈ before, isBlank character = true) ∧
        (∀ character ∈ after, isBlank character = true) ∧
        ∀ character, rest.head? = some character → isBlank character = false := by
  constructor
  · intro found
    simp only [leadingMarker?] at found
    split at found
    case isFalse => simp at found
    case isTrue word_read =>
      split at found
      case h_2 => simp at found
      case h_1 tail comma =>
        obtain rfl := Option.some.inj found
        refine ⟨text.take 6, (text.drop 6).takeWhile isBlank, tail.takeWhile isBlank,
          tail.dropWhile isBlank, ?_, List.append_assoc _ _ _, word_read, ?_, ?_,
          isBlank_head_dropWhile tail⟩
        · have before_tail : (text.drop 6).takeWhile isBlank ++ ',' :: tail = text.drop 6 := by
            rw [← comma]
            exact List.prefix_iff_eq_append.mp (List.takeWhile_prefix isBlank)
          rw [List.takeWhile_append_dropWhile, before_tail, List.take_append_drop]
        · exact List.all_eq_true.mp List.all_takeWhile
        · exact List.all_eq_true.mp List.all_takeWhile
  · rintro ⟨word, before, after, rest, rfl, rfl, word_read, before_blank, after_blank, ended⟩
    have six := isMarkerWord_length word_read
    have before_run : (before ++ ',' :: (after ++ rest)).takeWhile isBlank = before := by
      rw [List.takeWhile_append_of_pos before_blank, List.takeWhile_cons]
      exact List.append_nil before
    have after_run : (after ++ rest).takeWhile isBlank = after := by
      rw [List.takeWhile_append_of_pos after_blank]
      cases rest with
      | nil => exact List.append_nil after
      | cons head rest =>
          rw [List.takeWhile_cons, ended head rfl]
          exact List.append_nil after
    unfold isMarkerWord at word_read
    simp only [leadingMarker?, ← six, List.take_left, List.drop_left] at word_read ⊢
    simp only [word_read, before_run, after_run, ↓reduceIte, List.drop_left, List.append_assoc]

theorem isSymbol_of_writesLetter {letter character : Char} (symbol : isSymbol letter = true)
    (writes : writesLetter letter character = true) : isSymbol character = true := by
  rw [writesLetter, Bool.or_eq_true, beq_iff_eq, Bool.and_eq_true, beq_iff_eq, beq_iff_eq] at writes
  rcases writes with lower | ⟨_, rfl⟩
  · unfold Char.toLower at lower
    split at lower
    case isTrue upper =>
      have is_upper : character.isUpper = true := decide_eq_true upper
      have alphanumeric : character.isAlphanum = true :=
        Bool.or_eq_true_iff.mpr (.inl (Bool.or_eq_true_iff.mpr (.inl is_upper)))
      simp only [isSymbol, alphanumeric, Bool.true_or]
    case isFalse =>
      rwa [lower]
  · rfl

theorem isSymbol_of_mem_markerWord {word : Text} (read : isMarkerWord word = true) :
    ∀ character ∈ word, isSymbol character = true := by
  have six := isMarkerWord_length read
  rw [isMarkerWord, Bool.and_eq_true] at read
  match word, six with
  | [first, second, third, fourth, fifth, sixth], _ =>
      simp only [List.zipWith_cons_cons, List.zipWith_nil_left, List.all_cons, id_eq,
        Bool.and_eq_true] at read
      simp only [List.forall_mem_cons]
      obtain ⟨_, writes_first, writes_second, writes_third, writes_fourth, writes_fifth,
        writes_sixth, _⟩ := read
      exact ⟨isSymbol_of_writesLetter rfl writes_first, isSymbol_of_writesLetter rfl writes_second,
        isSymbol_of_writesLetter rfl writes_third, isSymbol_of_writesLetter rfl writes_fourth,
        isSymbol_of_writesLetter rfl writes_fifth, isSymbol_of_writesLetter rfl writes_sixth,
        List.forall_mem_nil _⟩

/-- Cutting off what is behind a marker does not change it. -/
theorem leadingMarker?_of_isPrefix {text more marker : Text}
    (found : leadingMarker? (text ++ more) = some marker) (inside : marker <+: text) :
    leadingMarker? text = some marker := by
  obtain ⟨word, before, after, rest, split, rfl, word_read, before_blank, after_blank, ended⟩ :=
    leadingMarker?_eq_some_iff.mp found
  obtain ⟨behind, rfl⟩ := inside
  have rest_eq : behind ++ more = rest := by
    simpa only [List.append_assoc, List.append_cancel_left_eq, List.cons_append,
      List.cons.injEq, true_and] using split
  refine leadingMarker?_eq_some_iff.mpr ⟨word, before, after, behind, ?_, rfl, word_read,
    before_blank, after_blank, fun character head => ended character ?_⟩
  · simp only [List.append_assoc, List.cons_append]
  · rw [← rest_eq, List.head?_append, head]
    rfl

/-- A marker in front of a text is one in front of any longer text, up to blanks behind it. -/
theorem leadingMarker?_append_isSome {text marker : Text}
    (found : leadingMarker? text = some marker) (more : Text) :
    (leadingMarker? (text ++ more)).isSome = true := by
  obtain ⟨word, before, after, rest, rfl, _, word_read, before_blank, after_blank, _⟩ :=
    leadingMarker?_eq_some_iff.mp found
  have longer : leadingMarker? (word ++ (before ++ ',' :: (after ++ rest)) ++ more) =
      some (word ++ (before ++ ',' :: (after ++ (rest ++ more).takeWhile isBlank))) := by
    refine leadingMarker?_eq_some_iff.mpr ⟨word, before,
      after ++ (rest ++ more).takeWhile isBlank, (rest ++ more).dropWhile isBlank, ?_, rfl,
      word_read, before_blank, ?_, isBlank_head_dropWhile (rest ++ more)⟩
    · simp only [List.append_assoc, List.cons_append, List.takeWhile_append_dropWhile]
    · exact List.forall_mem_append.mpr ⟨after_blank, List.all_eq_true.mp List.all_takeWhile⟩
  rw [longer]
  rfl

/-! ## Blocks -/

theorem leadingBlock?_isSome_iff {text : Text} :
    (leadingBlock? text).isSome = true ↔ (leadingMarker? text).isSome = true := by
  rw [leadingBlock?, Option.isSome_map]

theorem leadingBlock?_append_isSome {text : Text} {block : Block}
    (found : leadingBlock? text = some block) (more : Text) :
    (leadingBlock? (text ++ more)).isSome = true := by
  obtain ⟨marker, marked, _⟩ := Option.map_eq_some_iff.mp found
  exact leadingBlock?_isSome_iff.mpr (leadingMarker?_append_isSome marked more)

/-- Cutting off what is behind a block does not change it. -/
theorem leadingBlock?_of_isPrefix {text more : Text} {block : Block}
    (found : leadingBlock? (text ++ more) = some block) (inside : block.text <+: text) :
    leadingBlock? text = some block := by
  obtain ⟨marker, marked, rfl⟩ := Option.map_eq_some_iff.mp found
  have marker_inside : marker <+: text := (List.prefix_append _ _).trans inside
  have marked_again := leadingMarker?_of_isPrefix marked marker_inside
  obtain ⟨behind, rfl⟩ := marker_inside
  rw [List.append_assoc, List.drop_left] at inside ⊢
  rw [Block.text] at inside
  have payload_inside : leadingPayload (behind ++ more) <+: behind :=
    (List.prefix_append_right_inj marker).mp inside
  rw [leadingBlock?, marked_again, Option.map_some, List.drop_left,
    leadingPayload_of_isPrefix payload_inside]

/-- There is no NUL in a block. -/
theorem nul_not_mem_leadingBlock? {text : Text} {block : Block}
    (found : leadingBlock? text = some block) : '\x00' ∉ block.text := by
  obtain ⟨marker, marked, rfl⟩ := Option.map_eq_some_iff.mp found
  obtain ⟨word, before, after, _, _, rfl, word_read, before_blank, after_blank, _⟩ :=
    leadingMarker?_eq_some_iff.mp marked
  have no_word : '\x00' ∉ word := fun member =>
    absurd (isSymbol_of_mem_markerWord word_read _ member) (by decide)
  have no_before : '\x00' ∉ before := fun member =>
    absurd (before_blank _ member) (by decide)
  have no_after : '\x00' ∉ after := fun member =>
    absurd (after_blank _ member) (by decide)
  have no_payload : '\x00' ∉ leadingPayload
      (text.drop (word ++ (before ++ ',' :: after)).length) :=
    not_mem_leadingPayload _ (by decide) (by decide)
  rw [Block.text]
  simp only [List.mem_append, List.mem_cons, not_or]
  exact ⟨⟨no_word, no_before, by decide, no_after⟩, no_payload⟩

end Base64

end ScriptSanitizer
