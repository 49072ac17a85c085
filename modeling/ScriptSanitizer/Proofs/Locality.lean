import ScriptSanitizer.Proofs.Spelling

/-!
# Decoding in parts

An escape reads a backslash, a `u` and hexadecimal digits, and a reference an ampersand, a number or
a name of letters and digits, and a semicolon.  A text that starts with none of these stands apart:
nothing in front of it reads into it, so that it is decoded by itself, whatever is in front.  Where
it is enough to look at the first character of a text, both decoders together are local.
-/

namespace ScriptSanitizer

/-! ## Escapes -/

namespace UnicodeEscape

/-- No escape in front of the text reads into it. -/
def StandsApart (text : Text) : Prop :=
  ∀ character, text.head? = some character →
    character ≠ '\\' ∧ character ≠ 'u' ∧ isHexDigit character = false

variable {behind : Text}

theorem leadingUnit?_take (text : Text) : leadingUnit? (text.take 6) = leadingUnit? text := by
  match text with
  | [] => rfl
  | [_] => rfl
  | [_, _] => rfl
  | [_, _, _] => rfl
  | [_, _, _, _] => rfl
  | [_, _, _, _, _] => rfl
  | first :: second :: _ :: _ :: _ :: _ :: _ =>
      by_cases backslash : first = '\\'
      · by_cases marker : second = 'u'
        · subst backslash marker
          rfl
        · simp [leadingUnit?, marker]
      · simp [leadingUnit?, backslash]

/-- No escape that has begun goes on with the text; the text may start with an escape. -/
def EndsBefore (text : Text) : Prop :=
  ∀ character, text.head? = some character → character ≠ 'u' ∧ isHexDigit character = false

theorem leadingUnit?_append_of_begun (ends : EndsBefore behind) {text : Text} (begun : text ≠ []) :
    leadingUnit? (text ++ behind) = leadingUnit? text := by
  by_cases long : 6 ≤ text.length
  · rw [← leadingUnit?_take (text ++ behind), List.take_append_of_le_length long, leadingUnit?_take]
  · have alone : leadingUnit? text = none := by
      cases found : leadingUnit? text with
      | none => rfl
      | some unit => exact absurd (six_le_length_of_leadingUnit? found) long
    rw [alone]
    cases found : leadingUnit? (text ++ behind) with
    | none => rfl
    | some unit =>
        obtain ⟨a, b, c, d, rest, whole, digits⟩ := leadingUnit?_eq_some found
        obtain ⟨front, text, rfl⟩ := List.exists_cons_of_ne_nil begun
        have others : (text ++ behind).take 5 = ['u', a, b, c, d] :=
          congrArg (List.take 5) (List.cons.inj whole).2
        cases behind with
        | nil =>
            rw [List.append_nil] at found
            rw [alone] at found
            exact found.symm
        | cons head more =>
            -- The escape is longer than `text`, so it reads the first character behind.
            have member : head ∈ (text ++ head :: more).take 5 := by
              rw [List.length_cons] at long
              obtain ⟨further, length⟩ := Nat.exists_eq_add_of_lt (m := text.length) (n := 5)
                (by omega)
              rw [length, Nat.add_assoc, List.take_length_add_append, List.take_succ_cons]
              exact List.mem_append_right text List.mem_cons_self
            obtain ⟨no_marker, no_digit⟩ := ends head rfl
            rw [others, List.mem_cons] at member
            rcases member with marker | digit
            · exact absurd marker no_marker
            · rw [isHexDigit_of_codeUnit? digits head digit] at no_digit
              exact Bool.noConfusion no_digit

/-- A step within a text does not depend on what is behind it, unless the text ends in the first half
of a pair and the other half follows; and it ends within the text. -/
theorem step_append_of_begun (ends : EndsBefore behind) (front : Char) (rest : Text)
    (unpaired : rest.length = 5 → ∀ high low, leadingUnit? (front :: rest) = some high →
      leadingUnit? behind = some low → (isHighSurrogate high && isLowSurrogate low) = false) :
    step front (rest ++ behind) = step front rest ∧ (step front rest).2 ≤ rest.length := by
  have first_same : leadingUnit? (front :: (rest ++ behind)) = leadingUnit? (front :: rest) :=
    leadingUnit?_append_of_begun ends (List.cons_ne_nil front rest)
  rcases step_cases front rest with
    ⟨first, stepped⟩ | ⟨high, low, first, second, paired, stepped⟩ | ⟨unit, first, alone, stepped⟩
  · rw [stepped, step_of_none (first_same.trans first)]
    exact ⟨rfl, Nat.zero_le _⟩
  · have twelve := six_le_length_of_leadingUnit? second
    rw [List.length_drop] at twelve
    have five : 5 ≤ rest.length := by omega
    have begun : rest.drop 5 ≠ [] := List.ne_nil_of_length_pos (by rw [List.length_drop]; omega)
    have still_second : leadingUnit? ((rest ++ behind).drop 5) = some low := by
      rw [List.drop_append_of_le_length five, leadingUnit?_append_of_begun ends begun, second]
    rw [stepped, step_of_pair (first_same.trans first) still_second paired]
    exact ⟨rfl, by omega⟩
  · have six := six_le_length_of_leadingUnit? first
    rw [List.length_cons] at six
    have five : 5 ≤ rest.length := by omega
    have still_alone (low : Nat) (second : leadingUnit? ((rest ++ behind).drop 5) = some low) :
        (isHighSurrogate unit && isLowSurrogate low) = false := by
      rw [List.drop_append_of_le_length five] at second
      by_cases begun : rest.drop 5 = []
      · rw [begun, List.nil_append] at second
        exact unpaired (Nat.le_antisymm (List.drop_eq_nil_iff.mp begun) five) unit low first second
      · rw [leadingUnit?_append_of_begun ends begun] at second
        exact alone low second
    rw [stepped, step_of_unpaired (first_same.trans first) still_alone]
    unfold step.single
    rw [List.take_append_of_le_length five]
    cases scalar? unit with
    | some character => exact ⟨rfl, five⟩
    | none => exact ⟨rfl, five⟩

/-- A step within a text does not depend on what stands apart behind it, and ends within the
text. -/
theorem step_append (apart : StandsApart behind) (front : Char) (rest : Text) :
    step front (rest ++ behind) = step front rest ∧ (step front rest).2 ≤ rest.length := by
  refine step_append_of_begun (fun character head => (apart character head).2) front rest ?_
  intro _ high low _ second
  obtain ⟨a, b, c, d, more, rfl, _⟩ := leadingUnit?_eq_some second
  exact absurd rfl (apart '\\' rfl).1

/-- What stands apart is decoded by itself. -/
theorem decode_append_of_standsApart (apart : StandsApart behind) (text : Text) :
    decode (text ++ behind) = decode text ++ decode behind := by
  have parts : pieces (text ++ behind) = pieces text ++ pieces behind := by
    refine Scan.pieces_append (fun _ => True) (fun front rest _ => ?_) trivial
    obtain ⟨same, inside⟩ := step_append apart front rest
    exact ⟨same, inside, trivial⟩
  rw [decode, parts, List.flatMap_append]
  rfl

end UnicodeEscape

/-! ## References -/

namespace Entity

/-- No reference in front of the text reads into it, neither as the rest of a number nor as the rest
of a name. -/
structure StandsApart (text : Text) : Prop where
  /-- The text goes on with no number. -/
  number : ∀ character, text.head? = some character →
    character ≠ '#' ∧ character ≠ 'x' ∧ character ≠ 'X' ∧ isHexDigit character = false
  /-- The text goes on with no name. -/
  name : (text.dropWhile Char.isAlphanum).head? ≠ some ';'

/-- No reference in front of the text that has begun goes on in it: the text may start with what
makes an ampersand the beginning of a number, but not with more of a number or of a name. -/
structure EndsBefore (text : Text) : Prop where
  /-- The text goes on with no digit. -/
  digits : ∀ character, text.head? = some character → isHexDigit character = false
  /-- The text goes on with no name. -/
  name : (text.dropWhile Char.isAlphanum).head? ≠ some ';'

variable {behind : Text}

theorem StandsApart.endsBefore (apart : StandsApart behind) : EndsBefore behind where
  digits character head := (apart.number character head).2.2.2
  name := apart.name

theorem EndsBefore.head?_ne (ends : EndsBefore behind) : behind.head? ≠ some ';' := by
  cases behind with
  | nil => exact (Option.some_ne_none _).symm
  | cons head more =>
      intro closed
      obtain rfl := Option.some.inj closed
      exact ends.name rfl

theorem takeWhile_isHexDigit_append (ends : EndsBefore behind) (body : Text) :
    (body ++ behind).takeWhile isHexDigit = body.takeWhile isHexDigit := by
  induction body with
  | nil =>
      cases behind with
      | nil => rfl
      | cons head more =>
          have no_digit := ends.digits head rfl
          rw [List.nil_append, List.takeWhile_cons_of_neg (by simp [no_digit]), List.takeWhile_nil]
  | cons character body ih =>
      rw [List.cons_append, List.takeWhile_cons, List.takeWhile_cons, ih]

theorem numeral_append (ends : EndsBefore behind) (radix : Nat) (marker body : Text) :
    numeral radix marker (body ++ behind) = numeral radix marker body ∧
      (numeral radix marker body).2 ≤ (marker ++ body).length + 1 := by
  have digits_same := takeWhile_isHexDigit_append ends body
  generalize digits_eq : body.takeWhile isHexDigit = digits at digits_same
  have inside : digits.length ≤ body.length := by
    rw [← digits_eq]
    exact (List.takeWhile_prefix isHexDigit).length_le
  have closed_same : ((body ++ behind).drop digits.length).head? = some ';' ↔
      (body.drop digits.length).head? = some ';' := by
    rw [List.drop_append_of_le_length inside]
    cases body.drop digits.length with
    | nil => exact ⟨fun closed => absurd closed ends.head?_ne, nofun⟩
    | cons head more => rfl
  have written_inside := (written_isPrefix marker digits_eq).length_le
  constructor
  · unfold numeral
    simp only [digits_same, digits_eq, closed_same]
  · unfold numeral
    simp only [digits_eq]
    split
    case isTrue => exact Nat.zero_le _
    case isFalse =>
      split
      case h_1 => exact Nat.succ_le_succ written_inside
      case h_2 => exact Nat.zero_le _

theorem numeric_cons_append (ends : EndsBefore behind) (front : Char) (others : Text) :
    numeric (front :: others ++ behind) = numeric (front :: others) ∧
      (numeric (front :: others)).2 ≤ (front :: others).length + 1 := by
  by_cases marked : front = 'x' ∨ front = 'X'
  · rw [List.cons_append, numeric_of_marked marked, numeric_of_marked marked]
    exact numeral_append ends 16 [front] others
  · obtain ⟨no_lower, no_upper⟩ := not_or.mp marked
    rw [List.cons_append, numeric_of_unmarked ⟨no_lower, no_upper⟩,
      numeric_of_unmarked ⟨no_lower, no_upper⟩]
    exact numeral_append ends 10 [] (front :: others)

theorem numeric_append (apart : StandsApart behind) (tail : Text) :
    numeric (tail ++ behind) = numeric tail ∧ (numeric tail).2 ≤ tail.length + 1 := by
  cases tail with
  | nil =>
      have alone := numeral_append apart.endsBefore 10 [] []
      cases behind with
      | nil => exact alone
      | cons head more =>
          obtain ⟨_, no_lower, no_upper, _⟩ := apart.number head rfl
          rw [List.nil_append, numeric_of_unmarked ⟨no_lower, no_upper⟩]
          exact alone
  | cons front others => exact numeric_cons_append apart.endsBefore front others

/-- A run that ends within its text ends in front of a semicolon. -/
theorem exists_closed_of_takeWhile {text : Text}
    (closed : (text.takeWhile (· != ';')).length < text.length) :
    ∃ rest, text = text.takeWhile (· != ';') ++ ';' :: rest := by
  have split : text.takeWhile (· != ';') ++ text.dropWhile (· != ';') = text :=
    List.takeWhile_append_dropWhile
  cases behind : text.dropWhile (· != ';') with
  | nil =>
      rw [behind, List.append_nil] at split
      rw [split] at closed
      exact absurd closed (Nat.lt_irrefl _)
  | cons head rest =>
      have ended := List.head?_dropWhile_not (· != ';') text
      rw [behind] at ended
      have head_eq : head = ';' := by simpa using ended
      rw [behind, head_eq] at split
      exact ⟨rest, split.symm⟩

/-- A named reference reads a name of the table and the semicolon behind it, and without one the
ampersand stays. -/
theorem named_cases (tail : Text) :
    (named tail = (.plain '&', 0) ∧
        ∀ name rest, tail = name ++ ';' :: rest → lookup? name = none) ∨
      ∃ name character rest, tail = name ++ ';' :: rest ∧ lookup? name = some character := by
  by_cases exists_name : ∃ name character rest,
      tail = name ++ ';' :: rest ∧ lookup? name = some character
  · exact .inr exists_name
  · have no_name (name rest : Text) (split : tail = name ++ ';' :: rest) : lookup? name = none := by
      cases found : lookup? name with
      | none => rfl
      | some character => exact absurd ⟨name, character, rest, split, found⟩ exists_name
    refine .inl ⟨?_, no_name⟩
    have window_split : tail.take (longestName + 1) ++ tail.drop (longestName + 1) = tail :=
      List.take_append_drop _ _
    unfold named
    generalize tail.take (longestName + 1) = window at window_split
    simp only
    split
    case isFalse => rfl
    case isTrue closed =>
      obtain ⟨rest, window_eq⟩ := exists_closed_of_takeWhile closed
      have whole : tail = window.takeWhile (· != ';') ++
          ';' :: (rest ++ tail.drop (longestName + 1)) := by
        rw [← List.cons_append, ← List.append_assoc, ← window_eq, window_split]
      rw [no_name _ _ whole]

theorem named_append (ends : EndsBefore behind) (tail : Text) :
    named (tail ++ behind) = named tail ∧ (named tail).2 ≤ tail.length := by
  rcases named_cases tail with ⟨plain, no_name⟩ | ⟨name, character, rest, rfl, found⟩
  · rw [plain]
    refine ⟨?_, Nat.zero_le _⟩
    rcases named_cases (tail ++ behind) with ⟨plain', _⟩ | ⟨name, character, rest, split, found⟩
    · exact plain'
    · -- The semicolon stands behind `tail`, so the name goes on into the text behind.
      rcases List.append_eq_append_iff.mp split with
        ⟨more, name_eq, behind_eq⟩ | ⟨more, rfl, split'⟩
      · have letters : ∀ letter ∈ more, letter.isAlphanum = true := by
          intro letter member
          refine (alphanumeric_of_lookup? found).2 letter ?_
          rw [name_eq]
          exact List.mem_append_right tail member
        refine absurd ?_ ends.name
        rw [behind_eq, List.dropWhile_append_of_pos letters]
        rfl
      · cases more with
        | nil =>
            rw [List.nil_append] at split'
            refine absurd ?_ ends.head?_ne
            rw [← split']
            rfl
        | cons head more =>
            obtain ⟨rfl, _⟩ := List.cons.inj split'
            rw [no_name name more rfl] at found
            exact absurd found.symm (Option.some_ne_none character)
  · have longer : name ++ ';' :: rest ++ behind = name ++ ';' :: (rest ++ behind) := by
      rw [List.append_assoc, List.cons_append]
    rw [longer, named_closed found, named_closed found]
    refine ⟨rfl, ?_⟩
    rw [List.length_append, List.length_cons]
    dsimp only
    omega

/-- A step within a text does not depend on what stands apart behind it, and ends within the
text. -/
theorem step_append (apart : StandsApart behind) (front : Char) (rest : Text) :
    step front (rest ++ behind) = step front rest ∧ (step front rest).2 ≤ rest.length := by
  by_cases ampersand : front = '&'
  · subst ampersand
    by_cases numbered : ∃ tail, rest = '#' :: tail
    · obtain ⟨tail, rfl⟩ := numbered
      rw [List.cons_append, step_numeric, step_numeric]
      exact numeric_append apart tail
    · have not_numbered : rest.head? ≠ some '#' := by
        intro head
        obtain ⟨tail, rest_eq⟩ := List.head?_eq_some_iff.mp head
        exact numbered ⟨tail, rest_eq⟩
      have still_not_numbered : (rest ++ behind).head? ≠ some '#' := by
        cases rest with
        | nil => exact fun head => (apart.number '#' head).1 rfl
        | cons => exact not_numbered
      rw [step_named not_numbered, step_named still_not_numbered]
      exact named_append apart.endsBefore rest
  · rw [step_of_ne ampersand, step_of_ne ampersand]
    exact ⟨rfl, Nat.zero_le _⟩

/-- What stands apart is decoded by itself. -/
theorem decode_append_of_standsApart (apart : StandsApart behind) (text : Text) :
    decode (text ++ behind) = decode text ++ decode behind := by
  have parts : pieces (text ++ behind) = pieces text ++ pieces behind := by
    refine Scan.pieces_append (fun _ => True) (fun front rest _ => ?_) trivial
    obtain ⟨same, inside⟩ := step_append apart front rest
    exact ⟨same, inside, trivial⟩
  rw [decode, parts, List.flatMap_append]
  rfl

/-- A reference that has begun within a text, with more than the beginning of a number, does not
depend on what is behind it. -/
theorem step_append_of_begun (ends : EndsBefore behind) {front : Char} {rest : Text}
    (begun : front = '&' → rest ≠ [] ∧ rest ≠ ['#']) :
    step front (rest ++ behind) = step front rest ∧ (step front rest).2 ≤ rest.length := by
  by_cases ampersand : front = '&'
  · obtain ⟨written, numbered⟩ := begun ampersand
    subst ampersand
    obtain ⟨head, tail, rfl⟩ := List.exists_cons_of_ne_nil written
    by_cases hash : head = '#'
    · subst hash
      obtain ⟨digit, others, rfl⟩ :=
        List.exists_cons_of_ne_nil fun bare : tail = [] => numbered (by rw [bare])
      rw [List.cons_append, step_numeric, step_numeric]
      exact numeric_cons_append ends digit others
    · have no_number : (head :: tail).head? ≠ some '#' := fun same => hash (Option.some.inj same)
      have still_no_number : (head :: tail ++ behind).head? ≠ some '#' := no_number
      rw [step_named no_number, step_named still_no_number]
      exact named_append ends (head :: tail)
  · rw [step_of_ne ampersand, step_of_ne ampersand]
    exact ⟨rfl, Nat.zero_le _⟩

/-- Behind a letter a text is decoded by itself if it goes on with neither digits nor a name. -/
theorem decode_append_of_endsBefore (ends : EndsBefore behind) {letter : Char}
    (no_ampersand : letter ≠ '&') (no_hash : letter ≠ '#') (text : Text) :
    decode (text ++ [letter] ++ behind) = decode (text ++ [letter]) ++ decode behind := by
  have parts :
      pieces (text ++ [letter] ++ behind) = pieces (text ++ [letter]) ++ pieces behind := by
    refine Scan.pieces_append (· <:+ text ++ [letter]) (fun front rest inside => ?_)
      (List.suffix_refl _)
    have begun : front = '&' → rest ≠ [] ∧ rest ≠ ['#'] := by
      obtain ⟨before, split, _⟩ :=
        (List.suffix_concat_iff.mp inside).resolve_left (List.cons_ne_nil _ _)
      have last := congrArg List.getLast? split
      rw [List.getLast?_concat] at last
      rintro rfl
      constructor
      · rintro rfl
        exact no_ampersand (Option.some.inj last).symm
      · rintro rfl
        exact no_hash (Option.some.inj last).symm
    obtain ⟨same, bound⟩ := step_append_of_begun ends begun
    exact ⟨same, bound, (List.drop_suffix _ rest).trans
      ((List.suffix_cons front rest).trans inside)⟩
  rw [decode, parts, List.flatMap_append]
  rfl

/-- Nothing is decoded in front of the first ampersand. -/
theorem decode_append {front : Text} (no_ampersand : '&' ∉ front) (rest : Text) :
    decode (front ++ rest) = front ++ decode rest := by
  induction front with
  | nil => rfl
  | cons character front ih =>
      rw [List.cons_append, decode_cons_of_ne (List.ne_of_not_mem_cons no_ampersand).symm,
        ih (List.not_mem_of_not_mem_cons no_ampersand), List.cons_append]

end Entity

/-! ## Both decoders -/

/-- Hexadecimal digits are letters and digits. -/
theorem isAlphanum_of_isHexDigit {character : Char} (digit : isHexDigit character = true) :
    character.isAlphanum = true := by
  obtain ⟨value, found⟩ := Option.isSome_iff_exists.mp digit
  have kinds : character.isAlphanum =
      ((character.isUpper || character.isLower) || character.isDigit) := rfl
  rw [kinds, Bool.or_eq_true, Bool.or_eq_true]
  rcases Entity.hexDigit?_cases found with ⟨low, high, _⟩ | ⟨low, high, _⟩ | ⟨low, high, _⟩
  · exact .inr (Bool.and_eq_true_iff.mpr ⟨decide_eq_true low, decide_eq_true high⟩)
  · have letter : character ≤ 'z' := Char.le_trans high (by decide)
    exact .inl (.inr (Bool.and_eq_true_iff.mpr ⟨decide_eq_true low, decide_eq_true letter⟩))
  · have letter : character ≤ 'Z' := Char.le_trans high (by decide)
    exact .inl (.inl (decide_eq_true ⟨low, letter⟩))

/-- The text starts with no letter or digit of ASCII and with none of the signs that an escape or a
reference is written with behind its front; an ampersand may stand there, but no backslash, which
could begin the second half of a surrogate pair. -/
def StartsAfresh (text : Text) : Prop :=
  ∀ character, text.head? = some character →
    character.isAlphanum = false ∧ character ∉ ['#', ';', '\\']

namespace StartsAfresh

variable {text : Text}

theorem ne_of_isAlphanum (afresh : StartsAfresh text) {character letter : Char}
    (head : text.head? = some character) (alphanumeric : letter.isAlphanum = true) :
    character ≠ letter := by
  rintro rfl
  rw [(afresh character head).1] at alphanumeric
  exact Bool.noConfusion alphanumeric

theorem not_isHexDigit (afresh : StartsAfresh text) {character : Char}
    (head : text.head? = some character) : isHexDigit character = false := by
  apply eq_false_of_ne_true
  intro digit
  exact afresh.ne_of_isAlphanum head (isAlphanum_of_isHexDigit digit) rfl

theorem unicodeEscape_standsApart (afresh : StartsAfresh text) :
    UnicodeEscape.StandsApart text := by
  intro character head
  refine ⟨?_, afresh.ne_of_isAlphanum head rfl, afresh.not_isHexDigit head⟩
  rintro rfl
  exact (afresh _ head).2 (by decide)

theorem entity_standsApart (afresh : StartsAfresh text) : Entity.StandsApart text where
  number := by
    intro character head
    refine ⟨?_, afresh.ne_of_isAlphanum head rfl, afresh.ne_of_isAlphanum head rfl,
      afresh.not_isHexDigit head⟩
    rintro rfl
    exact (afresh _ head).2 (by decide)
  name := by
    cases text with
    | nil => simp
    | cons front rest =>
        obtain ⟨no_letter, no_sign⟩ := afresh front rfl
        rw [List.dropWhile_cons_of_neg (by simp [no_letter]), List.head?_cons]
        intro closes
        obtain rfl := Option.some.inj closes
        exact no_sign (by decide)

/-- Decoding the escapes leaves the first character. -/
theorem decode (afresh : StartsAfresh text) : StartsAfresh (UnicodeEscape.decode text) := by
  cases text with
  | nil => exact afresh
  | cons front rest =>
      have no_backslash : front ≠ '\\' := (afresh.unicodeEscape_standsApart front rfl).1
      rw [UnicodeEscape.decode_cons_of_ne no_backslash]
      intro character head
      exact afresh character head

end StartsAfresh

/-- Nothing at the end of a text reads into one that starts afresh, so the two are decoded apart. -/
theorem value_decodeLayers_append {behind : Text} (afresh : StartsAfresh behind) (text : Text) :
    (decodeLayers (text ++ behind)).value =
      (decodeLayers text).value ++ (decodeLayers behind).value := by
  simp only [value_decodeLayers]
  rw [UnicodeEscape.decode_append_of_standsApart afresh.unicodeEscape_standsApart,
    Entity.decode_append_of_standsApart afresh.decode.entity_standsApart]

/-- Half a surrogate pair and a number that goes on with no digit, in front of another number. -/
theorem value_decodeLayers_append_unfinished :
    StartsAfresh "&#x43;\\uDE00".toList ∧
      (decodeLayers ("\\uD83D&#x3".toList ++ "&#x43;\\uDE00".toList)).value =
        "\\uD83D\x03".toList ++ "C\\uDE00".toList := by
  have afresh : StartsAfresh "&#x43;\\uDE00".toList := by
    intro character head
    obtain rfl := Option.some.inj head
    decide
  refine ⟨afresh, (value_decodeLayers_append afresh _).trans ?_⟩
  decide +kernel

end ScriptSanitizer
