import ScriptSanitizer.Proofs.Computation
import ScriptSanitizer.Proofs.Text.Scan

/-!
# Decoding

A text without backslashes has no escapes in it, and one without ampersands no references, so
neither changes when it is decoded.  And no text becomes longer, as no character takes more bytes
than an escape or a reference that stands for it: an escape has six characters and none takes more
than four bytes, a numeric reference has three characters at least and four if its number has two
digits, and the names of the table are long enough for their characters.
-/

namespace ScriptSanitizer

theorem toNat_of_scalar? {code : Nat} {character : Char} (found : scalar? code = some character) :
    character.toNat = code := by
  by_cases valid : code.isValidChar
  · rw [scalar?, dif_pos valid] at found
    obtain rfl := Option.some.inj found
    rfl
  · rw [scalar?, dif_neg valid] at found
    exact absurd found.symm (Option.some_ne_none character)

theorem utf8Size_eq_one_of_lt {character : Char} (ascii : character.toNat < 0x80) :
    character.utf8Size = 1 := by
  have code : character.val.toNat < 0x80 := ascii
  have small : character.val ≤ 0x7F := UInt32.le_iff_toNat_le.mpr (by simpa using by omega)
  simp [Char.utf8Size, small]

/-! ## Escapes -/

namespace UnicodeEscape

/-- An escape is a backslash, a `u` and four hexadecimal digits. -/
theorem leadingUnit?_eq_some {text : Text} {unit : Nat} (found : leadingUnit? text = some unit) :
    ∃ a b c d rest, text = '\\' :: 'u' :: a :: b :: c :: d :: rest ∧
      codeUnit? a b c d = some unit := by
  unfold leadingUnit? at found
  split at found
  case h_1 a b c d rest => exact ⟨a, b, c, d, rest, rfl, found⟩
  case h_2 => simp at found

theorem six_le_length_of_leadingUnit? {text : Text} {unit : Nat}
    (found : leadingUnit? text = some unit) : 6 ≤ text.length := by
  obtain ⟨a, b, c, d, rest, rfl, _⟩ := leadingUnit?_eq_some found
  simp only [List.length_cons]
  omega

theorem step_of_none {front : Char} {rest : Text}
    (absent : leadingUnit? (front :: rest) = none) : step front rest = (.plain front, 0) := by
  rw [step, absent]

theorem step_of_pair {front : Char} {rest : Text} {high low : Nat}
    (first : leadingUnit? (front :: rest) = some high)
    (second : leadingUnit? (rest.drop 5) = some low)
    (paired : (isHighSurrogate high && isLowSurrogate low) = true) :
    step front rest = (.decoded (Char.ofNat (combine high low)), 11) := by
  rw [step, first]
  simp only [second, paired, ↓reduceIte]

theorem step_of_unpaired {front : Char} {rest : Text} {unit : Nat}
    (first : leadingUnit? (front :: rest) = some unit)
    (alone : ∀ low, leadingUnit? (rest.drop 5) = some low →
      (isHighSurrogate unit && isLowSurrogate low) = false) :
    step front rest = step.single front rest unit := by
  rw [step, first]
  cases second : leadingUnit? (rest.drop 5) with
  | none => rfl
  | some low => simp only [alone low second, Bool.false_eq_true, ↓reduceIte]

/-- A step finds no escape, the escapes of a surrogate pair, or an escape that is read by itself. -/
theorem step_cases (front : Char) (rest : Text) :
    (leadingUnit? (front :: rest) = none ∧ step front rest = (.plain front, 0)) ∨
      (∃ high low, leadingUnit? (front :: rest) = some high ∧
        leadingUnit? (rest.drop 5) = some low ∧
        (isHighSurrogate high && isLowSurrogate low) = true ∧
        step front rest = (.decoded (Char.ofNat (combine high low)), 11)) ∨
      ∃ unit, leadingUnit? (front :: rest) = some unit ∧
        (∀ low, leadingUnit? (rest.drop 5) = some low →
          (isHighSurrogate unit && isLowSurrogate low) = false) ∧
        step front rest = step.single front rest unit := by
  cases first : leadingUnit? (front :: rest) with
  | none => exact .inl ⟨rfl, step_of_none first⟩
  | some unit =>
      by_cases pair : ∃ low, leadingUnit? (rest.drop 5) = some low ∧
          (isHighSurrogate unit && isLowSurrogate low) = true
      · obtain ⟨low, second, paired⟩ := pair
        exact .inr (.inl ⟨unit, low, rfl, second, paired, step_of_pair first second paired⟩)
      · have alone (low : Nat) (second : leadingUnit? (rest.drop 5) = some low) :
            (isHighSurrogate unit && isLowSurrogate low) = false :=
          eq_false_of_ne_true fun paired => pair ⟨low, second, paired⟩
        exact .inr (.inr ⟨unit, rfl, alone, step_of_unpaired first alone⟩)

/-- A character that stands for four characters or more does not lengthen the text. -/
theorem byteLength_decoded_le (character front : Char) {rest : Text} {width : Nat}
    (wide : 3 ≤ width) (inside : width ≤ rest.length) :
    Utf8.byteLength (Piece.decoded character).text ≤
      Utf8.byteLength (front :: rest.take width) := by
  have size := character.utf8Size_le_four
  have long := Utf8.length_le_byteLength (front :: rest.take width)
  rw [List.length_cons, List.length_take] at long
  simp only [Piece.text, Utf8.byteLength_cons, Utf8.byteLength_nil] at long ⊢
  omega

theorem byteLength_single_le (front : Char) {rest : Text} (unit : Nat) (six : 5 ≤ rest.length) :
    Utf8.byteLength (step.single front rest unit).1.text ≤
      Utf8.byteLength (front :: rest.take (step.single front rest unit).2) := by
  unfold step.single
  split
  case h_1 character _ => exact byteLength_decoded_le character front (by omega) six
  case h_2 => exact Nat.le_refl _

theorem byteLength_step_le (front : Char) (rest : Text) :
    Utf8.byteLength (step front rest).1.text ≤
      Utf8.byteLength (front :: rest.take (step front rest).2) := by
  rcases step_cases front rest with
    ⟨_, stepped⟩ | ⟨high, low, _, second, _, stepped⟩ | ⟨unit, first, _, stepped⟩
  · rw [stepped]
    exact Nat.le_refl _
  · have twelve := six_le_length_of_leadingUnit? second
    rw [List.length_drop] at twelve
    rw [stepped]
    exact byteLength_decoded_le _ front (by omega) (by omega)
  · have six := six_le_length_of_leadingUnit? first
    rw [List.length_cons] at six
    rw [stepped]
    exact byteLength_single_le front unit (by omega)

theorem byteLength_decode_le (text : Text) :
    Utf8.byteLength (decode text) ≤ Utf8.byteLength text :=
  Scan.byteLength_flatMap_pieces_le byteLength_step_le text

/-- The piece stands for a character that is written as a code. -/
def Piece.IsDecoded (piece : Piece) : Prop := ∃ character, piece = .decoded character

/-- A step decodes a character or keeps what it reads. -/
theorem decoded_or_kept_step (front : Char) (rest : Text) :
    (step front rest).1.IsDecoded ∨
      (step front rest).1.text = front :: rest.take (step front rest).2 := by
  rcases step_cases front rest with ⟨_, stepped⟩ | ⟨_, _, _, _, _, stepped⟩ | ⟨unit, _, _, stepped⟩
  · exact .inr (by rw [stepped]; rfl)
  · exact .inl ⟨_, by rw [stepped]⟩
  · rw [stepped]
    unfold step.single
    split
    case h_1 character _ => exact .inl ⟨character, rfl⟩
    case h_2 => exact .inr rfl

theorem length_decode_le (text : Text) : (decode text).length ≤ text.length := by
  refine Scan.length_flatMap_pieces_le ?_ decoded_or_kept_step text
  rintro _ ⟨character, rfl⟩
  exact Nat.le_refl 1

theorem decode_cons (front : Char) (rest : Text) :
    decode (front :: rest) =
      (step front rest).1.text ++ decode (rest.drop (step front rest).2) := by
  rw [decode, pieces, Scan.pieces_cons]
  rfl

theorem leadingUnit?_eq_none {front : Char} (other : front ≠ '\\') (rest : Text) :
    leadingUnit? (front :: rest) = none := by
  cases found : leadingUnit? (front :: rest) with
  | none => rfl
  | some unit =>
      obtain ⟨_, _, _, _, _, same, _⟩ := leadingUnit?_eq_some found
      exact absurd (List.cons.inj same).1 other

/-- A character other than the backslash stays. -/
theorem decode_cons_of_ne {front : Char} (other : front ≠ '\\') (rest : Text) :
    decode (front :: rest) = front :: decode rest := by
  rw [decode_cons, step_of_none (leadingUnit?_eq_none other rest)]
  rfl

/-- Nothing is decoded in front of the first backslash. -/
theorem decode_append {front : Text} (no_backslash : '\\' ∉ front) (rest : Text) :
    decode (front ++ rest) = front ++ decode rest := by
  induction front with
  | nil => rfl
  | cons character front ih =>
      rw [List.cons_append, decode_cons_of_ne (List.ne_of_not_mem_cons no_backslash).symm,
        ih (List.not_mem_of_not_mem_cons no_backslash), List.cons_append]

theorem pieces_eq_map {text : Text} (no_backslash : '\\' ∉ text) :
    pieces text = text.map Piece.plain := by
  refine Scan.pieces_eq_map fun front member rest => step_of_none (leadingUnit?_eq_none ?_ rest)
  rintro rfl
  exact no_backslash member

theorem decode_eq_self {text : Text} (no_backslash : '\\' ∉ text) : decode text = text := by
  rw [decode, pieces_eq_map no_backslash, List.flatMap_map]
  exact List.flatMap_singleton' text

theorem unpaired_eq_nil {text : Text} (no_backslash : '\\' ∉ text) : unpaired text = [] := by
  rw [unpaired, pieces_eq_map no_backslash, List.filterMap_map, List.filterMap_eq_nil_iff]
  exact fun _ _ => rfl

end UnicodeEscape

/-! ## References -/

namespace Entity

/-- The reference by number in a given radix, whose text behind `#` and the marker of the radix is
given. -/
def numeral (radix : Nat) (marker body : Text) : Piece × Nat :=
  let digits := body.takeWhile isHexDigit
  if digits.isEmpty || (radix == 10 && !digits.all isDecimalDigit) then (.plain '&', 0)
  else
    let closing : Text := if (body.drop digits.length).head? = some ';' then [';'] else []
    let written := '#' :: (marker ++ digits ++ closing)
    match scalar? (digitsValue radix digits) with
    | some character => (.decoded character, written.length)
    | none => (.malformed ('&' :: written), 0)

/-- The marker decides the radix of a numeric reference. -/
theorem numeric_eq_numeral (tail : Text) :
    ∃ radix marker body, tail = marker ++ body ∧ numeric tail = numeral radix marker body := by
  unfold numeric
  split
  case h_1 radix marker body chosen =>
    split at chosen
    all_goals
      simp only [Prod.mk.injEq] at chosen
      obtain ⟨rfl, rfl, rfl⟩ := chosen
      exact ⟨_, _, _, rfl, rfl⟩

/-- The digits of the three ranges, and their values. -/
theorem hexDigit?_cases {character : Char} {value : Nat}
    (found : hexDigit? character = some value) :
    ('0' ≤ character ∧ character ≤ '9' ∧ value = character.toNat - 48) ∨
      ('a' ≤ character ∧ character ≤ 'f' ∧ value = character.toNat - 87) ∨
      ('A' ≤ character ∧ character ≤ 'F' ∧ value = character.toNat - 55) := by
  unfold hexDigit? at found
  split at found
  case isTrue decimal => exact .inl ⟨decimal.1, decimal.2, (Option.some.inj found).symm⟩
  case isFalse =>
    split at found
    case isTrue lower => exact .inr (.inl ⟨lower.1, lower.2, (Option.some.inj found).symm⟩)
    case isFalse =>
      split at found
      case isTrue upper => exact .inr (.inr ⟨upper.1, upper.2, (Option.some.inj found).symm⟩)
      case isFalse => simp at found

theorem hexDigit?_lt {character : Char} {value : Nat} (found : hexDigit? character = some value) :
    value < 16 := by
  have le_toNat : ∀ {low high : Char}, low ≤ high → low.toNat ≤ high.toNat := fun h => h
  rcases hexDigit?_cases found with ⟨_, below, rfl⟩ | ⟨_, below, rfl⟩ | ⟨_, below, rfl⟩
  · have high : character.toNat ≤ 57 := le_toNat below
    omega
  · have high : character.toNat ≤ 102 := le_toNat below
    omega
  · have high : character.toNat ≤ 70 := le_toNat below
    omega

/-- What a numeric reference reads stands in the text: the marker, the digits and the semicolon. -/
theorem written_isPrefix {body digits : Text} (marker : Text)
    (digits_eq : body.takeWhile isHexDigit = digits) :
    marker ++ digits ++ (if (body.drop digits.length).head? = some ';' then [';'] else []) <+:
      marker ++ body := by
  obtain ⟨behind, split⟩ := List.takeWhile_prefix isHexDigit (l := body)
  rw [digits_eq] at split
  rw [← split, List.drop_left, List.append_assoc]
  refine (List.prefix_append_right_inj marker).mpr ((List.prefix_append_right_inj digits).mpr ?_)
  split
  case isTrue closed =>
    cases behind with
    | nil => simp at closed
    | cons head behind =>
        obtain rfl := Option.some.inj closed
        exact ⟨behind, rfl⟩
  case isFalse => exact List.nil_prefix

/-- A number of one digit is below sixteen. -/
theorem digitsValue_singleton_lt (radix : Nat) (digit : Char) :
    digitsValue radix [digit] < 16 := by
  have value : digitsValue radix [digit] = (hexDigit? digit).getD 0 := by simp [digitsValue]
  rw [value]
  cases found : hexDigit? digit with
  | none => simp
  | some value => simpa using hexDigit?_lt found

theorem byteLength_numeral_le (radix : Nat) (marker body : Text) :
    Utf8.byteLength (numeral radix marker body).1.text ≤
      Utf8.byteLength ('&' :: ('#' :: (marker ++ body)).take (numeral radix marker body).2) := by
  generalize digits_eq : body.takeWhile isHexDigit = digits
  have front := written_isPrefix marker digits_eq
  unfold numeral
  simp only [digits_eq]
  split
  case isTrue => exact Nat.le_refl _
  case isFalse reads =>
    split
    case h_2 => exact Nat.le_refl _
    case h_1 character found =>
      have code := toNat_of_scalar? found
      rw [List.length_cons, List.take_succ_cons, ← List.prefix_iff_eq_take.mp front]
      generalize (if (body.drop digits.length).head? = some ';' then [';'] else []) = closing
      have long := Utf8.length_le_byteLength ('&' :: '#' :: (marker ++ digits ++ closing))
      have size := character.utf8Size_le_four
      simp only [List.length_cons, List.length_append] at long
      change character.utf8Size + 0 ≤ _
      cases digits with
      | nil => simp at reads
      | cons first others =>
          cases others with
          | nil =>
              have small := digitsValue_singleton_lt radix first
              have one := utf8Size_eq_one_of_lt (show character.toNat < 0x80 by omega)
              omega
          | cons second others =>
              simp only [List.length_cons] at long
              omega

/-- With the ampersand and the semicolon, a name is as long as its character at least. -/
theorem utf8Size_le_of_lookup? {name : Text} {character : Char}
    (found : lookup? name = some character) : character.utf8Size ≤ name.length + 2 := by
  have all_names : ∀ entry ∈ table, entry.2.utf8Size ≤ entry.1.length + 2 := by decide +kernel
  obtain ⟨front, behind, split, _⟩ := List.lookup_eq_some_iff.mp found
  exact all_names (name, character) (split ▸ List.mem_append_right front List.mem_cons_self)

theorem byteLength_named_le (tail : Text) :
    Utf8.byteLength (named tail).1.text ≤
      Utf8.byteLength ('&' :: tail.take (named tail).2) := by
  unfold named
  simp only
  split
  case isFalse => exact Nat.le_refl _
  case isTrue closed =>
    split
    case h_2 => exact Nat.le_refl _
    case h_1 character found =>
      generalize ((tail.take (longestName + 1)).takeWhile (· != ';')) = name at closed found ⊢
      have size := utf8Size_le_of_lookup? found
      have long := Utf8.length_le_byteLength ('&' :: tail.take (name.length + 1))
      rw [List.length_take] at closed
      rw [List.length_cons, List.length_take] at long
      simp only [Piece.text, Utf8.byteLength_cons, Utf8.byteLength_nil] at long ⊢
      omega

theorem byteLength_step_le (front : Char) (rest : Text) :
    Utf8.byteLength (step front rest).1.text ≤
      Utf8.byteLength (front :: rest.take (step front rest).2) := by
  unfold step
  split
  case isFalse => exact Nat.le_refl _
  case isTrue ampersand =>
    subst ampersand
    split
    case h_1 tail =>
      obtain ⟨radix, marker, body, rfl, same⟩ := numeric_eq_numeral tail
      rw [same]
      exact byteLength_numeral_le radix marker body
    case h_2 => exact byteLength_named_le rest

theorem byteLength_decode_le (text : Text) :
    Utf8.byteLength (decode text) ≤ Utf8.byteLength text :=
  Scan.byteLength_flatMap_pieces_le byteLength_step_le text

/-- The piece stands for a character that is written as a code. -/
def Piece.IsDecoded (piece : Piece) : Prop := ∃ character, piece = .decoded character

theorem decoded_or_copied_numeral (radix : Nat) (marker body : Text) :
    (numeral radix marker body).1.IsDecoded ∨
      (numeral radix marker body).1.text = ['&'] ∧ (numeral radix marker body).2 = 0 := by
  unfold numeral
  dsimp only
  split
  case isTrue => exact .inr ⟨rfl, rfl⟩
  case isFalse =>
    split
    case h_1 character _ => exact .inl ⟨character, rfl⟩
    case h_2 => exact .inr ⟨rfl, rfl⟩

theorem decoded_or_copied_named (tail : Text) :
    (named tail).1.IsDecoded ∨ (named tail).1.text = ['&'] ∧ (named tail).2 = 0 := by
  unfold named
  dsimp only
  split
  case isFalse => exact .inr ⟨rfl, rfl⟩
  case isTrue =>
    split
    case h_1 character _ => exact .inl ⟨character, rfl⟩
    case h_2 => exact .inr ⟨rfl, rfl⟩

/-- A step decodes a character or copies the one in front. -/
theorem decoded_or_copied_step (front : Char) (rest : Text) :
    (step front rest).1.IsDecoded ∨
      (step front rest).1.text = [front] ∧ (step front rest).2 = 0 := by
  unfold step
  split
  case isFalse => exact .inr ⟨rfl, rfl⟩
  case isTrue ampersand =>
    subst ampersand
    split
    case h_1 tail =>
      obtain ⟨radix, marker, body, rfl, same⟩ := numeric_eq_numeral tail
      rw [same]
      exact decoded_or_copied_numeral radix marker body
    case h_2 => exact decoded_or_copied_named rest

/-- A step decodes a character or keeps what it reads. -/
theorem decoded_or_kept_step (front : Char) (rest : Text) :
    (step front rest).1.IsDecoded ∨
      (step front rest).1.text = front :: rest.take (step front rest).2 := by
  rcases decoded_or_copied_step front rest with decoded | ⟨copied, width⟩
  · exact .inl decoded
  · exact .inr (by rw [copied, width, List.take_zero])

theorem length_decode_le (text : Text) : (decode text).length ≤ text.length := by
  refine Scan.length_flatMap_pieces_le ?_ decoded_or_kept_step text
  rintro _ ⟨character, rfl⟩
  exact Nat.le_refl 1

theorem decode_cons (front : Char) (rest : Text) :
    decode (front :: rest) =
      (step front rest).1.text ++ decode (rest.drop (step front rest).2) := by
  rw [decode, pieces, Scan.pieces_cons]
  rfl

theorem step_of_ne {front : Char} (other : front ≠ '&') (rest : Text) :
    step front rest = (.plain front, 0) := by
  unfold step
  exact if_neg other

/-- A character other than the ampersand stays. -/
theorem decode_cons_of_ne {front : Char} (other : front ≠ '&') (rest : Text) :
    decode (front :: rest) = front :: decode rest := by
  rw [decode_cons, step_of_ne other, List.drop_zero, Piece.text, List.singleton_append]

theorem pieces_eq_map {text : Text} (no_ampersand : '&' ∉ text) :
    pieces text = text.map Piece.plain := by
  refine Scan.pieces_eq_map fun front member rest => step_of_ne ?_ rest
  rintro rfl
  exact no_ampersand member

theorem decode_eq_self {text : Text} (no_ampersand : '&' ∉ text) : decode text = text := by
  rw [decode, pieces_eq_map no_ampersand, List.flatMap_map]
  exact List.flatMap_singleton' text

theorem malformed_eq_nil {text : Text} (no_ampersand : '&' ∉ text) : malformed text = [] := by
  rw [malformed, pieces_eq_map no_ampersand, List.filterMap_map, List.filterMap_eq_nil_iff]
  exact fun _ _ => rfl

end Entity

/-! ## Both decoders -/

theorem value_decodeLayers (text : Text) :
    (decodeLayers text).value = Entity.decode (UnicodeEscape.decode text) := rfl

theorem value_decodeLayers_eq_self {text : Text} (no_backslash : '\\' ∉ text)
    (no_ampersand : '&' ∉ text) : (decodeLayers text).value = text := by
  rw [value_decodeLayers, UnicodeEscape.decode_eq_self no_backslash,
    Entity.decode_eq_self no_ampersand]

/-- Where nothing is decoded, nothing is reported. -/
theorem decodeLayers_eq_pure {text : Text} (no_backslash : '\\' ∉ text)
    (no_ampersand : '&' ∉ text) : decodeLayers text = pure text := by
  have unescaped : decodeEscapes text = pure text := by
    rw [decodeEscapes, UnicodeEscape.decode_eq_self no_backslash,
      UnicodeEscape.unpaired_eq_nil no_backslash]
    rfl
  have unreferenced : decodeReferences text = pure text := by
    rw [decodeReferences, Entity.decode_eq_self no_ampersand, Entity.malformed_eq_nil no_ampersand]
    rfl
  have lawful := Logged.lawfulMonad
  rw [decodeLayers, unescaped, pure_bind, unreferenced]

/-- No text becomes longer when its escapes and references are decoded. -/
theorem byteLength_decodeLayers_le (text : Text) :
    Utf8.byteLength (decodeLayers text).value ≤ Utf8.byteLength text :=
  Nat.le_trans (Entity.byteLength_decode_le _) (UnicodeEscape.byteLength_decode_le text)

theorem length_decodeLayers_le (text : Text) : (decodeLayers text).value.length ≤ text.length :=
  Nat.le_trans (Entity.length_decode_le _) (UnicodeEscape.length_decode_le text)

end ScriptSanitizer
