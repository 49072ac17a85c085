import ScriptSanitizer.Detection
import ScriptSanitizer.Proofs.Nesting
import ScriptSanitizer.Proofs.Text.Utf8

/-!
# Spellings

A character can be written as it is, as the escapes of its UTF-16 code units, as a numeric
reference, or as a named one.  However the characters of a text are spelled, decoding gives back the
text, as no escape or reference reaches beyond its last digit or its semicolon; so the sanitizer
comes to the verdict that it comes to about the text.
-/

namespace ScriptSanitizer

/-- The texts that refer to a character between an ampersand and a semicolon. -/
inductive RefersTo (character : Char) : Text → Prop where
  /-- Its number in decimal. -/
  | decimal {digits : Text} (written : digits ≠ [])
      (each : ∀ digit ∈ digits, isDecimalDigit digit = true)
      (value : digitsValue 10 digits = character.toNat) : RefersTo character ('#' :: digits)
  /-- Its number in hexadecimal. -/
  | hexadecimal {marker : Char} {digits : Text} (marked : marker = 'x' ∨ marker = 'X')
      (written : digits ≠ []) (each : ∀ digit ∈ digits, isHexDigit digit = true)
      (value : digitsValue 16 digits = character.toNat) :
      RefersTo character ('#' :: marker :: digits)
  /-- One of its names. -/
  | named {name : Text} (found : Entity.lookup? name = some character) : RefersTo character name

/-- The texts that spell a character. -/
inductive SpellsCharacter (character : Char) : Text → Prop where
  /-- The character as it is. -/
  | literal : SpellsCharacter character [character]
  /-- The escape of its code unit, if it has a single one. -/
  | escape {a b c d : Char} {unit : Nat} (units : UnicodeEscape.codeUnits character = [unit])
      (digits : UnicodeEscape.codeUnit? a b c d = some unit) :
      SpellsCharacter character ['\\', 'u', a, b, c, d]
  /-- The escapes of its surrogate pair. -/
  | pair {a b c d e f g h : Char} {high low : Nat}
      (units : UnicodeEscape.codeUnits character = [high, low])
      (first : UnicodeEscape.codeUnit? a b c d = some high)
      (second : UnicodeEscape.codeUnit? e f g h = some low) :
      SpellsCharacter character ['\\', 'u', a, b, c, d, '\\', 'u', e, f, g, h]
  /-- A reference to it. -/
  | reference {body : Text} (refers : RefersTo character body) :
      SpellsCharacter character ('&' :: (body ++ [';']))

/-- The texts that spell a text, each character in a way of its own. -/
inductive Spells : Text → Text → Prop where
  | nil : Spells [] []
  | cons {character : Char} {text spelling written : Text}
      (first : SpellsCharacter character spelling) (behind : Spells text written) :
      Spells (character :: text) (spelling ++ written)

/-! ## Escapes -/

namespace UnicodeEscape

/-- The single code unit of a character is its code point, and is no surrogate. -/
theorem codeUnits_eq_singleton {character : Char} {unit : Nat}
    (units : codeUnits character = [unit]) :
    unit = character.toNat ∧ isHighSurrogate unit = false := by
  have valid := Utf8.toNat_bounds character
  unfold codeUnits at units
  dsimp only at units
  split at units
  case isTrue =>
    obtain rfl := List.singleton_inj.mp units.symm
    refine ⟨rfl, ?_⟩
    rw [isHighSurrogate, Bool.and_eq_false_iff, decide_eq_false_iff_not, decide_eq_false_iff_not]
    omega
  case isFalse => exact absurd (List.cons.inj units).2 (List.cons_ne_nil _ _)

/-- The two code units of a character are a surrogate pair that combines to its code point. -/
theorem codeUnits_eq_pair {character : Char} {high low : Nat}
    (units : codeUnits character = [high, low]) :
    (isHighSurrogate high && isLowSurrogate low) = true ∧
      combine high low = character.toNat := by
  have valid := Utf8.toNat_bounds character
  unfold codeUnits at units
  dsimp only at units
  split at units
  case isTrue => exact absurd (List.cons.inj units).2.symm (List.cons_ne_nil _ _)
  case isFalse supplementary =>
    obtain ⟨high_eq, others⟩ := List.cons.inj units
    have low_eq := List.singleton_inj.mp others
    constructor
    · simp only [isHighSurrogate, isLowSurrogate, Bool.and_eq_true, decide_eq_true_eq]
      omega
    · unfold combine
      omega

theorem isHexDigit_of_codeUnit? {a b c d : Char} {unit : Nat}
    (found : codeUnit? a b c d = some unit) :
    ∀ digit ∈ [a, b, c, d], isHexDigit digit = true := by
  have each : ∀ digit ∈ [a, b, c, d], hexDigit? digit ≠ none := by
    intro digit member missing
    simp only [List.mem_cons, List.not_mem_nil, or_false] at member
    rcases member with rfl | rfl | rfl | rfl <;>
      simp [codeUnit?, missing] at found
  exact fun digit member => Option.isSome_iff_ne_none.mpr (each digit member)

theorem decode_escape {character : Char} {a b c d : Char} {unit : Nat}
    (units : codeUnits character = [unit]) (digits : codeUnit? a b c d = some unit) (rest : Text) :
    decode ('\\' :: 'u' :: a :: b :: c :: d :: rest) = character :: decode rest := by
  obtain ⟨rfl, no_surrogate⟩ := codeUnits_eq_singleton units
  have found : leadingUnit? ('\\' :: 'u' :: a :: b :: c :: d :: rest) = some character.toNat :=
    digits
  have alone : step '\\' ('u' :: a :: b :: c :: d :: rest) = (.decoded character, 5) := by
    rw [step_of_unpaired found]
    · rw [step.single, scalar?_toNat]
    · intro low _
      rw [no_surrogate, Bool.false_and]
  rw [decode_cons, alone]
  rfl

theorem decode_pair {character : Char} {a b c d e f g h : Char} {high low : Nat}
    (units : codeUnits character = [high, low]) (first : codeUnit? a b c d = some high)
    (second : codeUnit? e f g h = some low) (rest : Text) :
    decode ('\\' :: 'u' :: a :: b :: c :: d :: '\\' :: 'u' :: e :: f :: g :: h :: rest) =
      character :: decode rest := by
  obtain ⟨paired, combined⟩ := codeUnits_eq_pair units
  have both : step '\\' ('u' :: a :: b :: c :: d :: '\\' :: 'u' :: e :: f :: g :: h :: rest) =
      (.decoded character, 11) := by
    rw [@step_of_pair '\\' ('u' :: a :: b :: c :: d :: '\\' :: 'u' :: e :: f :: g :: h :: rest)
      high low first second paired, combined, Char.ofNat_toNat]
  rw [decode_cons, both]
  rfl

end UnicodeEscape

/-! ## References -/

namespace Entity

theorem isHexDigit_of_isDecimalDigit {character : Char}
    (decimal : isDecimalDigit character = true) : isHexDigit character = true := by
  simp only [isDecimalDigit, Bool.and_eq_true, decide_eq_true_eq] at decimal
  rw [isHexDigit, hexDigit?, if_pos decimal]
  rfl

/-- The longest run of hexadecimal digits in front of a text: there is a digit in it, and none behind
it. -/
structure DigitRun (digits behind : Text) : Prop where
  /-- It has a digit. -/
  written : digits ≠ []
  /-- It has digits only. -/
  each : ∀ digit ∈ digits, isHexDigit digit = true
  /-- It is the longest one. -/
  ended : ∀ character, behind.head? = some character → isHexDigit character = false

/-- A semicolon ends a run. -/
theorem DigitRun.closed {digits : Text} (written : digits ≠ [])
    (each : ∀ digit ∈ digits, isHexDigit digit = true) (rest : Text) :
    DigitRun digits (';' :: rest) where
  written := written
  each := each
  ended := by
    intro character head
    obtain rfl := Option.some.inj head
    rfl

theorem DigitRun.takeWhile_append {digits behind : Text} (run : DigitRun digits behind) :
    (digits ++ behind).takeWhile isHexDigit = digits := by
  rw [List.takeWhile_append_of_pos run.each]
  cases behind with
  | nil => exact List.append_nil digits
  | cons head more =>
      rw [List.takeWhile_cons_of_neg (by simp [run.ended head rfl]), List.append_nil]

/-- The text behind a number, without the semicolon that may close it. -/
def afterNumber : Text → Text
  | ';' :: rest => rest
  | rest => rest

theorem afterNumber_of_ne {behind : Text} (not_closed : behind.head? ≠ some ';') :
    afterNumber behind = behind := by
  unfold afterNumber
  split
  case h_1 => exact absurd rfl not_closed
  case h_2 => rfl

/-- The semicolon that closes a number, if one does. -/
def closing (behind : Text) : Text := if behind.head? = some ';' then [';'] else []

theorem closing_append_afterNumber (behind : Text) : closing behind ++ afterNumber behind = behind := by
  by_cases closed : behind.head? = some ';'
  · obtain ⟨rest, rfl⟩ := List.head?_eq_some_iff.mp closed
    rfl
  · rw [closing, if_neg closed, afterNumber_of_ne closed, List.nil_append]

/-- A number takes in a whole run of digits and the semicolon behind it, and names a character or
not. -/
theorem numeral_of_run {radix : Nat} {digits behind : Text} (run : DigitRun digits behind)
    (marker : Text) (decimal : radix = 10 → ∀ digit ∈ digits, isDecimalDigit digit = true) :
    numeral radix marker (digits ++ behind) =
      match scalar? (digitsValue radix digits) with
      | some character =>
        (.decoded character, ('#' :: (marker ++ digits ++ closing behind)).length)
      | none => (.malformed ('&' :: '#' :: (marker ++ digits ++ closing behind)), 0) := by
  have reads : (digits.isEmpty || (radix == 10 && !digits.all isDecimalDigit)) = false := by
    rw [Bool.or_eq_false_iff, Bool.and_eq_false_imp]
    refine ⟨List.isEmpty_eq_false_iff.mpr run.written, fun radix_eq => ?_⟩
    rw [List.all_eq_true.mpr (decimal (beq_iff_eq.mp radix_eq))]
    rfl
  unfold numeral
  simp only [run.takeWhile_append, reads, Bool.false_eq_true, ↓reduceIte, List.drop_left]
  rfl

/-- A number that names a character is read with the semicolon that closes it. -/
theorem drop_number (marker digits behind : Text) :
    ('#' :: (marker ++ (digits ++ behind))).drop
      ('#' :: (marker ++ digits ++ closing behind)).length = afterNumber behind := by
  have whole : '#' :: (marker ++ (digits ++ behind)) =
      '#' :: (marker ++ digits ++ closing behind) ++ afterNumber behind := by
    simp [closing_append_afterNumber]
  rw [whole, List.drop_left]

theorem numeric_of_unmarked {front : Char} (no_marker : front ≠ 'x' ∧ front ≠ 'X')
    (others : Text) : numeric (front :: others) = numeral 10 [] (front :: others) := by
  unfold numeric
  split
  case h_1 radix marker body chosen =>
    split at chosen
    case h_1 same => exact absurd (List.cons.inj same).1 no_marker.1
    case h_2 same => exact absurd (List.cons.inj same).1 no_marker.2
    case h_3 =>
      simp only [Prod.mk.injEq] at chosen
      obtain ⟨rfl, rfl, rfl⟩ := chosen
      rfl

theorem numeric_of_marked {marker : Char} (marked : marker = 'x' ∨ marker = 'X') (body : Text) :
    numeric (marker :: body) = numeral 16 [marker] body := by
  rcases marked with rfl | rfl
  · rfl
  · rfl

theorem numeric_of_decimal {digits behind : Text} (run : DigitRun digits behind)
    (decimal : ∀ digit ∈ digits, isDecimalDigit digit = true) :
    numeric (digits ++ behind) = numeral 10 [] (digits ++ behind) := by
  obtain ⟨front, others, rfl⟩ := List.exists_cons_of_ne_nil run.written
  have first := decimal front List.mem_cons_self
  refine numeric_of_unmarked ⟨?_, ?_⟩ _
  · rintro rfl
    exact absurd first (by decide)
  · rintro rfl
    exact absurd first (by decide)

theorem step_numeric (tail : Text) : step '&' ('#' :: tail) = numeric tail := by
  unfold step
  exact if_pos rfl

theorem step_named {tail : Text} (no_number : tail.head? ≠ some '#') :
    step '&' tail = named tail := by
  unfold step
  rw [if_pos rfl]
  split
  case h_1 => exact absurd rfl no_number
  case h_2 => rfl

/-- The step at `front` decodes a character, and the scan goes on with `behind`. -/
def Decodes (front : Char) (rest : Text) (character : Char) (behind : Text) : Prop :=
  ∃ width, step front rest = (.decoded character, width) ∧ rest.drop width = behind

theorem Decodes.decode_eq {front character : Char} {rest behind : Text}
    (decodes : Decodes front rest character behind) :
    decode (front :: rest) = character :: decode behind := by
  obtain ⟨width, stepped, dropped⟩ := decodes
  rw [decode_cons, stepped, dropped]
  rfl

theorem decodes_decimal {digits behind : Text} {character : Char} (run : DigitRun digits behind)
    (decimal : ∀ digit ∈ digits, isDecimalDigit digit = true)
    (value : digitsValue 10 digits = character.toNat) :
    Decodes '&' ('#' :: (digits ++ behind)) character (afterNumber behind) := by
  refine ⟨_, ?_, drop_number [] digits behind⟩
  rw [step_numeric, numeric_of_decimal run decimal, numeral_of_run run [] fun _ => decimal, value,
    scalar?_toNat]

theorem decodes_hexadecimal {marker : Char} {digits behind : Text} {character : Char}
    (marked : marker = 'x' ∨ marker = 'X') (run : DigitRun digits behind)
    (value : digitsValue 16 digits = character.toNat) :
    Decodes '&' ('#' :: marker :: (digits ++ behind)) character (afterNumber behind) := by
  refine ⟨_, ?_, drop_number [marker] digits behind⟩
  rw [step_numeric, numeric_of_marked marked, numeral_of_run run [marker] (by omega), value,
    scalar?_toNat]

/-- Names consist of letters and digits, and none is longer than the longest. -/
theorem alphanumeric_of_lookup? {name : Text} {character : Char}
    (found : lookup? name = some character) :
    name.length ≤ longestName ∧ ∀ letter ∈ name, letter.isAlphanum = true := by
  have all_names : table.all (fun entry => entry.1.length ≤ 8 && entry.1.all Char.isAlphanum) =
      true := by decide +kernel
  obtain ⟨front, behind, split, _⟩ := List.lookup_eq_some_iff.mp found
  have bounds := List.all_eq_true.mp all_names (name, character)
    (split ▸ List.mem_append_right front List.mem_cons_self)
  rw [Bool.and_eq_true, decide_eq_true_eq, List.all_eq_true] at bounds
  rw [longestName_eq]
  exact bounds

theorem not_mem_of_lookup? {name : Text} {character other : Char}
    (found : lookup? name = some character) (no_name : other.isAlphanum = false) :
    other ∉ name := by
  intro member
  rw [(alphanumeric_of_lookup? found).2 other member] at no_name
  exact Bool.noConfusion no_name

/-- The window of a name holds its semicolon, so the reference reads the whole name. -/
theorem named_closed {name : Text} {character : Char} (found : lookup? name = some character)
    (rest : Text) :
    named (name ++ ';' :: rest) = (.decoded character, name.length + 1) := by
  have short := (alphanumeric_of_lookup? found).1
  have no_semicolon : ∀ letter ∈ name, (letter != ';') = true := by
    intro letter member
    refine bne_iff_ne.mpr ?_
    rintro rfl
    exact not_mem_of_lookup? found (by decide) member
  obtain ⟨further, window_length⟩ := Nat.exists_eq_add_of_le short
  have window :
      (name ++ ';' :: rest).take (longestName + 1) = name ++ ';' :: rest.take further := by
    rw [window_length, Nat.add_assoc, List.take_length_add_append, List.take_succ_cons]
  have run : (name ++ ';' :: rest.take further).takeWhile (· != ';') = name := by
    rw [List.takeWhile_append_of_pos no_semicolon, List.takeWhile_cons]
    exact List.append_nil name
  have inside : name.length < (name ++ ';' :: rest.take further).length := by
    rw [List.length_append, List.length_cons]
    omega
  unfold named
  simp only [window, run, inside, ↓reduceIte, found]

theorem decodes_named {name : Text} {character : Char} (found : lookup? name = some character)
    (behind : Text) : Decodes '&' (name ++ ';' :: behind) character behind := by
  have no_number : (name ++ ';' :: behind).head? ≠ some '#' := by
    cases name with
    | nil =>
        intro numbered
        exact absurd (Option.some.inj numbered) (by decide)
    | cons front others =>
        intro numbered
        obtain rfl := Option.some.inj numbered
        exact not_mem_of_lookup? found (by decide) List.mem_cons_self
  refine ⟨name.length + 1, by rw [step_named no_number, named_closed found], ?_⟩
  rw [List.drop_length_add_append]
  rfl

end Entity

/-! ## Texts -/

theorem RefersTo.not_mem {character other : Char} {body : Text} (refers : RefersTo character body)
    (no_hash : other ≠ '#') (no_digit : isHexDigit other = false)
    (no_letter : other.isAlphanum = false) : other ∉ body := by
  have no_digits {digits : Text} (each : ∀ digit ∈ digits, isHexDigit digit = true) :
      other ∉ digits := by
    intro member
    rw [each other member] at no_digit
    exact Bool.noConfusion no_digit
  cases refers with
  | decimal written each value =>
      have hexadecimal := no_digits fun digit member =>
        Entity.isHexDigit_of_isDecimalDigit (each digit member)
      exact List.not_mem_cons_of_ne_of_not_mem no_hash hexadecimal
  | @hexadecimal marker digits marked written each value =>
      have no_marker : other ≠ marker := by
        rintro rfl
        rcases marked with rfl | rfl
        · exact absurd no_letter (by decide)
        · exact absurd no_letter (by decide)
      exact List.not_mem_cons_of_ne_of_not_mem no_hash
        (List.not_mem_cons_of_ne_of_not_mem no_marker (no_digits each))
  | named found => exact Entity.not_mem_of_lookup? found no_letter

/-- Neither does such a character stand in the whole reference. -/
theorem RefersTo.not_mem_reference {character other : Char} {body : Text}
    (refers : RefersTo character body) (no_mark : other ∉ ['&', '#', ';'])
    (no_digit : isHexDigit other = false) (no_letter : other.isAlphanum = false) :
    other ∉ '&' :: (body ++ [';']) := by
  simp only [List.mem_cons, List.not_mem_nil, or_false, not_or] at no_mark
  obtain ⟨no_ampersand, no_hash, no_semicolon⟩ := no_mark
  refine List.not_mem_cons_of_ne_of_not_mem no_ampersand fun member => ?_
  rcases List.mem_append.mp member with inside | semicolon
  · exact refers.not_mem no_hash no_digit no_letter inside
  · exact no_semicolon (List.mem_singleton.mp semicolon)

theorem RefersTo.decode {character : Char} {body : Text} (refers : RefersTo character body)
    (rest : Text) :
    Entity.decode ('&' :: (body ++ ';' :: rest)) = character :: Entity.decode rest := by
  cases refers with
  | decimal written each value =>
      have run := Entity.DigitRun.closed written
        (fun digit member => Entity.isHexDigit_of_isDecimalDigit (each digit member)) rest
      exact (Entity.decodes_decimal run each value).decode_eq
  | hexadecimal marked written each value =>
      exact (Entity.decodes_hexadecimal marked (.closed written each rest) value).decode_eq
  | named found => exact (Entity.decodes_named found rest).decode_eq

namespace SpellsCharacter

variable {character : Char} {spelling : Text}

theorem nul_not_mem (spells : SpellsCharacter character spelling) (no_nul : '\x00' ≠ character) :
    '\x00' ∉ spelling := by
  have no_digits {a b c d : Char} {unit : Nat}
      (found : UnicodeEscape.codeUnit? a b c d = some unit) : '\x00' ∉ [a, b, c, d] := by
    intro member
    exact absurd (UnicodeEscape.isHexDigit_of_codeUnit? found _ member) (by decide)
  cases spells with
  | literal => exact List.not_mem_cons_of_ne_of_not_mem no_nul List.not_mem_nil
  | @escape a b c d unit units digits =>
      have absent := no_digits digits
      simp only [List.mem_cons, not_or] at absent ⊢
      exact ⟨by decide, by decide, absent⟩
  | @pair a b c d e f g h high low units first second =>
      have first_absent := no_digits first
      have second_absent := no_digits second
      simp only [List.mem_cons, not_or, List.not_mem_nil, not_false_eq_true, and_true]
        at first_absent second_absent ⊢
      obtain ⟨no_a, no_b, no_c, no_d⟩ := first_absent
      exact ⟨by decide, by decide, no_a, no_b, no_c, no_d, by decide, by decide, second_absent⟩
  | reference refers => exact refers.not_mem_reference (by decide) (by decide) (by decide)

/-- The first decoder leaves a reference as it is written and reads an escape, whatever follows, and
the second one reads the reference and leaves the character. -/
theorem decode (spells : SpellsCharacter character spelling) (no_backslash : character ≠ '\\')
    (no_ampersand : character ≠ '&') :
    ∃ halfway : Text,
      (∀ rest, UnicodeEscape.decode (spelling ++ rest) = halfway ++ UnicodeEscape.decode rest) ∧
        ∀ rest, Entity.decode (halfway ++ rest) = character :: Entity.decode rest := by
  cases spells with
  | literal =>
      exact ⟨[character], UnicodeEscape.decode_cons_of_ne no_backslash,
        Entity.decode_cons_of_ne no_ampersand⟩
  | escape units digits =>
      exact ⟨[character], UnicodeEscape.decode_escape units digits,
        Entity.decode_cons_of_ne no_ampersand⟩
  | pair units first second =>
      exact ⟨[character], UnicodeEscape.decode_pair units first second,
        Entity.decode_cons_of_ne no_ampersand⟩
  | @reference body refers =>
      have written : '\\' ∉ '&' :: (body ++ [';']) :=
        refers.not_mem_reference (by decide) (by decide) (by decide)
      refine ⟨'&' :: (body ++ [';']), UnicodeEscape.decode_append written, fun rest => ?_⟩
      rw [List.cons_append, List.append_assoc, List.singleton_append]
      exact refers.decode rest

end SpellsCharacter

namespace Spells

variable {text written : Text}

theorem nul_not_mem (spells : Spells text written) (no_nul : '\x00' ∉ text) :
    '\x00' ∉ written := by
  induction spells with
  | nil => exact List.not_mem_nil
  | cons first _ ih =>
      intro member
      rcases List.mem_append.mp member with spelling | behind
      · exact first.nul_not_mem (List.ne_of_not_mem_cons no_nul) spelling
      · exact ih (List.not_mem_of_not_mem_cons no_nul) behind

/-- However a text is spelled, decoding gives it back. -/
theorem value_decodeLayers (spells : Spells text written) (no_backslash : '\\' ∉ text)
    (no_ampersand : '&' ∉ text) : (decodeLayers written).value = text := by
  rw [ScriptSanitizer.value_decodeLayers]
  induction spells with
  | nil => rfl
  | cons first _ ih =>
      obtain ⟨halfway, unescaped, resolved⟩ := first.decode
        (List.ne_of_not_mem_cons no_backslash).symm (List.ne_of_not_mem_cons no_ampersand).symm
      rw [unescaped, resolved, ih (List.not_mem_of_not_mem_cons no_backslash)
        (List.not_mem_of_not_mem_cons no_ampersand)]

end Spells

/-! ## Verdicts -/

namespace Sanitizer

variable {sanitizer : Sanitizer}

theorem value_detect_of_decodeLayers {text other : Text}
    (same : (decodeLayers (stripNul text)).value = (decodeLayers (stripNul other)).value) :
    (sanitizer.detect text).value = (sanitizer.detect other).value := by
  rw [detect, detect, Logged.value_bind, Logged.value_bind, same]

/-- The verdict on a text is the verdict on each of its spellings.  Where the text is left alone its
spellings are left as they are written, and otherwise they become what the text becomes. -/
theorem sanitize_spelling {compile : Compiler} {settings : Settings}
    (accepted : Sanitizer.compiled? compile settings = .ok sanitizer) {text written : Text}
    (no_nul : '\x00' ∉ text) (no_ampersand : '&' ∉ text) (no_backslash : '\\' ∉ text)
    (spells : Spells text written) :
    (sanitizer.detect written).value = (sanitizer.detect text).value ∧
      ((sanitizer.sanitize text).value ≠ text →
        (sanitizer.sanitize written).value = (sanitizer.sanitize text).value) ∧
      ((sanitizer.sanitize text).value = text →
        (sanitizer.sanitize written).value = written) := by
  have positive := maxPasses_pos_of_compiled? accepted
  have text_eq := stripNul_eq_self_iff.mpr no_nul
  have written_eq := stripNul_eq_self_iff.mpr (spells.nul_not_mem no_nul)
  have same : (decodeLayers (stripNul written)).value = (decodeLayers (stripNul text)).value := by
    rw [written_eq, text_eq, spells.value_decodeLayers no_backslash no_ampersand,
      value_decodeLayers_eq_self no_backslash no_ampersand]
  have pass_same : sanitizer.pass (stripNul written) = sanitizer.pass (stripNul text) :=
    Pass.value_run_of_decodeLayers same
  have untouched := @value_sanitize_eq_stripNul_iff sanitizer positive text
  rw [← pass_eq_stable_iff positive] at untouched
  obtain ⟨further, maxPasses_eq⟩ := Nat.exists_eq_add_of_le' positive
  have text_run := value_sanitize_succ maxPasses_eq text
  have written_run := value_sanitize_succ maxPasses_eq written
  rw [pass_same] at written_run
  refine ⟨value_detect_of_decodeLayers same, ?_⟩
  cases verdict : sanitizer.pass (stripNul text) with
  | stable =>
      rw [verdict] at text_run written_run
      rw [text_run, written_run, written_eq, text_eq]
      exact ⟨fun changed => absurd rfl changed, fun _ => rfl⟩
  | changed next =>
      have altered : (sanitizer.sanitize text).value ≠ text := by
        intro kept
        have stable := untouched.mp (kept.trans text_eq.symm)
        rw [verdict] at stable
        exact Pass.noConfusion stable
      rw [verdict] at text_run written_run
      exact ⟨fun _ => written_run.trans text_run.symm, fun kept => absurd kept altered⟩

/-- A call whose characters are spelled in six different ways. -/
theorem sanitize_spelling_eval :
    Spells "eval(😀<)".toList "e\\u0076&#97;&#x6C;(\\uD83D\\uDE00&lt;)".toList ∧
      (Sanitizer.default.detect "e\\u0076&#97;&#x6C;(\\uD83D\\uDE00&lt;)".toList).value =
        some .evalCall ∧
      (Sanitizer.default.sanitize "e\\u0076&#97;&#x6C;(\\uD83D\\uDE00&lt;)".toList).value = [] := by
  have spells : Spells "eval(😀<)".toList "e\\u0076&#97;&#x6C;(\\uD83D\\uDE00&lt;)".toList := by
    have text_eq : "eval(😀<)".toList = ['e', 'v', 'a', 'l', '(', '😀', '<', ')'] := by
      decide +kernel
    have written_eq : "e\\u0076&#97;&#x6C;(\\uD83D\\uDE00&lt;)".toList =
        ['e'] ++ (['\\', 'u', '0', '0', '7', '6'] ++ (('&' :: (['#', '9', '7'] ++ [';'])) ++
          (('&' :: (['#', 'x', '6', 'C'] ++ [';'])) ++ (['('] ++
            (['\\', 'u', 'D', '8', '3', 'D', '\\', 'u', 'D', 'E', '0', '0'] ++
              (('&' :: (['l', 't'] ++ [';'])) ++ ([')'] ++ []))))))) := by decide +kernel
    rw [text_eq, written_eq]
    refine .cons .literal (.cons (.escape rfl rfl) (.cons (.reference ?decimal)
      (.cons (.reference ?hexadecimal) (.cons .literal (.cons (.pair rfl rfl rfl)
        (.cons (.reference ?named) (.cons .literal .nil)))))))
    case decimal =>
      exact .decimal (List.cons_ne_nil _ _) (List.all_eq_true.mp rfl) rfl
    case hexadecimal =>
      exact .hexadecimal (.inl rfl) (List.cons_ne_nil _ _) (List.all_eq_true.mp rfl) rfl
    case named => exact .named (by decide +kernel)
  have text_detected : (Sanitizer.default.detect "eval(😀<)".toList).value = some .evalCall := by
    decide +kernel
  have text_sanitized : (Sanitizer.default.sanitize "eval(😀<)".toList).value = [] := by
    decide +kernel
  have altered : (Sanitizer.default.sanitize "eval(😀<)".toList).value ≠ "eval(😀<)".toList := by
    decide +kernel
  obtain ⟨detected, sanitized, _⟩ := sanitize_spelling ofSettings?_default
    (by decide +kernel) (by decide +kernel) (by decide +kernel) spells
  exact ⟨spells, detected.trans text_detected, (sanitized altered).trans text_sanitized⟩

end Sanitizer

end ScriptSanitizer
