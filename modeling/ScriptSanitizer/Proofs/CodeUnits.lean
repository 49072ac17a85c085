import ScriptSanitizer.Proofs.Spelling

/-!
# Escapes as UTF-16

Between the literal characters of a text, escapes write code units of UTF-16.  Decoding reads a unit
that is no surrogate as its character and a high surrogate with the low one right behind it as one
character; any other surrogate stays as it is written.  So decoding gives a text back whichever of
its characters are escaped.
-/

namespace ScriptSanitizer

namespace UnicodeEscape

/-! ## Escaped texts -/

/-- A code unit, with the four digits of its escape. -/
structure WrittenUnit where
  /-- The code unit. -/
  value : Nat
  /-- The most significant digit. -/
  first : Char
  /-- The digit behind it. -/
  second : Char
  /-- The digit behind that one. -/
  third : Char
  /-- The least significant digit. -/
  fourth : Char
  /-- The digits write the code unit, in whatever case. -/
  digits : codeUnit? first second third fourth = some value

/-- The escape of the code unit. -/
def WrittenUnit.text (unit : WrittenUnit) : Text :=
  ['\\', 'u', unit.first, unit.second, unit.third, unit.fourth]

/-- What an escaped text consists of. -/
inductive Item where
  /-- A character that stands for itself. -/
  | literal (character : Char) (no_backslash : character ≠ '\\')
  /-- A code unit. -/
  | escape (unit : WrittenUnit)

/-- An item as it is written. -/
def Item.text : Item → Text
  | literal character _ => [character]
  | escape unit => unit.text

/-- Items as they are written. -/
def written (items : List Item) : Text := items.flatMap Item.text

/-- A high surrogate with a low one right behind it. -/
def OpensPair (unit : WrittenUnit) (items : List Item) : Prop :=
  isHighSurrogate unit.value = true ∧
    ∃ low behind, items = .escape low :: behind ∧ isLowSurrogate low.value = true

/-- Items and the text that they stand for when their code units are read as UTF-16, from left to
right. -/
inductive Reads : List Item → Text → Prop where
  | nil : Reads [] []
  /-- A literal stands for itself. -/
  | literal {character : Char} {no_backslash : character ≠ '\\'} {items : List Item} {text : Text}
      (others : Reads items text) :
      Reads (.literal character no_backslash :: items) (character :: text)
  /-- A code unit that is no surrogate stands for its character. -/
  | single {character : Char} {unit : WrittenUnit} {items : List Item} {text : Text}
      (units : codeUnits character = [unit.value]) (others : Reads items text) :
      Reads (.escape unit :: items) (character :: text)
  /-- The two halves of a surrogate pair stand for one character. -/
  | pair {character : Char} {high low : WrittenUnit} {items : List Item} {text : Text}
      (units : codeUnits character = [high.value, low.value]) (others : Reads items text) :
      Reads (.escape high :: .escape low :: items) (character :: text)
  /-- The escape of any other surrogate stands for itself. -/
  | unpaired {unit : WrittenUnit} {items : List Item} {text : Text}
      (surrogate : isHighSurrogate unit.value = true ∨ isLowSurrogate unit.value = true)
      (alone : ¬ OpensPair unit items) (others : Reads items text) :
      Reads (.escape unit :: items) (unit.text ++ text)

/-- A text, and items that write it, each character as a literal or by its code units. -/
inductive Escapes : Text → List Item → Prop where
  | nil : Escapes [] []
  /-- The character as it is; a backslash cannot be left so. -/
  | literal {character : Char} {no_backslash : character ≠ '\\'} {text : Text} {items : List Item}
      (others : Escapes text items) :
      Escapes (character :: text) (.literal character no_backslash :: items)
  /-- The escape of its one code unit. -/
  | single {character : Char} {unit : WrittenUnit} {text : Text} {items : List Item}
      (units : codeUnits character = [unit.value]) (others : Escapes text items) :
      Escapes (character :: text) (.escape unit :: items)
  /-- The escapes of its surrogate pair. -/
  | pair {character : Char} {high low : WrittenUnit} {text : Text} {items : List Item}
      (units : codeUnits character = [high.value, low.value]) (others : Escapes text items) :
      Escapes (character :: text) (.escape high :: .escape low :: items)

/-! ## Code units and characters -/

theorem codeUnit?_lt {a b c d : Char} {unit : Nat} (found : codeUnit? a b c d = some unit) :
    unit < 0x10000 := by
  simp only [codeUnit?, Option.bind_eq_bind, Option.bind_eq_some_iff, Option.pure_def,
    Option.some.injEq] at found
  obtain ⟨first, read_first, second, read_second, third, read_third, fourth, read_fourth, rfl⟩ :=
    found
  have first_bound := Entity.hexDigit?_lt read_first
  have second_bound := Entity.hexDigit?_lt read_second
  have third_bound := Entity.hexDigit?_lt read_third
  have fourth_bound := Entity.hexDigit?_lt read_fourth
  omega

theorem exists_toNat_eq {code : Nat} (valid : code.isValidChar) :
    ∃ character : Char, character.toNat = code :=
  ⟨Char.ofNatAux code valid, rfl⟩

/-- Every code unit that is no surrogate is a character. -/
theorem exists_codeUnits_eq_singleton {unit : Nat} (bound : unit < 0x10000)
    (not_high : isHighSurrogate unit = false) (not_low : isLowSurrogate unit = false) :
    ∃ character, codeUnits character = [unit] := by
  have valid : unit.isValidChar := by
    simp only [isHighSurrogate, isLowSurrogate, Bool.and_eq_false_iff, decide_eq_false_iff_not]
      at not_high not_low
    unfold Nat.isValidChar
    omega
  obtain ⟨character, code⟩ := exists_toNat_eq valid
  refine ⟨character, ?_⟩
  rw [codeUnits, code]
  exact if_pos bound

/-- Every surrogate pair is a character. -/
theorem exists_codeUnits_eq_pair {high low : Nat} (first : isHighSurrogate high = true)
    (second : isLowSurrogate low = true) : ∃ character, codeUnits character = [high, low] := by
  simp only [isHighSurrogate, isLowSurrogate, Bool.and_eq_true, decide_eq_true_eq] at first second
  have valid : (combine high low).isValidChar := by
    unfold combine Nat.isValidChar
    omega
  obtain ⟨character, code⟩ := exists_toNat_eq valid
  have supplementary : ¬ combine high low < 0x10000 := by
    unfold combine
    omega
  have high_eq : 0xD800 + (combine high low - 0x10000) / 0x400 = high := by
    unfold combine
    omega
  have low_eq : 0xDC00 + (combine high low - 0x10000) % 0x400 = low := by
    unfold combine
    omega
  refine ⟨character, ?_⟩
  rw [codeUnits, code, if_neg supplementary, high_eq, low_eq]

theorem scalar?_eq_none_of_surrogate {unit : Nat}
    (surrogate : isHighSurrogate unit = true ∨ isLowSurrogate unit = true) :
    scalar? unit = none := by
  apply dif_neg
  simp only [isHighSurrogate, isLowSurrogate, Bool.and_eq_true, decide_eq_true_eq] at surrogate
  unfold Nat.isValidChar
  omega

/-! ## Reading -/

theorem written_cons (item : Item) (items : List Item) :
    written (item :: items) = item.text ++ written items := rfl

/-- An escape in front of what items write is that of a code unit in front of them. -/
theorem leadingUnit?_written {items : List Item} {value : Nat}
    (found : leadingUnit? (written items) = some value) :
    ∃ unit behind, items = .escape unit :: behind ∧ unit.value = value := by
  cases items with
  | nil => cases found
  | cons item behind =>
      cases item with
      | literal character no_backslash =>
          have absent := leadingUnit?_eq_none no_backslash (written behind)
          rw [written_cons, Item.text, List.singleton_append, absent] at found
          cases found
      | escape unit =>
          have same : leadingUnit? (unit.text ++ written behind) = some unit.value := unit.digits
          exact ⟨unit, behind, rfl, Option.some.inj (same.symm.trans found)⟩

theorem step_of_surrogate {unit : WrittenUnit} {behind : Text}
    (surrogate : isHighSurrogate unit.value = true ∨ isLowSurrogate unit.value = true)
    (alone : ∀ low, leadingUnit? behind = some low →
      (isHighSurrogate unit.value && isLowSurrogate low) = false) :
    step '\\' (unit.text.tail ++ behind) = (.unpaired unit.text, 5) := by
  have found : leadingUnit? (unit.text ++ behind) = some unit.value := unit.digits
  rw [@step_of_unpaired '\\' (unit.text.tail ++ behind) _ found alone, step.single,
    scalar?_eq_none_of_surrogate surrogate]
  rfl

theorem decode_append_of_surrogate {unit : WrittenUnit} {behind : Text}
    (surrogate : isHighSurrogate unit.value = true ∨ isLowSurrogate unit.value = true)
    (alone : ∀ low, leadingUnit? behind = some low →
      (isHighSurrogate unit.value && isLowSurrogate low) = false) :
    decode (unit.text ++ behind) = unit.text ++ decode behind := by
  change decode ('\\' :: (unit.text.tail ++ behind)) = _
  rw [decode_cons, step_of_surrogate surrogate alone]
  rfl

theorem decode_unpaired {unit : WrittenUnit} {items : List Item}
    (surrogate : isHighSurrogate unit.value = true ∨ isLowSurrogate unit.value = true)
    (alone : ¬ OpensPair unit items) :
    decode (unit.text ++ written items) = unit.text ++ decode (written items) := by
  refine decode_append_of_surrogate surrogate fun low second => ?_
  obtain ⟨lower, behind, split, rfl⟩ := leadingUnit?_written second
  apply eq_false_of_ne_true
  intro both
  obtain ⟨high_read, low_read⟩ := Bool.and_eq_true_iff.mp both
  exact alone ⟨high_read, lower, behind, split, low_read⟩

theorem Reads.decode_eq {items : List Item} {text : Text} (reads : Reads items text) :
    decode (written items) = text := by
  induction reads with
  | nil => rfl
  | @literal character no_backslash items text _ ih =>
      rw [written_cons, Item.text, List.singleton_append, decode_cons_of_ne no_backslash, ih]
  | @single character unit items text units _ ih =>
      rw [← ih]
      exact decode_escape units unit.digits (written items)
  | @pair character high low items text units _ ih =>
      rw [← ih]
      exact decode_pair units high.digits low.digits (written items)
  | unpaired surrogate alone _ ih =>
      rw [written_cons, Item.text, decode_unpaired surrogate alone, ih]

/-- Items can be read whatever they are. -/
theorem exists_reads : ∀ items : List Item, ∃ text, Reads items text
  | [] => ⟨[], .nil⟩
  | .literal character _ :: items => by
      obtain ⟨text, others⟩ := exists_reads items
      exact ⟨character :: text, .literal others⟩
  | .escape unit :: items => by
      by_cases opens : OpensPair unit items
      · obtain ⟨high, low, behind, rfl, low_read⟩ := opens
        obtain ⟨character, units⟩ := exists_codeUnits_eq_pair high low_read
        obtain ⟨text, others⟩ := exists_reads behind
        exact ⟨character :: text, .pair units others⟩
      · obtain ⟨text, others⟩ := exists_reads items
        by_cases surrogate : isHighSurrogate unit.value = true ∨ isLowSurrogate unit.value = true
        · exact ⟨unit.text ++ text, .unpaired surrogate opens others⟩
        · simp only [not_or, Bool.not_eq_true] at surrogate
          obtain ⟨character, units⟩ := exists_codeUnits_eq_singleton (codeUnit?_lt unit.digits)
            surrogate.1 surrogate.2
          exact ⟨character :: text, .single units others⟩

theorem Escapes.reads {text : Text} {items : List Item} (escapes : Escapes text items) :
    Reads items text := by
  induction escapes with
  | nil => exact .nil
  | literal _ ih => exact .literal ih
  | single units _ ih => exact .single units ih
  | pair units _ ih => exact .pair units ih

/-- What items write decodes to what they stand for as UTF-16, and so to the text if they escape
one. -/
theorem decode_written (items : List Item) :
    (∀ decoded, decode (written items) = decoded ↔ Reads items decoded) ∧
      ∀ text, Escapes text items → decode (written items) = text := by
  refine ⟨fun decoded => ⟨?_, Reads.decode_eq⟩, fun text escapes => escapes.reads.decode_eq⟩
  rintro rfl
  obtain ⟨text, reads⟩ := exists_reads items
  rwa [reads.decode_eq]

theorem decode_written_mixed_case :
    ∃ items, Escapes "é\\u0041😀".toList items ∧
      written items = "é\\u005Cu0041\\uD83d\\udE00".toList ∧
      decode (written items) = "é\\u0041😀".toList := by
  have escapes : Escapes "é\\u0041😀".toList
      [.literal 'é' (by decide), .escape ⟨0x5C, '0', '0', '5', 'C', rfl⟩,
        .literal 'u' (by decide), .literal '0' (by decide), .literal '0' (by decide),
        .literal '4' (by decide), .literal '1' (by decide),
        .escape ⟨0xD83D, 'D', '8', '3', 'd', rfl⟩, .escape ⟨0xDE00, 'd', 'E', '0', '0', rfl⟩] :=
    .literal (.single rfl (.literal (.literal (.literal (.literal (.literal (.pair rfl .nil)))))))
  exact ⟨_, escapes, rfl, (decode_written _).2 _ escapes⟩

/-! ## Escaping -/

theorem hexDigit?_digitChar {digit : Nat} (bound : digit < 16) :
    hexDigit? (Nat.digitChar digit) = some digit := by
  revert digit
  decide

theorem codeUnit?_digitChar {unit : Nat} (bound : unit < 0x10000) :
    codeUnit? (Nat.digitChar (unit / 4096 % 16)) (Nat.digitChar (unit / 256 % 16))
      (Nat.digitChar (unit / 16 % 16)) (Nat.digitChar (unit % 16)) = some unit := by
  have digit (number : Nat) : hexDigit? (Nat.digitChar (number % 16)) = some (number % 16) :=
    hexDigit?_digitChar (Nat.mod_lt number (by decide))
  have positions : (((unit / 4096 % 16) * 16 + unit / 256 % 16) * 16 + unit / 16 % 16) * 16 +
      unit % 16 = unit := by
    omega
  rw [codeUnit?, digit, digit, digit, digit]
  exact congrArg some positions

/-- A code unit with the digits of its escape in lower case. -/
def WrittenUnit.lower (unit : Nat) (bound : unit < 0x10000) : WrittenUnit where
  value := unit
  first := Nat.digitChar (unit / 4096 % 16)
  second := Nat.digitChar (unit / 256 % 16)
  third := Nat.digitChar (unit / 16 % 16)
  fourth := Nat.digitChar (unit % 16)
  digits := codeUnit?_digitChar bound

theorem written_lower {unit : Nat} (bound : unit < 0x10000) (items : List Item) :
    written (.escape (.lower unit bound) :: items) = escapeUnit unit ++ written items := rfl

/-- Every text can be escaped from end to end. -/
theorem exists_escapes (text : Text) :
    ∃ items, Escapes text items ∧ written items = (text.flatMap codeUnits).flatMap escapeUnit := by
  induction text with
  | nil => exact ⟨[], .nil, rfl⟩
  | cons character text ih =>
      obtain ⟨items, others, whole⟩ := ih
      have valid := Utf8.toNat_bounds character
      by_cases basic : character.toNat < 0x10000
      · have units : codeUnits character = [character.toNat] := if_pos basic
        refine ⟨.escape (.lower _ basic) :: items, .single units others, ?_⟩
        rw [written_lower, whole, List.flatMap_cons, List.flatMap_append, units,
          List.flatMap_singleton]
      · have units : codeUnits character =
            [0xD800 + (character.toNat - 0x10000) / 0x400,
              0xDC00 + (character.toNat - 0x10000) % 0x400] := if_neg basic
        refine ⟨.escape (.lower _ (by omega)) :: .escape (.lower _ (by omega)) :: items,
          .pair units others, ?_⟩
        rw [written_lower, written_lower, whole, List.flatMap_cons, List.flatMap_append, units,
          List.flatMap_cons, List.flatMap_singleton, List.append_assoc]

/-- Decoding gives back a text of which every character has been escaped. -/
theorem decode_escapeUnit (text : Text) :
    decode ((text.flatMap codeUnits).flatMap escapeUnit) = text := by
  obtain ⟨items, escapes, whole⟩ := exists_escapes text
  rw [← whole, escapes.reads.decode_eq]

end UnicodeEscape

end ScriptSanitizer
