import ScriptSanitizer.Json.Parser
import ScriptSanitizer.Json.Printer
import ScriptSanitizer.Proofs.Decoding

/-!
# Written lexemes are read back

A string in its quotation marks is read as the string, whatever its characters are, and the digits
of a whole number are read as the number, as long as what stands behind them does not go on with
it.  So are the digits of zero with a minus sign.
-/

namespace ScriptSanitizer

namespace Binary64

/-! ## Zero -/

theorem magnitudeOfRatio_zero (denominator : Nat) : magnitudeOfRatio 0 denominator = 0 := by
  simp [magnitudeOfRatio, roundHalfEven]

theorem ofRatio?_zero (negative : Bool) (denominator : Nat) :
    ofRatio? negative 0 denominator = some ⟨negative, 0, by decide⟩ := by
  simp [ofRatio?, magnitudeOfRatio_zero]

theorem zero_div? {number : Binary64} (positive : number.negative = false) :
    zero.div? number = some zero := by
  have units : zero.units = 0 := by decide +kernel
  rw [div?, units, positive, ofRatio?_zero]
  rfl

theorem exists_ten : ∃ ten, ofNat? (Nat.pow 10 1) = some ten ∧ ten.negative = false := by
  have finite : magnitudeOfRatio (Nat.pow 10 1) 1 < 2047 * Nat.pow 2 52 := by decide +kernel
  rw [ofNat?, ofRatio?, dif_pos finite]
  exact ⟨_, rfl, rfl⟩

theorem divPower?_of_le {power : Nat} (small : power ≤ maximalPower) (number : Binary64) :
    number.divPower? power = (ofNat? (Nat.pow 10 power)).bind number.div? := by
  rw [divPower?, dif_pos small]
  rfl

/-- A tenth of zero is zero. -/
theorem ofDecimal?_zero_tenths : ofDecimal? 0 (-1) = some zero := by
  obtain ⟨ten, made, positive⟩ := exists_ten
  have none_yet : ofNat? 0 = some zero := ofRatio?_zero false 1
  rw [ofDecimal?, none_yet, Option.bind_eq_bind, Option.bind_some, if_neg (by decide),
    Int.natAbs_neg, Int.natAbs_one, divPower?_of_le (by decide), made, Option.bind_some,
    zero_div? positive]

end Binary64

namespace Json

/-! ## Strings -/

theorem readStringFrom_append (passed rest : Text) :
    readStringFrom passed.length (passed ++ rest) = readStringFrom 0 rest := by
  induction passed with
  | nil => rfl
  | cons character passed ih => rw [List.length_cons, List.cons_append, readStringFrom, ih]

/-- A string that goes on with a character. -/
def startWith (character : Char) (read : Text × Text) : Text × Text := (character :: read.1, read.2)

theorem readStringFrom_escape {character : Char} {escape rest : Text}
    (read : readEscape (escape ++ rest) = .ok (character, escape.length)) :
    readStringFrom 0 ('\\' :: (escape ++ rest)) =
      startWith character <$> readStringFrom 0 rest := by
  have behind := readStringFrom_append escape rest
  rw [readStringFrom.eq_def]
  simp only [Char.reduceEq, ↓reduceIte, read, bind, Except.bind, behind]
  cases readStringFrom 0 rest <;> rfl

theorem readStringFrom_plain {character : Char} (no_quote : character ≠ '"')
    (no_escape : character ≠ '\\') (no_control : ¬ character < ' ') (rest : Text) :
    readStringFrom 0 (character :: rest) = startWith character <$> readStringFrom 0 rest := by
  rw [readStringFrom.eq_def]
  simp only [no_quote, no_escape, no_control, ↓reduceIte, bind, Except.bind]
  cases readStringFrom 0 rest <;> rfl

theorem codeUnit?_control {code : Nat} (control : code < 32) :
    UnicodeEscape.codeUnit? '0' '0' (Nat.digitChar (code / 16)) (Nat.digitChar (code % 16)) =
      some code := by
  revert code
  decide

theorem utf8Size_digitChar {digit : Nat} (hexadecimal : digit < 16) :
    (Nat.digitChar digit).utf8Size = 1 := by
  revert digit
  decide

theorem readEscape_control {character : Char} (control : character < ' ') (rest : Text) :
    readEscape
        (['u', '0', '0', Nat.digitChar (character.toNat / 16),
          Nat.digitChar (character.toNat % 16)] ++ rest) = .ok (character, 5) := by
  have below : character.toNat < 32 := control
  have unit := codeUnit?_control below
  have high := @utf8Size_digitChar (character.toNat / 16) (by omega)
  have low := @utf8Size_digitChar (character.toNat % 16) (by omega)
  have read : readUnit
      ('0' :: '0' :: Nat.digitChar (character.toNat / 16) ::
        Nat.digitChar (character.toNat % 16) :: rest) = .ok character.toNat := by
    have four : ¬ '0'.utf8Size + ('0'.utf8Size + (1 + (1 + 0))) < 4 := by decide
    simp only [readUnit, List.take_succ_cons, List.take_zero, Utf8.byteLength_cons,
      Utf8.byteLength_nil, high, low, four, ↓reduceIte, unit]
  have no_low : UnicodeEscape.isLowSurrogate character.toNat = false := by
    simp only [UnicodeEscape.isLowSurrogate, Bool.and_eq_false_iff, decide_eq_false_iff_not]
    omega
  have no_high : UnicodeEscape.isHighSurrogate character.toNat = false := by
    simp only [UnicodeEscape.isHighSurrogate, Bool.and_eq_false_iff, decide_eq_false_iff_not]
    omega
  simp only [List.cons_append, List.nil_append, readEscape, read, bind, Except.bind, no_low,
    no_high, Bool.false_eq_true, ↓reduceIte, Char.ofNat_toNat]

theorem readStringFrom_escapeChar (character : Char) (rest : Text) :
    readStringFrom 0 (escapeChar character ++ rest) =
      startWith character <$> readStringFrom 0 rest := by
  unfold escapeChar
  split
  case h_8 no_quote no_escape _ _ _ _ _ =>
    split
    case isTrue control => exact readStringFrom_escape (readEscape_control control rest)
    case isFalse no_control => exact readStringFrom_plain no_quote no_escape no_control rest
  all_goals exact readStringFrom_escape rfl

theorem readString_quote (string rest : Text) :
    readString (string.flatMap escapeChar ++ '"' :: rest) = .ok (string, rest) := by
  unfold readString
  induction string with
  | nil => rfl
  | cons character string ih =>
      rw [List.flatMap_cons, List.append_assoc, readStringFrom_escapeChar, ih]
      rfl

/-! ## Digits -/

theorem isDecimalDigit_eq_isDigit : isDecimalDigit = Char.isDigit := rfl

theorem isDecimalDigit_of_mem_digitsOf {number : Nat} {digit : Char}
    (member : digit ∈ digitsOf 10 number) : isDecimalDigit digit = true := by
  rw [isDecimalDigit_eq_isDigit]
  exact Nat.isDigit_of_mem_toDigits (by decide) (by decide) member

theorem digitsOf_ne_nil (number : Nat) : digitsOf 10 number ≠ [] := Nat.toDigits_ne_nil

theorem digitChar_ne_zero {digit : Nat} (small : digit < 10) (positive : 0 < digit) :
    Nat.digitChar digit ≠ '0' := by
  revert digit
  decide

theorem head?_digitsOf_ne_zero {number : Nat} (positive : 0 < number) :
    (digitsOf 10 number).head? ≠ some '0' := by
  induction number using Nat.strongRecOn with
  | ind number ih =>
      unfold digitsOf at ih ⊢
      rw [Nat.toDigits_eq_if (by decide)]
      split
      case isTrue single => simpa using digitChar_ne_zero single positive
      case isFalse several =>
        obtain ⟨digit, digits, written⟩ :=
          List.exists_cons_of_ne_nil (@Nat.toDigits_ne_nil (number / 10) 10)
        have front := ih (number / 10) (by omega) (by omega)
        rwa [written] at front ⊢

/-- A number whose first digit is zero has no other digits. -/
theorem digitsOf_eq_singleton_of_head?_eq {number : Nat}
    (leading : (digitsOf 10 number).head? = some '0') : digitsOf 10 number = ['0'] := by
  rcases Nat.eq_zero_or_pos number with rfl | positive
  · rfl
  · exact absurd leading (head?_digitsOf_ne_zero positive)

theorem hexDigit?_of_isDecimalDigit {digit : Char} (decimal : isDecimalDigit digit = true) :
    hexDigit? digit = some (digit.toNat - '0'.toNat) := by
  have bounds : '0' ≤ digit ∧ digit ≤ '9' := by simpa [isDecimalDigit] using decimal
  rw [hexDigit?, if_pos bounds]
  rfl

theorem le_ofDigitChars (digits : Text) (number : Nat) :
    number ≤ Nat.ofDigitChars 10 digits number := by
  induction digits generalizing number with
  | nil => exact Nat.le_refl number
  | cons digit digits ih =>
      rw [Nat.ofDigitChars_cons]
      exact Nat.le_trans (by omega) (ih _)

theorem absorbDigits_of_le {bound number : Nat} {digits : Text}
    (decimal : ∀ digit ∈ digits, isDecimalDigit digit = true)
    (within : Nat.ofDigitChars 10 digits number ≤ bound) :
    absorbDigits bound number digits = (Nat.ofDigitChars 10 digits number, []) := by
  induction digits generalizing number with
  | nil => rfl
  | cons digit digits ih =>
      obtain ⟨front, others⟩ := List.forall_mem_cons.mp decimal
      rw [Nat.ofDigitChars_cons, Nat.mul_comm] at within ⊢
      have fits := Nat.le_trans (le_ofDigitChars digits _) within
      rw [absorbDigits, hexDigit?_of_isDecimalDigit front]
      simp only [Option.getD_some, fits, ↓reduceIte]
      exact ih others within

theorem absorbDigits_digitsOf {bound number : Nat} (within : number ≤ bound) :
    absorbDigits bound 0 (digitsOf 10 number) = (number, []) := by
  have value : Nat.ofDigitChars 10 (digitsOf 10 number) 0 = number :=
    Nat.ofDigitChars_toDigits (by decide) (by decide)
  have absorbed := @absorbDigits_of_le bound 0 (digitsOf 10 number)
    (fun _ => isDecimalDigit_of_mem_digitsOf) (by rwa [value])
  rwa [value] at absorbed

/-! ## Numbers -/

/-- Nothing in front of the text goes on with a number. -/
def Delimited (text : Text) : Prop :=
  ∀ front ∈ text.head?, isDecimalDigit front = false ∧ front ≠ '.' ∧ front ≠ 'e' ∧ front ≠ 'E'

theorem Delimited.cons {front : Char}
    (ends : isDecimalDigit front = false ∧ front ≠ '.' ∧ front ≠ 'e' ∧ front ≠ 'E')
    (rest : Text) : Delimited (front :: rest) := by
  rintro character ⟨⟩
  exact ends

-- The equation is one of functions: applied to a significand that is not known, it would have the
-- kernel compute the conversion of the significand.
theorem floatOf_eq_match :
    floatOf = fun negative significand exponent rest =>
      match Binary64.ofDecimal? significand exponent with
      | some number => .ok (.float (if negative then number.neg else number), rest)
      | none => .error (.before .numberTooLarge rest) := by
  rfl

theorem floatOf_of_ofDecimal? {significand : Nat} {exponent : Int} {number : Binary64}
    (made : Binary64.ofDecimal? significand exponent = some number) (negative : Bool)
    (rest : Text) :
    floatOf negative significand exponent rest =
      .ok (.float (if negative then number.neg else number), rest) := by
  simp only [floatOf_eq_match, made]

section

variable {rest : Text} (delimited : Delimited rest)
include delimited

theorem takeWhile_isDecimalDigit_append {digits : Text}
    (decimal : ∀ digit ∈ digits, isDecimalDigit digit = true) :
    (digits ++ rest).takeWhile isDecimalDigit = digits := by
  rw [List.takeWhile_append_of_pos decimal]
  cases rest with
  | nil => simp
  | cons front rest => simp [(delimited front rfl).1]

theorem dropWhile_isDecimalDigit_append {digits : Text}
    (decimal : ∀ digit ∈ digits, isDecimalDigit digit = true) :
    (digits ++ rest).dropWhile isDecimalDigit = rest := by
  rw [List.dropWhile_append_of_pos decimal]
  cases rest with
  | nil => rfl
  | cons front rest => simp [(delimited front rfl).1]

theorem readNumber_digitsOf {number : Nat} (negative : Bool) (within : number ≤ maximalWord) :
    readNumber negative (digitsOf 10 number ++ rest) = wholeNumber negative number rest := by
  have decimal : ∀ digit ∈ digitsOf 10 number, isDecimalDigit digit = true :=
    fun _ => isDecimalDigit_of_mem_digitsOf
  have leading := @digitsOf_eq_singleton_of_head?_eq number
  have absorbed := absorbDigits_digitsOf within
  have present := digitsOf_ne_nil number
  unfold readNumber
  rw [takeWhile_isDecimalDigit_append delimited decimal,
    dropWhile_isDecimalDigit_append delimited decimal]
  generalize digitsOf 10 number = digits at leading absorbed present
  simp only [absorbed]
  split
  · exact absurd rfl present
  · cases leading rfl
  · split
    · exact absurd rfl (delimited _ rfl).2.1
    · exact absurd rfl (delimited _ rfl).2.2.1
    · exact absurd rfl (delimited _ rfl).2.2.2
    · simp only [List.isEmpty_nil, ↓reduceIte]

theorem readScale_of_delimited (negative : Bool) (significand : Nat) (exponent : Int) :
    readScale negative significand exponent rest = floatOf negative significand exponent rest := by
  cases rest with
  | nil => rfl
  | cons front rest =>
      obtain ⟨-, -, no_mark, no_capital⟩ := delimited front rfl
      simp only [readScale, no_mark, no_capital, or_self, ↓reduceIte]

theorem readFraction_zero (negative : Bool) :
    readFraction negative 0 0 ('0' :: rest) = floatOf negative 0 (-1) rest := by
  have decimal : ∀ digit ∈ ['0'], isDecimalDigit digit = true :=
    List.forall_mem_singleton.mpr rfl
  have digits := takeWhile_isDecimalDigit_append delimited decimal
  have behind := dropWhile_isDecimalDigit_append delimited decimal
  have absorbed : absorbDigits maximalWord 0 ['0'] = (0, []) :=
    @absorbDigits_digitsOf maximalWord 0 (Nat.zero_le _)
  have tenths : (0 : Int) - (['0'].length - ([] : Text).length : Nat) = -1 := rfl
  rw [List.singleton_append] at digits behind
  simp only [readFraction, digits, behind, absorbed, List.isEmpty_cons, Bool.false_eq_true,
    ↓reduceIte]
  rw [readScale_of_delimited delimited, tenths]

theorem readNumber_negative_zero :
    readNumber true ('0' :: '.' :: '0' :: rest) = .ok (.float Binary64.zero.neg, rest) := by
  have read : readNumber true ('0' :: '.' :: '0' :: rest) = readFraction true 0 0 ('0' :: rest) :=
    rfl
  have made := Binary64.ofDecimal?_zero_tenths
  rw [read, readFraction_zero delimited, floatOf_of_ofDecimal? made, if_pos rfl]

end

end Json

end ScriptSanitizer
