import ScriptSanitizer.Proofs.CodeUnits
import ScriptSanitizer.Proofs.References
import ScriptSanitizer.Proofs.Text.Fragments

/-!
# Warnings of the decoders

A decoder warns of what it leaves in place: the escape of a surrogate without its partner, and the
numeric reference whose number names no character.  Which fragments these are can be told from their
places in the text, without reading it from left to right.  The decoders warn of each of them once,
in the order of the text, and of nothing else; and they decode what is in front of such a fragment
and what is behind it as if it were not there.
-/

namespace ScriptSanitizer

/-! ## Escapes -/

namespace UnicodeEscape

/-- The escape of a surrogate without its partner: a high one with no low one right behind it, or a
low one with no high one right in front of it. -/
inductive Unpaired : Occurrence → Prop where
  | high {before behind : Text} {unit : WrittenUnit} (surrogate : isHighSurrogate unit.value = true)
      (alone : ∀ low : WrittenUnit, low.text <+: behind → isLowSurrogate low.value = false) :
      Unpaired ⟨before, unit.text, behind⟩
  | low {before behind : Text} {unit : WrittenUnit} (surrogate : isLowSurrogate unit.value = true)
      (alone : ∀ high : WrittenUnit, high.text <:+ before → isHighSurrogate high.value = false) :
      Unpaired ⟨before, unit.text, behind⟩

/-- The escape that a piece leaves in place. -/
def Piece.unpaired? : Piece → Option Text
  | .unpaired escape => some escape
  | _ => none

/-! ### Code units and their escapes -/

theorem length_text (unit : WrittenUnit) : unit.text.length = 6 := rfl

theorem text_ne_nil (unit : WrittenUnit) : unit.text ≠ [] := List.cons_ne_nil _ _

theorem leadingUnit?_text_append (unit : WrittenUnit) (behind : Text) :
    leadingUnit? (unit.text ++ behind) = some unit.value := unit.digits

theorem exists_unit_of_leadingUnit? {text : Text} {value : Nat}
    (found : leadingUnit? text = some value) :
    ∃ unit behind, text = WrittenUnit.text unit ++ behind ∧ unit.value = value := by
  obtain ⟨a, b, c, d, rest, rfl, digits⟩ := leadingUnit?_eq_some found
  exact ⟨⟨value, a, b, c, d, digits⟩, rest, rfl, rfl⟩

/-- No escape starts within another one. -/
theorem leadingUnit?_drop_text_append (unit : WrittenUnit) (behind : Text) {count : Nat}
    (started : 0 < count) (unfinished : count < 6) :
    leadingUnit? ((unit.text ++ behind).drop count) = none := by
  have within : count < unit.text.length := unfinished
  rw [List.drop_append_of_le_length (Nat.le_of_lt within), List.drop_eq_getElem_cons within]
  refine leadingUnit?_eq_none ?_ _
  have later : unit.text[count] ∈ ['u', unit.first, unit.second, unit.third, unit.fourth] := by
    obtain ⟨count, rfl⟩ := Nat.exists_eq_add_one_of_ne_zero (Nat.ne_of_gt started)
    exact List.getElem_mem (Nat.lt_of_succ_lt_succ within)
  intro backslash
  rw [backslash, List.mem_cons] at later
  rcases later with marker | digit
  · exact absurd marker (by decide)
  · exact absurd (isHexDigit_of_codeUnit? unit.digits _ digit) (by decide)

theorem isHighSurrogate_eq_false_of_low {value : Nat} (low : isLowSurrogate value = true) :
    isHighSurrogate value = false := by
  simp only [isHighSurrogate, isLowSurrogate, Bool.and_eq_true, Bool.and_eq_false_iff,
    decide_eq_true_eq, decide_eq_false_iff_not] at low ⊢
  omega

theorem surrogate_of_scalar?_eq_none {value : Nat} (bound : value < 0x10000)
    (nameless : scalar? value = none) :
    isHighSurrogate value = true ∨ isLowSurrogate value = true := by
  by_contra neither
  simp only [not_or, Bool.not_eq_true] at neither
  obtain ⟨character, units⟩ := exists_codeUnits_eq_singleton bound neither.1 neither.2
  rw [(codeUnits_eq_singleton units).1, scalar?_toNat] at nameless
  cases nameless

/-- Neither of the neighbours of an unpaired surrogate makes a pair with it. -/
theorem Unpaired.exists_unit {before fragment behind : Text}
    (unpaired : Unpaired ⟨before, fragment, behind⟩) :
    ∃ unit : WrittenUnit, fragment = unit.text ∧
      (isHighSurrogate unit.value = true ∨ isLowSurrogate unit.value = true) ∧
      (∀ low, leadingUnit? behind = some low →
        (isHighSurrogate unit.value && isLowSurrogate low) = false) ∧
      ∀ high : WrittenUnit, high.text <:+ before →
        (isHighSurrogate high.value && isLowSurrogate unit.value) = false := by
  cases unpaired with
  | @high _ _ unit surrogate alone =>
      refine ⟨unit, rfl, .inl surrogate, fun low second => ?_, fun high _ => ?_⟩
      · obtain ⟨lower, more, rfl, rfl⟩ := exists_unit_of_leadingUnit? second
        rw [alone lower (List.prefix_append _ _), Bool.and_false]
      · have not_low : isLowSurrogate unit.value = false := by
          apply eq_false_of_ne_true
          intro low
          rw [isHighSurrogate_eq_false_of_low low] at surrogate
          cases surrogate
        rw [not_low, Bool.and_false]
  | @low _ _ unit surrogate alone =>
      refine ⟨unit, rfl, .inr surrogate, fun low _ => ?_, fun high front => ?_⟩
      · rw [isHighSurrogate_eq_false_of_low surrogate, Bool.false_and]
      · rw [alone high front, Bool.false_and]

theorem width_single (front : Char) (rest : Text) (value : Nat) :
    (step.single front rest value).2 = 5 := by
  unfold step.single
  split <;> rfl

/-! ### Between the steps -/

/-- Between two steps of the decoder: an escape that starts in what has been passed ends there, and
is not the first half of a pair. -/
def Settled (passed rest : Text) : Prop :=
  ∀ start value, start ≠ [] → start <:+ passed → leadingUnit? (start ++ rest) = some value →
    6 ≤ start.length ∧ (start.length = 6 → ∀ low, leadingUnit? rest = some low →
      (isHighSurrogate value && isLowSurrogate low) = false)

theorem settled_nil (text : Text) : Settled [] text :=
  fun _ _ written suffix => absurd (List.suffix_nil.mp suffix) written

/-- Where a step has read on, an escape starts only as the second half of a pair. -/
theorem leadingUnit?_drop_inside {front : Char} {rest : Text} {count value : Nat}
    (inside : count < (step front rest).2) (found : leadingUnit? (rest.drop count) = some value) :
    (∃ high, leadingUnit? (front :: rest) = some high ∧
        (isHighSurrogate high && isLowSurrogate value) = true) ∧
      count = 5 ∧ (step front rest).2 = 11 := by
  rcases step_cases front rest with
    ⟨_, stepped⟩ | ⟨high, low, first, second, paired, stepped⟩ | ⟨unit, first, _, stepped⟩
  · rw [stepped] at inside
    exact absurd inside (Nat.not_lt_zero count)
  · obtain ⟨higher, others, split, rfl⟩ := exists_unit_of_leadingUnit? first
    rw [stepped] at inside ⊢
    rcases Nat.lt_trichotomy count 5 with short | rfl | long
    · have absent := leadingUnit?_drop_text_append higher others (Nat.succ_pos count)
        (Nat.succ_lt_succ short)
      rw [← split, List.drop_succ_cons] at absent
      cases found.symm.trans absent
    · obtain rfl := Option.some.inj (found.symm.trans second)
      exact ⟨⟨_, first, paired⟩, rfl, rfl⟩
    · obtain ⟨lower, more, lower_split, rfl⟩ := exists_unit_of_leadingUnit? second
      obtain ⟨further, rfl⟩ := Nat.exists_eq_add_of_lt long
      have absent := leadingUnit?_drop_text_append lower more (Nat.succ_pos further) (by omega)
      rw [← lower_split, List.drop_drop] at absent
      cases found.symm.trans absent
  · rw [stepped, width_single] at inside
    obtain ⟨written, others, split, rfl⟩ := exists_unit_of_leadingUnit? first
    have absent := leadingUnit?_drop_text_append written others (Nat.succ_pos count) (by omega)
    rw [← split, List.drop_succ_cons] at absent
    cases found.symm.trans absent

theorem length_take_step (front : Char) (rest : Text) :
    (rest.take (step front rest).2).length = (step front rest).2 := by
  have within : (step front rest).2 ≤ rest.length := by
    refine (@step_append [] ?_ front rest).2
    rintro character ⟨⟩
  rw [List.length_take, Nat.min_eq_left within]

/-- A step reads an escape to its end, and a pair to the end of its second half. -/
theorem ends_of_leadingUnit? {front : Char} {rest : Text} {value : Nat}
    (first : leadingUnit? (front :: rest) = some value) :
    5 ≤ (step front rest).2 ∧ ((step front rest).2 = 5 → ∀ low,
      leadingUnit? (rest.drop (step front rest).2) = some low →
        (isHighSurrogate value && isLowSurrogate low) = false) := by
  rcases step_cases front rest with
    ⟨absent, _⟩ | ⟨_, _, _, _, _, stepped⟩ | ⟨_, found, alone, stepped⟩
  · cases first.symm.trans absent
  · have width : (step front rest).2 = 11 := by rw [stepped]
    rw [width]
    exact ⟨by decide, fun short => absurd short (by decide)⟩
  · have width : (step front rest).2 = 5 := by rw [stepped, width_single]
    obtain rfl := Option.some.inj (first.symm.trans found)
    rw [width]
    exact ⟨by decide, fun _ => alone⟩

theorem Settled.advance {passed rest : Text} {front : Char}
    (settled : Settled passed (front :: rest)) :
    Settled (passed ++ front :: rest.take (step front rest).2) (rest.drop (step front rest).2) := by
  intro start value written suffix found
  have read := length_take_step front rest
  -- The escape starts in front of the step, with the step, or within it.
  obtain ⟨lead, whole⟩ := suffix
  have places : (∃ more, start = more ++ front :: rest.take (step front rest).2 ∧
      more <:+ passed) ∨ start <:+ rest.take (step front rest).2 := by
    rcases List.append_eq_append_iff.mp whole with
      ⟨more, passed_eq, start_eq⟩ | ⟨more, _, read_eq⟩
    · exact .inl ⟨more, start_eq, lead, passed_eq.symm⟩
    · rcases List.suffix_cons_iff.mp ⟨more, read_eq.symm⟩ with same | later
      · exact .inl ⟨[], same, List.nil_suffix⟩
      · exact .inr later
  rcases places with ⟨more, rfl, within⟩ | ⟨skipped, split⟩
  · rw [List.append_assoc, List.cons_append, List.take_append_drop] at found
    rw [List.length_append, List.length_cons, read]
    by_cases here : more = []
    · subst here
      obtain ⟨long, alone⟩ := ends_of_leadingUnit? found
      exact ⟨by simpa using long, fun short => alone (by simpa using short)⟩
    · have long := (settled more value here within found).1
      exact ⟨by omega, fun short => by omega⟩
  · have positive := List.length_pos_iff.mpr written
    rw [← split, List.length_append] at read
    have short : skipped.length < (step front rest).2 := by omega
    have behind : rest.drop skipped.length = start ++ rest.drop (step front rest).2 := by
      conv_lhs => rw [← List.take_append_drop (step front rest).2 rest, ← split,
        List.append_assoc, List.drop_left]
    rw [← behind] at found
    obtain ⟨⟨high, _, paired⟩, five, eleven⟩ := leadingUnit?_drop_inside short found
    have not_high := isHighSurrogate_eq_false_of_low (Bool.and_eq_true_iff.mp paired).2
    exact ⟨by omega, fun _ low _ => by rw [not_high, Bool.false_and]⟩

/-! ### What is left in place -/

/-- A step leaves an escape in place exactly if it is one of a surrogate without its partner. -/
theorem unpaired?_step_iff {passed rest : Text} {front : Char}
    (settled : Settled passed (front :: rest)) (fragment : Text) :
    (step front rest).1.unpaired? = some fragment ↔
      ∃ behind, fragment ++ behind = front :: rest ∧ Unpaired ⟨passed, fragment, behind⟩ := by
  constructor
  · intro left
    rcases step_cases front rest with
      ⟨_, stepped⟩ | ⟨_, _, _, _, _, stepped⟩ | ⟨value, first, alone, stepped⟩
    · rw [stepped] at left
      cases left
    · rw [stepped] at left
      cases left
    · rw [stepped, step.single] at left
      split at left
      case h_1 => cases left
      case h_2 nameless =>
        obtain ⟨unit, behind, split, rfl⟩ := exists_unit_of_leadingUnit? first
        have fragment_eq : fragment = unit.text := by
          rw [← Option.some.inj left, ← List.take_succ_cons, split]
          rfl
        have behind_eq : rest.drop 5 = behind := by
          rw [← List.drop_succ_cons (a := front), split]
          rfl
        subst fragment_eq
        refine ⟨behind, split.symm, ?_⟩
        rcases surrogate_of_scalar?_eq_none (codeUnit?_lt unit.digits) nameless with high | low
        · refine .high high fun lower follows => ?_
          obtain ⟨more, rfl⟩ := follows
          have both := alone lower.value (by rw [behind_eq, leadingUnit?_text_append])
          rwa [high, Bool.true_and] at both
        · refine .low low fun higher precedes => ?_
          have second : leadingUnit? (front :: rest) = some unit.value := first
          have both := (settled higher.text higher.value (text_ne_nil higher) precedes
            (leadingUnit?_text_append higher _)).2 (length_text higher) unit.value second
          rwa [low, Bool.and_true] at both
  · rintro ⟨behind, split, unpaired⟩
    obtain ⟨unit, rfl, surrogate, alone, _⟩ := unpaired.exists_unit
    obtain ⟨rfl, rfl⟩ := List.cons.inj split
    exact congrArg (·.1.unpaired?) (step_of_surrogate surrogate alone)

theorem finds_unpaired : Scan.Finds step Piece.unpaired? Unpaired Settled where
  written := by
    rintro ⟨before, fragment, behind⟩ unpaired
    obtain ⟨unit, rfl, _⟩ := unpaired.exists_unit
    exact text_ne_nil unit
  here := unpaired?_step_iff
  inside := by
    intro passed front rest _ skipped fragment behind split short unpaired
    obtain ⟨unit, rfl, _, _, alone⟩ := unpaired.exists_unit
    have found : leadingUnit? (rest.drop skipped.length) = some unit.value := by
      rw [← split, List.drop_left, leadingUnit?_text_append]
    obtain ⟨⟨high, first, paired⟩, five, _⟩ := leadingUnit?_drop_inside short found
    obtain ⟨higher, others, higher_split, rfl⟩ := exists_unit_of_leadingUnit? first
    have precedes : front :: skipped = higher.text := by
      have length : (front :: skipped).length = 6 := congrArg Nat.succ five
      have taken := congrArg (List.take 6) higher_split
      rw [← split, ← List.cons_append, List.take_left' length] at taken
      rw [taken]
      rfl
    rw [alone higher (precedes ▸ List.suffix_append _ _)] at paired
    cases paired
  settled := Settled.advance

/-- What is in front of an escape that is left in place is decoded by itself, and what is behind it
too. -/
theorem Unpaired.decode_text {occurrence : Occurrence} (unpaired : Unpaired occurrence) :
    decode occurrence.text =
      decode occurrence.before ++ occurrence.fragment ++ decode occurrence.behind := by
  obtain ⟨before, fragment, behind⟩ := occurrence
  obtain ⟨unit, rfl, surrogate, alone, precedes⟩ := unpaired.exists_unit
  have ends : EndsBefore (unit.text ++ behind) := by
    rintro character ⟨⟩
    decide
  have parts : pieces (before ++ (unit.text ++ behind)) =
      pieces before ++ pieces (unit.text ++ behind) := by
    refine Scan.pieces_append (· <:+ before) (fun front rest closed => ?_) (List.suffix_refl _)
    have apart := step_append_of_begun ends front rest fun five high low first second => by
      obtain ⟨higher, others, split, rfl⟩ := exists_unit_of_leadingUnit? first
      obtain rfl := Option.some.inj (second.symm.trans (leadingUnit?_text_append unit behind))
      have ended : others = [] := by
        have lengths := congrArg List.length split
        rw [List.length_cons, five, List.length_append, length_text] at lengths
        exact List.eq_nil_of_length_eq_zero (by omega)
      rw [ended, List.append_nil] at split
      exact precedes higher (split ▸ closed)
    have still_closed := (List.suffix_cons front rest).trans closed
    exact ⟨apart.1, apart.2, (List.drop_suffix _ rest).trans still_closed⟩
  rw [Occurrence.text, List.append_assoc, decode, parts, List.flatMap_append]
  change decode before ++ decode (unit.text ++ behind) = _
  rw [decode_append_of_surrogate surrogate alone, List.append_assoc]

end UnicodeEscape

/-! ## References -/

namespace Entity

/-- The numeric reference whose number names no character.  It takes in a whole run of digits of its
radix, and the semicolon behind them if there is one. -/
inductive Nameless : Occurrence → Prop where
  | decimal {before digits behind : Text} (run : DigitRun digits behind)
      (each : ∀ digit ∈ digits, isDecimalDigit digit = true)
      (nameless : ¬ (numberOf 10 digits).isValidChar) :
      Nameless ⟨before, '&' :: '#' :: (digits ++ closing behind), afterNumber behind⟩
  | hexadecimal {marker : Char} {before digits behind : Text} (marked : marker = 'x' ∨ marker = 'X')
      (run : DigitRun digits behind) (nameless : ¬ (numberOf 16 digits).isValidChar) :
      Nameless ⟨before, '&' :: '#' :: marker :: (digits ++ closing behind), afterNumber behind⟩

/-- The reference that a piece leaves in place. -/
def Piece.malformed? : Piece → Option Text
  | .malformed reference => some reference
  | _ => none

/-! ### Numbers without a character -/

theorem scalar?_eq_none_iff {number : Nat} : scalar? number = none ↔ ¬ number.isValidChar := by
  constructor
  · intro nameless valid
    rw [scalar?, dif_pos valid] at nameless
    cases nameless
  · intro invalid
    exact dif_neg invalid

theorem numeral_of_nameless {radix : Nat} {digits behind : Text} (run : DigitRun digits behind)
    (marker : Text) (decimal : radix = 10 → ∀ digit ∈ digits, isDecimalDigit digit = true)
    (nameless : ¬ (numberOf radix digits).isValidChar) :
    numeral radix marker (digits ++ behind) =
      (.malformed ('&' :: '#' :: (marker ++ digits ++ closing behind)), 0) := by
  rw [numeral_of_run run marker decimal, digitsValue_eq_numberOf radix run.each,
    scalar?_eq_none_iff.mpr nameless]

theorem exists_run_of_malformed {radix : Nat} {marker body reference : Text}
    (left : (numeral radix marker body).1 = .malformed reference) :
    ∃ digits behind, body = digits ++ behind ∧ DigitRun digits behind ∧
      (radix = 10 → ∀ digit ∈ digits, isDecimalDigit digit = true) ∧
      ¬ (numberOf radix digits).isValidChar ∧
      reference = '&' :: '#' :: (marker ++ digits ++ closing behind) := by
  rcases numeral_cases radix marker body with plain | ⟨digits, behind, rfl, run, decimal⟩
  · rw [plain] at left
    cases left
  · refine ⟨digits, behind, rfl, run, decimal, ?_⟩
    rw [numeral_of_run run marker decimal] at left
    split at left
    case h_1 => cases left
    case h_2 nameless =>
      rw [digitsValue_eq_numberOf radix run.each, scalar?_eq_none_iff] at nameless
      exact ⟨nameless, (Piece.malformed.inj left).symm⟩

/-! ### Ampersands -/

theorem ampersand_not_mem_number {marker digits : Text} (unmarked : '&' ∉ marker)
    (each : ∀ digit ∈ digits, isHexDigit digit = true) (behind : Text) :
    '&' ∉ '#' :: (marker ++ digits ++ closing behind) := by
  have no_digit : '&' ∉ digits := fun member => absurd (each _ member) (by decide)
  have no_closing : '&' ∉ closing behind := by
    unfold closing
    split <;> decide
  simp [unmarked, no_digit, no_closing]

theorem ampersand_not_mem_marker {marker : Char} (marked : marker = 'x' ∨ marker = 'X') :
    '&' ∉ [marker] := by
  rcases marked with rfl | rfl <;> decide

/-- A reference has no ampersand but its first character. -/
theorem LeadingReference.exists_tail {text behind : Text} {character : Char}
    (leads : LeadingReference text character behind) :
    ∃ tail, text = '&' :: (tail ++ behind) ∧ '&' ∉ tail := by
  cases leads with
  | @named name _ _ listed =>
      refine ⟨name ++ [';'], by simp, ?_⟩
      have no_name := @not_mem_of_lookup? _ _ '&' (lookup?_eq_some_iff.mpr listed) (by decide)
      simp [no_name]
  | @decimal digits rest _ run =>
      refine ⟨_, ?_, @ampersand_not_mem_number [] _ List.not_mem_nil run.each rest⟩
      simp [closing_append_afterNumber]
  | @hexadecimal marker digits rest _ marked run =>
      refine ⟨_, ?_, ampersand_not_mem_number (ampersand_not_mem_marker marked) run.each rest⟩
      simp [closing_append_afterNumber]

theorem ampersand_not_mem_take_step (front : Char) (rest : Text) :
    '&' ∉ rest.take (step front rest).2 := by
  rcases decoded_or_copied_step front rest with ⟨character, decoded⟩ | ⟨_, width⟩
  · obtain ⟨behind, leads⟩ := exists_leadingReference_of_step decoded
    obtain ⟨tail, whole, no_ampersand⟩ := leads.exists_tail
    obtain ⟨width, stepped, dropped⟩ := leads.decodes
    have read : rest.take width ++ behind = tail ++ behind := by
      rw [← dropped, List.take_append_drop, dropped, (List.cons.inj whole).2]
    rwa [stepped, List.append_cancel_right read]
  · rw [width, List.take_zero]
    exact List.not_mem_nil

/-! ### What is left in place -/

/-- Where such a reference stands, the step leaves it in place. -/
theorem Nameless.exists_tail {before reference behind : Text}
    (nameless : Nameless ⟨before, reference, behind⟩) :
    ∃ tail, reference = '&' :: tail ∧ '&' ∉ tail ∧
      step '&' (tail ++ behind) = (.malformed reference, 0) := by
  cases nameless with
  | @decimal _ digits rest run each nameless =>
      refine ⟨_, rfl, @ampersand_not_mem_number [] _ List.not_mem_nil run.each rest, ?_⟩
      rw [List.cons_append, List.append_assoc, closing_append_afterNumber, step_numeric,
        numeric_of_decimal run each, numeral_of_nameless run [] (fun _ => each) nameless]
      rfl
  | @hexadecimal marker _ digits rest marked run nameless =>
      refine ⟨_, rfl,
        ampersand_not_mem_number (ampersand_not_mem_marker marked) run.each rest, ?_⟩
      rw [List.cons_append, List.cons_append, List.append_assoc, closing_append_afterNumber,
        step_numeric, numeric_of_marked marked,
        numeral_of_nameless run [marker] (by omega) nameless]
      rfl

theorem exists_nameless_of_numeric {tail reference : Text}
    (left : (numeric tail).1 = .malformed reference) (before : Text) :
    ∃ behind, reference ++ behind = '&' :: '#' :: tail ∧ Nameless ⟨before, reference, behind⟩ := by
  cases tail with
  | nil => cases left
  | cons front others =>
      by_cases marked : front = 'x' ∨ front = 'X'
      · rw [numeric_of_marked marked] at left
        obtain ⟨digits, behind, rfl, run, _, nameless, rfl⟩ := exists_run_of_malformed left
        exact ⟨_, by simp [closing_append_afterNumber], .hexadecimal marked run nameless⟩
      · rw [numeric_of_unmarked (not_or.mp marked)] at left
        obtain ⟨digits, behind, split, run, decimal, nameless, rfl⟩ := exists_run_of_malformed left
        rw [split]
        exact ⟨_, by simp [closing_append_afterNumber], .decimal run (decimal rfl) nameless⟩

/-- A step leaves a reference in place exactly if its number names no character. -/
theorem malformed?_step_iff (passed : Text) (front : Char) (rest reference : Text) :
    (step front rest).1.malformed? = some reference ↔
      ∃ behind, reference ++ behind = front :: rest ∧ Nameless ⟨passed, reference, behind⟩ := by
  constructor
  · intro left
    have malformed : (step front rest).1 = .malformed reference := by
      cases stepped : (step front rest).1 with
      | malformed written =>
          rw [stepped] at left
          exact congrArg Piece.malformed (Option.some.inj left)
      | _ =>
          rw [stepped] at left
          cases left
    unfold step at malformed
    split at malformed
    case isFalse => cases malformed
    case isTrue ampersand =>
      subst ampersand
      split at malformed
      case h_1 tail => exact exists_nameless_of_numeric malformed passed
      case h_2 =>
        rcases named_cases rest with ⟨plain, _⟩ | ⟨name, character, more, rfl, found⟩
        · rw [plain] at malformed
          cases malformed
        · rw [named_closed found] at malformed
          cases malformed
  · rintro ⟨behind, split, nameless⟩
    obtain ⟨tail, rfl, _, stepped⟩ := nameless.exists_tail
    obtain ⟨rfl, rfl⟩ := List.cons.inj split
    exact congrArg (·.1.malformed?) stepped

theorem finds_nameless : Scan.Finds step Piece.malformed? Nameless fun _ _ => True where
  written := by
    rintro ⟨before, reference, behind⟩ nameless
    obtain ⟨tail, rfl, _⟩ := nameless.exists_tail
    exact List.cons_ne_nil '&' tail
  here := fun _ => malformed?_step_iff _ _ _
  inside := by
    intro passed front rest _ skipped reference behind split short nameless
    obtain ⟨tail, rfl, _⟩ := nameless.exists_tail
    have member : '&' ∈ rest.take (step front rest).2 := by
      obtain ⟨further, width⟩ := Nat.exists_eq_add_of_lt short
      rw [width, Nat.add_assoc, ← split, List.take_length_add_append]
      exact List.mem_append_right skipped List.mem_cons_self
    exact ampersand_not_mem_take_step front rest member
  settled := fun _ => trivial

/-- What is in front of a reference that is left in place is decoded by itself, and what is behind
it too. -/
theorem Nameless.decode_text {occurrence : Occurrence} (nameless : Nameless occurrence) :
    decode occurrence.text =
      decode occurrence.before ++ occurrence.fragment ++ decode occurrence.behind := by
  obtain ⟨before, reference, behind⟩ := occurrence
  obtain ⟨tail, rfl, no_ampersand, stepped⟩ := nameless.exists_tail
  have apart : StandsApart ('&' :: (tail ++ behind)) := by
    constructor
    case number =>
      rintro character ⟨⟩
      decide
    case name =>
      rw [List.dropWhile_cons_of_neg (by decide)]
      simp
  rw [Occurrence.text, List.append_assoc, List.cons_append, decode_append_of_standsApart apart,
    decode_cons, stepped, List.drop_zero, decode_append no_ampersand, List.append_assoc]
  rfl

end Entity

/-! ## Both decoders -/

/-- The event warns of a fragment and shows its first 64 characters. -/
structure Event.WarnsOf (fragment : Text) (event : Event) : Prop where
  /-- It is a warning. -/
  level_eq : event.level = .warn
  /-- It says that something was left in place. -/
  message_eq : event.message = "Leaving malformed fragment in place"
  /-- It shows the fragment. -/
  shown : event.fields.lookup "fragment" = some (.text (fragment.take 64))

theorem Event.leftInPlace_warnsOf (malformed : MalformedFragment) :
    (Event.leftInPlace malformed).WarnsOf malformed.text := ⟨rfl, rfl, rfl⟩

/-- A decoder warns of the fragments of a kind and leaves them in place. -/
structure WarnsExactly (decode : Text → Logged Text) (Kind : Occurrence → Prop) : Prop where
  /-- There is one warning for each such fragment, in the order of the text, and no other event. -/
  warns : ∀ text, ∃ found, Occurrence.Lists Kind text found ∧
    List.Forall₂ (fun occurrence event => event.WarnsOf occurrence.fragment) found
      (decode text).events
  /-- Each such fragment stands in the decoded text as it is written, between what is decoded of the
  text in front of it and of the text behind it. -/
  leaves : ∀ occurrence, Kind occurrence → (decode occurrence.text).value =
    (decode occurrence.before).value ++ occurrence.fragment ++ (decode occurrence.behind).value

theorem forall₂_warnsOf_map (found : List Occurrence) {fault : Text → MalformedFragment}
    (text_fault : ∀ fragment, (fault fragment).text = fragment) :
    List.Forall₂ (fun occurrence event => event.WarnsOf occurrence.fragment) found
      ((found.map Occurrence.fragment).map fun fragment => Event.leftInPlace (fault fragment)) := by
  induction found with
  | nil => exact .nil
  | cons occurrence found ih =>
      refine .cons ?_ ih
      have warns := Event.leftInPlace_warnsOf (fault occurrence.fragment)
      rwa [text_fault] at warns

/-- A scan that finds the fragments of a kind warns of each of them. -/
theorem Scan.Finds.exists_warned {Piece : Type} {step : Char → Text → Piece × Nat}
    {report : Piece → Option Text} {Kind : Occurrence → Prop} {Settled : Text → Text → Prop}
    (finds : Scan.Finds step report Kind Settled) {text : Text} (settled : Settled [] text)
    {fault : Text → MalformedFragment} (text_fault : ∀ fragment, (fault fragment).text = fragment) :
    ∃ found, Occurrence.Lists Kind text found ∧
      List.Forall₂ (fun occurrence event => event.WarnsOf occurrence.fragment) found
        (((Scan.pieces step text).filterMap report).map fun fragment =>
          Event.leftInPlace (fault fragment)) := by
  obtain ⟨found, listed, reported⟩ := finds.exists_lists settled
  rw [reported]
  exact ⟨found, listed, forall₂_warnsOf_map found text_fault⟩

/-- The decoders warn of every unpaired surrogate and of every number that names no character, and
of nothing else. -/
theorem decoders_warn_exactly :
    WarnsExactly decodeEscapes UnicodeEscape.Unpaired ∧
      WarnsExactly decodeReferences Entity.Nameless := by
  constructor
  · refine ⟨fun text => ?_, fun _ => UnicodeEscape.Unpaired.decode_text⟩
    exact UnicodeEscape.finds_unpaired.exists_warned (UnicodeEscape.settled_nil text) fun _ => rfl
  · refine ⟨fun text => ?_, fun _ => Entity.Nameless.decode_text⟩
    exact @Scan.Finds.exists_warned _ _ _ _ _ Entity.finds_nameless text trivial _ fun _ => rfl

end ScriptSanitizer
