import ScriptSanitizer.Proofs.Json.Lexemes

/-!
# Compact documents have no control characters

Strings escape every control character, and nothing else that a compact document writes holds one.
So a compact document is one line, whatever its strings are.
-/

namespace ScriptSanitizer

namespace Json

/-- The text has no control characters. -/
def Printable (text : Text) : Prop := ∀ character ∈ text, ' ' ≤ character

instance (text : Text) : Decidable (Printable text) :=
  List.decidableBAll (' ' ≤ ·) text

namespace Printable

variable {left right text : Text}

theorem append (first : Printable left) (second : Printable right) : Printable (left ++ right) :=
  List.forall_mem_append.mpr ⟨first, second⟩

theorem cons {front : Char} (first : ' ' ≤ front) (others : Printable text) :
    Printable (front :: text) :=
  List.forall_mem_cons.mpr ⟨first, others⟩

theorem of_subset (subset : left ⊆ right) (printable : Printable right) : Printable left :=
  fun character here => printable character (subset here)

theorem replicate (count : Nat) {character : Char} (shown : ' ' ≤ character) :
    Printable (List.replicate count character) := by
  intro other here
  rwa [List.eq_of_mem_replicate here]

end Printable

/-! ## Strings -/

theorem space_le_digitChar {digit : Nat} (hexadecimal : digit < 16) :
    ' ' ≤ Nat.digitChar digit := by
  revert digit
  decide

theorem printable_escapeChar (character : Char) : Printable (escapeChar character) := by
  unfold escapeChar
  split
  case h_8 =>
    split
    case isTrue control =>
      have below : character.toNat < 32 := control
      have high := space_le_digitChar (by omega : character.toNat / 16 < 16)
      have low := space_le_digitChar (by omega : character.toNat % 16 < 16)
      exact Printable.append (by decide : Printable ['\\', 'u', '0', '0'])
        (.cons high (.cons low (by decide)))
    case isFalse shown => exact .cons (Char.not_lt.mp shown) (by decide)
  all_goals decide

theorem printable_quote (string : Text) : Printable (quote string) := by
  refine .cons (by decide) (.append (fun character here => ?_) (by decide))
  obtain ⟨source, -, escaped⟩ := List.mem_flatMap.mp here
  exact printable_escapeChar source character escaped

/-! ## Numbers -/

theorem printable_digitsOf (number : Nat) : Printable (digitsOf 10 number) := by
  intro digit here
  have decimal := isDecimalDigit_of_mem_digitsOf here
  simp only [isDecimalDigit, Bool.and_eq_true, decide_eq_true_eq] at decimal
  exact Char.le_trans (by decide) decimal.1

theorem printable_formatInteger (number : Int) : Printable (formatInteger number) := by
  unfold formatInteger
  split
  · exact .cons (by decide) (printable_digitsOf _)
  · exact printable_digitsOf _

theorem printable_formatDecimal {digits : Text} (printable : Printable digits) (power : Int) :
    Printable (formatDecimal digits power) := by
  have front (count : Nat) : Printable (digits.take count) :=
    printable.of_subset (List.take_subset count digits)
  have behind (count : Nat) : Printable (digits.drop count) :=
    printable.of_subset (List.drop_subset count digits)
  unfold formatDecimal
  dsimp only
  split
  · exact .append (.append printable (.replicate _ (by decide))) (by decide)
  split
  · exact .append (front _) (.cons (by decide) (behind _))
  split
  · exact .append (.append (by decide) (.replicate _ (by decide))) printable
  have exponent (number : Nat) (sign : Char) (shown : ' ' ≤ sign) :
      Printable ('e' :: sign :: digitsOf 10 number) :=
    .cons (by decide) (.cons shown (printable_digitsOf number))
  refine .append ?_ (exponent _ _ (by split <;> decide))
  split
  · exact .cons (printable _ List.mem_cons_self)
      (.cons (by decide) (printable.of_subset (List.subset_cons_self _ _)))
  · exact printable

theorem printable_formatFloat (number : Binary64) : Printable (formatFloat number) := by
  unfold formatFloat
  -- The decimal is generalized, so that nothing computes it for a number that is not known.
  generalize number.shortest = decimal
  obtain ⟨significand, power⟩ := decimal
  have magnitude : Printable (if number.isZero then ['0', '.', '0'] else
      formatDecimal (digitsOf 10 significand) power) := by
    split
    · decide
    · exact printable_formatDecimal (printable_digitsOf significand) power
  dsimp only
  split
  · exact .cons (by decide) magnitude
  · exact magnitude

theorem printable_format (number : Number) : Printable number.format := by
  cases number with
  | integer value => exact printable_formatInteger value
  | float value => exact printable_formatFloat value

/-! ## Values -/

mutual

theorem printable_compact (value : Value) : Printable value.compact :=
  match value with
  | .null => by decide
  | .bool true => by decide
  | .bool false => by decide
  | .number value => printable_format value
  | .string value => printable_quote value
  | .array items =>
    .cons (by decide) (.append (printable_compactItems items) (by decide))
  | .object members =>
    .cons (by decide) (.append (printable_compactMembers members) (by decide))

theorem printable_compactItems (items : List Value) : Printable (Value.compactItems items) :=
  match items with
  | [] => by decide
  | [item] => printable_compact item
  | item :: next :: items =>
    .append (printable_compact item) (.cons (by decide) (printable_compactItems (next :: items)))

theorem printable_compactMembers (members : List (Text × Value)) :
    Printable (Value.compactMembers members) :=
  match members with
  | [] => by decide
  | [(name, value)] => .append (printable_quote name) (.cons (by decide) (printable_compact value))
  | (name, value) :: next :: members =>
    .append (.append (printable_quote name) (.cons (by decide) (printable_compact value)))
      (.cons (by decide) (printable_compactMembers (next :: members)))

end

end Json

end ScriptSanitizer
