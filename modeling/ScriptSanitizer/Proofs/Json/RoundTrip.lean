import ScriptSanitizer.Proofs.Json.Spreading

/-!
# The compact form of a value is read back

A value that a reader can make has the members of every object in the order of their names and
does not nest too deeply.  Its compact form is read as the same value if its numbers are whole and
fit a word; of other numbers the reader may find a neighbour.
-/

namespace ScriptSanitizer

namespace Json

/-- The number is one of 64 bits, with or without a sign, or zero with a minus sign. -/
def Number.IsWhole : Number → Prop
  | integer value => -(maximalNegative : Int) ≤ value ∧ value ≤ maximalWord
  | float value => value = Binary64.zero.neg

/-- A value with numbers of a kind in which at most so many brackets are open at a time, and every
object has its members in the order of their names. -/
def Value.WellFormed (Allowed : Number → Prop) : Nat → Value → Prop
  | _, null => True
  | _, bool _ => True
  | _, number value => Allowed value
  | _, string _ => True
  | 0, array _ => False
  | 0, object _ => False
  | depth + 1, array items => ∀ item ∈ items, item.WellFormed Allowed depth
  | depth + 1, object members =>
    members.Pairwise (·.1 < ·.1) ∧ ∀ member ∈ members, member.2.WellFormed Allowed depth

/-- The value opens no brackets. -/
def Value.IsFlat : Value → Prop
  | array _ => False
  | object _ => False
  | _ => True

/-! ## Numbers -/

section

variable {inner : Option (Text → Except Mishap (Value × Text))}

theorem isSpace_of_isDecimalDigit {digit : Char} (decimal : isDecimalDigit digit = true) :
    isSpace digit = false := by
  cases space : isSpace digit with
  | false => rfl
  | true => rw [(not_isDecimalDigit_of_isSpace space).1] at decimal; contradiction

/-- What reading a number comes to as a value. -/
def numberValue (read : Except Mishap (Number × Text)) : Except Mishap (Value × Text) :=
  read.map fun read => (.number read.1, read.2)

theorem readValueWith_minus (rest : Text) :
    readValueWith inner ('-' :: rest) = numberValue (readNumber true rest) := by
  rw [readValueWith, skipSpace_cons_of_not_isSpace (by decide)]
  change (readNumber true rest >>= fun read => .ok (Value.number read.1, read.2)) = _
  cases readNumber true rest <;> rfl

theorem readValueWith_digit {digit : Char} (decimal : isDecimalDigit digit = true)
    (rest : Text) :
    readValueWith inner (digit :: rest) = numberValue (readNumber false (digit :: rest)) := by
  rw [readValueWith, skipSpace_cons_of_not_isSpace (isSpace_of_isDecimalDigit decimal)]
  split
  case h_1 => contradiction
  case h_2 split =>
    cases split
    split
    case h_8 =>
      rw [if_pos decimal]
      cases readNumber false (digit :: rest) <;> rfl
    all_goals exact absurd decimal (by decide)

theorem readValueWith_digitsOf {number : Nat} (within : number ≤ maximalWord) {rest : Text}
    (delimited : Delimited rest) :
    readValueWith inner (digitsOf 10 number ++ rest) = .ok (.number (.integer number), rest) := by
  have read := readNumber_digitsOf delimited false within
  have decimal := @isDecimalDigit_of_mem_digitsOf number
  obtain ⟨digit, digits, written⟩ := List.exists_cons_of_ne_nil (digitsOf_ne_nil number)
  rw [written] at read decimal ⊢
  rw [List.cons_append, readValueWith_digit (decimal List.mem_cons_self), ← List.cons_append, read]
  rfl

/-- The number with a minus sign that digits write. -/
theorem readValueWith_minus_digitsOf {number : Nat} (positive : 0 < number)
    (within : number ≤ maximalNegative) {rest : Text} (delimited : Delimited rest) :
    readValueWith inner ('-' :: (digitsOf 10 number ++ rest)) =
      .ok (.number (.integer (-number)), rest) := by
  have in_word : number ≤ maximalWord := Nat.le_trans within (by decide)
  have whole : ¬ (number = 0 ∨ maximalNegative < number) := by omega
  rw [readValueWith_minus, readNumber_digitsOf delimited true in_word, wholeNumber,
    if_neg (by decide), if_neg whole]
  rfl

theorem formatFloat_negative_zero : formatFloat Binary64.zero.neg = ['-', '0', '.', '0'] := by
  decide

/-- A whole number is read back. -/
theorem readValueWith_format {number : Number} (whole : number.IsWhole) {rest : Text}
    (delimited : Delimited rest) :
    readValueWith inner (number.format ++ rest) = .ok (.number number, rest) := by
  cases number with
  | integer value =>
      obtain ⟨above, below⟩ := whole
      rw [Number.format, formatInteger]
      split
      case isTrue negative =>
        have magnitude : -(value.natAbs : Int) = value := by omega
        have read := @readValueWith_minus_digitsOf inner value.natAbs (by omega) (by omega) rest
          delimited
        rwa [magnitude] at read
      case isFalse nonnegative =>
        have magnitude : (value.natAbs : Int) = value := by omega
        have read := @readValueWith_digitsOf inner value.natAbs (by omega) rest delimited
        rwa [magnitude] at read
  | float value =>
      obtain rfl : value = Binary64.zero.neg := whole
      rw [Number.format, formatFloat_negative_zero]
      simp only [List.cons_append, List.nil_append]
      rw [readValueWith_minus, readNumber_negative_zero delimited]
      rfl

theorem startsItem_format {number : Number} (whole : number.IsWhole) :
    StartsItem number.format := by
  cases number with
  | integer value =>
      have decimal := @isDecimalDigit_of_mem_digitsOf value.natAbs
      obtain ⟨digit, digits, written⟩ := List.exists_cons_of_ne_nil (digitsOf_ne_nil value.natAbs)
      rw [Number.format, formatInteger]
      split
      case isTrue => exact ⟨'-', _, rfl, rfl, by decide⟩
      case isFalse =>
        rw [written] at decimal
        have first := decimal List.mem_cons_self
        refine ⟨digit, digits, written, isSpace_of_isDecimalDigit first, ?_⟩
        rintro rfl
        exact absurd first (by decide)
  | float value =>
      obtain rfl : value = Binary64.zero.neg := whole
      exact ⟨'-', ['0', '.', '0'], formatFloat_negative_zero, rfl, by decide⟩

end

/-! ## Values -/

theorem compactItems_eq_spread (items : List Value) :
    Value.compactItems items = spread [] Value.compact items := by
  induction items with
  | nil => rfl
  | cons item items ih =>
      cases items with
      | nil => simp [Value.compactItems, spread]
      | cons next items => simp [Value.compactItems, ih, spread]

theorem compactMembers_eq_spread (members : List (Text × Value)) :
    Value.compactMembers members = spread [] (memberText [] Value.compact) members := by
  induction members with
  | nil => rfl
  | cons member members ih =>
      cases members with
      | nil => simp [Value.compactMembers, spread, memberText]
      | cons next members => simp [Value.compactMembers, ih, spread, memberText]

theorem readValue_append_blank {gap : Text} (blank : Blank gap) (depth : Nat) (text : Text) :
    readValue depth (gap ++ text) = readValue depth text := by
  cases depth <;> simp only [readValue, readValueWith, skipSpace_append blank]

section

-- How the contents of brackets are written, with which gaps, and how the brackets are.
variable {depth : Nat} {write writeInner : Value → Text} {gap inner closing : Text}
  (blank : Blank gap) (closing_blank : Blank closing)
include blank closing_blank

/-- Reading a value inside one more pair of brackets. -/
theorem readBack_array {items : List Value}
    (written : write (.array items) = '[' :: (spread gap writeInner items ++ (closing ++ [']'])))
    (back : ∀ item ∈ items, ReadBack (readValue depth) writeInner item) :
    ReadBack (readValue (depth + 1)) write (.array items) where
  starts := ⟨'[', _, written, rfl, by decide⟩
  reads rest delimited := by
    have present : ∀ item ∈ items, writeInner item ≠ [] := fun item here =>
      (back item here).starts.ne_nil
    have enough : items.length <
        (spread gap writeInner items ++ (closing ++ ']' :: rest)).length + 1 := by
      have within := length_le_length_spread gap present
      rw [List.length_append]
      omega
    have read := readItems_spread blank closing_blank back enough rest
    have text_eq : write (.array items) ++ rest =
        '[' :: (spread gap writeInner items ++ (closing ++ ']' :: rest)) := by
      simp [written]
    rw [text_eq, readValue, readValueWith, skipSpace_cons_of_not_isSpace (by decide)]
    change readNested (some (readValue depth)) '[' _ = _
    simp only [readNested, ↓reduceIte, read, bind, Except.bind]

variable (inner_blank : Blank inner) {members : List (Text × Value)}
  (written : write (.object members) =
    '\x7b' :: (spread gap (memberText inner writeInner) members ++ (closing ++ ['\x7d'])))
  (back : ∀ member ∈ members, ReadBack (readValue depth) writeInner member.2)
include inner_blank written back

/-- The members of an object are read under their names, in whichever order they are written. -/
theorem readValue_object (rest : Text) :
    readValue (depth + 1) (write (.object members) ++ rest) =
      .ok (.object (insertMembers [] members), rest) := by
  have present : ∀ member ∈ members, memberText inner writeInner member ≠ [] := fun member _ =>
    List.cons_ne_nil _ _
  have enough : members.length <
      (spread gap (memberText inner writeInner) members ++
        (closing ++ '\x7d' :: rest)).length + 1 := by
    have within := length_le_length_spread gap present
    rw [List.length_append]
    omega
  have steps := fun member here =>
    stepsBy_readMember (readValue_append_blank inner_blank depth) (back member here)
  have read := readMembers_spread blank closing_blank steps enough [] rest
  have text_eq : write (.object members) ++ rest =
      '\x7b' :: (spread gap (memberText inner writeInner) members ++
        (closing ++ '\x7d' :: rest)) := by
    simp [written]
  rw [text_eq, readValue, readValueWith, skipSpace_cons_of_not_isSpace (by decide)]
  change readNested (some (readValue depth)) '\x7b' _ = _
  simp only [readNested, Char.reduceEq, ↓reduceIte, read, bind, Except.bind, insertMembers]

theorem readBack_object (sorted : members.Pairwise (·.1 < ·.1)) :
    ReadBack (readValue (depth + 1)) write (.object members) where
  starts := ⟨'\x7b', _, written, rfl, by decide⟩
  reads rest _ := by
    rw [readValue_object blank closing_blank inner_blank written back rest,
      insertMembers_of_pairwise sorted, List.nil_append]

end

theorem compact_array (items : List Value) :
    (Value.array items).compact = '[' :: (spread [] Value.compact items ++ ([] ++ [']'])) := by
  simp [Value.compact, compactItems_eq_spread]

theorem compact_object (members : List (Text × Value)) :
    (Value.object members).compact =
      '\x7b' :: (spread [] (memberText [] Value.compact) members ++ ([] ++ ['\x7d'])) := by
  simp [Value.compact, compactMembers_eq_spread]

theorem readBack_of_isFlat {inner : Option (Text → Except Mishap (Value × Text))} {value : Value}
    (flat : value.IsFlat) (whole : ∀ number, value = .number number → number.IsWhole) :
    ReadBack (readValueWith inner) Value.compact value := by
  cases value with
  | null => exact ⟨⟨'n', _, rfl, rfl, by decide⟩, fun rest _ => rfl⟩
  | bool value =>
      cases value with
      | true => exact ⟨⟨'t', _, rfl, rfl, by decide⟩, fun rest _ => rfl⟩
      | false => exact ⟨⟨'f', _, rfl, rfl, by decide⟩, fun rest _ => rfl⟩
  | number value =>
      have value_whole := whole value rfl
      exact ⟨startsItem_format value_whole, fun rest => readValueWith_format value_whole⟩
  | string value =>
      refine ⟨⟨'"', _, rfl, rfl, by decide⟩, fun rest _ => ?_⟩
      have written : (Value.string value).compact ++ rest =
          '"' :: (value.flatMap escapeChar ++ '"' :: rest) := by
        simp [Value.compact, quote]
      rw [written, readValueWith, skipSpace_cons_of_not_isSpace (by decide)]
      change (readString _ >>= fun read => .ok (Value.string read.1, read.2)) = _
      rw [readString_quote]
      rfl
  | array items => exact flat.elim
  | object members => exact flat.elim

/-- A value is read back from its compact form, whatever follows. -/
theorem readBack_compact {depth : Nat} {value : Value}
    (wellFormed : value.WellFormed Number.IsWhole depth) :
    ReadBack (readValue depth) Value.compact value := by
  induction depth generalizing value with
  | zero =>
      refine readBack_of_isFlat ?_ ?_
      · cases value <;> trivial
      · rintro number rfl
        exact wellFormed
  | succ depth ih =>
      cases value with
      | array items =>
          exact readBack_array blank_nil blank_nil (compact_array items) fun item here =>
            ih (wellFormed item here)
      | object members =>
          exact readBack_object blank_nil blank_nil blank_nil (compact_object members)
            (fun member here => ih (wellFormed.2 member here)) wellFormed.1
      | number value =>
          refine readBack_of_isFlat trivial ?_
          rintro number ⟨⟩
          exact wellFormed
      | _ => exact readBack_of_isFlat trivial (by rintro number ⟨⟩)

/-- A text that is read to its end, or to white space in front of its end, is a document. -/
theorem ofText?_of_readValue {text rest : Text} {value : Value} (blank : Blank rest)
    (read : readValue maximalDepth text = .ok (value, rest)) : Value.ofText? text = .ok value := by
  have nothing : skipSpace rest = [] := by
    have alone := skipSpace_append blank []
    rwa [List.append_nil] at alone
  have finished : finish rest = .ok () := by rw [finish, nothing]
  have document : readDocument text = .ok value := by
    simp only [readDocument, read, finished, bind, Except.bind]
  rw [Value.ofText?, document]
  rfl

/-- What is read back whatever follows is read from a text with white space at its end. -/
theorem ofText?_of_readBack {write : Value → Text} {value : Value}
    (back : ReadBack (readValue maximalDepth) write value) {gap : Text} (blank : Blank gap) :
    Value.ofText? (write value ++ gap) = .ok value := by
  have delimited : Delimited (gap ++ []) := .append blank (by rintro front ⟨⟩)
  rw [List.append_nil] at delimited
  exact ofText?_of_readValue blank (back.reads gap delimited)

/-- The compact form of a value is a document that writes the value. -/
theorem ofText?_compact {value : Value}
    (wellFormed : value.WellFormed Number.IsWhole maximalDepth) :
    Value.ofText? value.compact = .ok value := by
  have read := ofText?_of_readBack (readBack_compact wellFormed) blank_nil
  rwa [List.append_nil] at read

/-- The compact form of an object is a document, even if its members stand in another order than
their names. -/
theorem ofText?_compact_object {members : List (Text × Value)}
    (wellFormed : ∀ member ∈ members, member.2.WellFormed Number.IsWhole (maximalDepth - 1)) :
    Value.ofText? (Value.object members).compact = .ok (.object (insertMembers [] members)) := by
  have read := readValue_object blank_nil blank_nil blank_nil (compact_object members)
    (fun member here => readBack_compact (wellFormed member here)) []
  rw [List.append_nil] at read
  exact ofText?_of_readValue blank_nil read

end Json

end ScriptSanitizer
