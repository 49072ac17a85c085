import Mathlib.Data.List.Induction
import Mathlib.Data.List.Sort
import Mathlib.Data.Nat.Digits.Defs
import ScriptSanitizer.Proofs.Locality

/-!
# References from left to right

The decoder looks for a name within a window and tells by widths how far it has read.  Nothing of
this shows in what it does: from left to right, a reference gives way to the character of its name
or of its number, however long these are, and where there is no reference one character is copied.
What a text resolves to in this way is what it decodes to.
-/

namespace ScriptSanitizer

namespace Entity

/-! ## The grammar of references -/

/-- The natural number that digits write in a radix. -/
def numberOf (radix : Nat) (digits : Text) : Nat :=
  Nat.ofDigits radix (digits.reverse.filterMap hexDigit?)

/-- The reference in front of a text: the text, the character that the reference names, and what
stands behind the reference. -/
inductive LeadingReference : Text → Char → Text → Prop where
  /-- By an entry of the table. -/
  | named {name behind : Text} {character : Char} (listed : (name, character) ∈ table) :
      LeadingReference ('&' :: (name ++ ';' :: behind)) character behind
  /-- By a decimal number. -/
  | decimal {digits behind : Text} {character : Char} (run : DigitRun digits behind)
      (each : ∀ digit ∈ digits, isDecimalDigit digit = true)
      (code : character.toNat = numberOf 10 digits) :
      LeadingReference ('&' :: '#' :: (digits ++ behind)) character (afterNumber behind)
  /-- By a hexadecimal number. -/
  | hexadecimal {marker : Char} {digits behind : Text} {character : Char}
      (marked : marker = 'x' ∨ marker = 'X') (run : DigitRun digits behind)
      (code : character.toNat = numberOf 16 digits) :
      LeadingReference ('&' :: '#' :: marker :: (digits ++ behind)) character (afterNumber behind)

/-- A text and what it resolves to.  The scan goes on behind a reference, so that what a reference
gives way to is not looked at again. -/
inductive Resolves : Text → Text → Prop where
  | nil : Resolves [] []
  /-- A reference gives way to its character. -/
  | reference {text behind resolved : Text} {character : Char}
      (leads : LeadingReference text character behind) (others : Resolves behind resolved) :
      Resolves text (character :: resolved)
  /-- Where there is no reference a character is copied. -/
  | copied {front : Char} {rest resolved : Text}
      (plain : ∀ character behind, ¬ LeadingReference (front :: rest) character behind)
      (others : Resolves rest resolved) : Resolves (front :: rest) (front :: resolved)

/-! ## Names and numbers -/

/-- The characters of a name as the digits of a number, so that names can be sorted. -/
def rank (name : Text) : Nat :=
  name.foldl (fun front character => front * 128 + character.toNat) 0

/-- No name stands twice in the table. -/
theorem nodup_names : (table.map Prod.fst).Nodup := by
  have sorted : List.IsChain (· < ·)
      (((table.map Prod.fst).map rank).insertionSort (· ≤ ·)) := by
    decide +kernel
  have ranks : ((table.map Prod.fst).map rank).Nodup :=
    (List.perm_insertionSort _ _).nodup_iff.mp (List.isChain_iff_pairwise.mp sorted).nodup
  exact ranks.of_map

theorem lookup?_eq_some_iff {name : Text} {character : Char} :
    lookup? name = some character ↔ (name, character) ∈ table := by
  rw [lookup?, List.lookup_eq_some_iff]
  constructor
  · rintro ⟨before, behind, split, _⟩
    rw [split]
    exact List.mem_append_right before List.mem_cons_self
  · intro listed
    obtain ⟨before, behind, split⟩ := List.append_of_mem listed
    refine ⟨before, behind, split, fun entry member => ?_⟩
    have distinct := nodup_names
    rw [split, List.map_append, List.map_cons, List.nodup_append] at distinct
    have differs := distinct.2.2 entry.1 (List.mem_map_of_mem member) name List.mem_cons_self
    simpa using differs.symm

/-- Reading digits one after the other gives the number that they write. -/
theorem digitsValue_eq_numberOf (radix : Nat) {digits : Text}
    (each : ∀ digit ∈ digits, isHexDigit digit = true) :
    digitsValue radix digits = numberOf radix digits := by
  induction digits using List.reverseRecOn with
  | nil => rfl
  | append_singleton digits last ih =>
      obtain ⟨others, digit⟩ := List.forall_mem_append.mp each
      obtain ⟨value, found⟩ :=
        Option.isSome_iff_exists.mp (digit last (List.mem_singleton_self last))
      have step : digitsValue radix (digits ++ [last]) =
          digitsValue radix digits * radix + value := by
        simp [digitsValue, found]
      have written : numberOf radix (digits ++ [last]) = value + radix * numberOf radix digits := by
        simp [numberOf, found, Nat.ofDigits_cons]
      rw [step, written, ih others, Nat.mul_comm, Nat.add_comm]

/-! ## Steps and references -/

/-- Where there is a reference the step decodes it. -/
theorem LeadingReference.decodes {front character : Char} {rest behind : Text}
    (leads : LeadingReference (front :: rest) character behind) :
    Decodes front rest character behind := by
  generalize whole : front :: rest = text at leads
  cases leads with
  | named listed =>
      obtain ⟨rfl, rfl⟩ := List.cons.inj whole
      exact decodes_named (lookup?_eq_some_iff.mpr listed) behind
  | decimal run each code =>
      obtain ⟨rfl, rfl⟩ := List.cons.inj whole
      exact decodes_decimal run each ((digitsValue_eq_numberOf 10 run.each).trans code.symm)
  | hexadecimal marked run code =>
      obtain ⟨rfl, rfl⟩ := List.cons.inj whole
      exact decodes_hexadecimal marked run ((digitsValue_eq_numberOf 16 run.each).trans code.symm)

/-- A number makes a reference only if it is a whole run of digits of its radix. -/
theorem numeral_cases (radix : Nat) (marker body : Text) :
    numeral radix marker body = (.plain '&', 0) ∨
      ∃ digits behind, body = digits ++ behind ∧ DigitRun digits behind ∧
        (radix = 10 → ∀ digit ∈ digits, isDecimalDigit digit = true) := by
  have split : body.takeWhile isHexDigit ++ body.dropWhile isHexDigit = body :=
    List.takeWhile_append_dropWhile
  have each : ∀ digit ∈ body.takeWhile isHexDigit, isHexDigit digit = true :=
    List.all_eq_true.mp List.all_takeWhile
  have ended := List.head?_dropWhile_not isHexDigit body
  by_cases reads : ((body.takeWhile isHexDigit).isEmpty ||
      (radix == 10 && !(body.takeWhile isHexDigit).all isDecimalDigit)) = true
  · exact .inl (if_pos reads)
  · rw [Bool.or_eq_true, not_or, List.isEmpty_iff] at reads
    refine .inr ⟨_, _, split.symm, ⟨reads.1, each, ?_⟩, ?_⟩
    · intro head first
      rw [first] at ended
      exact ended
    · rintro rfl
      simpa using reads.2

/-- A number that is decoded is a whole run of digits. -/
theorem exists_run_of_numeral {radix : Nat} {marker body : Text} {character : Char}
    (decoded : (numeral radix marker body).1 = .decoded character) :
    ∃ digits behind, body = digits ++ behind ∧ DigitRun digits behind ∧
      (radix = 10 → ∀ digit ∈ digits, isDecimalDigit digit = true) ∧
      character.toNat = numberOf radix digits := by
  rcases numeral_cases radix marker body with plain | ⟨digits, behind, rfl, run, decimal⟩
  · rw [plain] at decoded
    cases decoded
  · refine ⟨digits, behind, rfl, run, decimal, ?_⟩
    rw [numeral_of_run run marker decimal] at decoded
    split at decoded
    case h_1 named found =>
      obtain rfl := Piece.decoded.inj decoded
      rw [toNat_of_scalar? found, digitsValue_eq_numberOf radix run.each]
    case h_2 => cases decoded

theorem exists_leadingReference_of_numeric {tail : Text} {character : Char}
    (decoded : (numeric tail).1 = .decoded character) :
    ∃ behind, LeadingReference ('&' :: '#' :: tail) character behind := by
  cases tail with
  | nil => cases decoded
  | cons front others =>
      by_cases marked : front = 'x' ∨ front = 'X'
      · rw [numeric_of_marked marked] at decoded
        obtain ⟨digits, behind, rfl, run, _, code⟩ := exists_run_of_numeral decoded
        exact ⟨_, .hexadecimal marked run code⟩
      · rw [numeric_of_unmarked (not_or.mp marked)] at decoded
        obtain ⟨digits, behind, split, run, decimal, code⟩ := exists_run_of_numeral decoded
        rw [split]
        exact ⟨_, .decimal run (decimal rfl) code⟩

theorem exists_leadingReference_of_named {tail : Text} {character : Char}
    (decoded : (named tail).1 = .decoded character) :
    ∃ behind, LeadingReference ('&' :: tail) character behind := by
  rcases named_cases tail with ⟨plain, _⟩ | ⟨name, other, rest, rfl, found⟩
  · rw [plain] at decoded
    cases decoded
  · rw [named_closed found] at decoded
    obtain rfl := Piece.decoded.inj decoded
    exact ⟨rest, .named (lookup?_eq_some_iff.mp found)⟩

/-- Where the step decodes a character there is a reference to it. -/
theorem exists_leadingReference_of_step {front character : Char} {rest : Text}
    (decoded : (step front rest).1 = .decoded character) :
    ∃ behind, LeadingReference (front :: rest) character behind := by
  unfold step at decoded
  split at decoded
  case isFalse => cases decoded
  case isTrue ampersand =>
    subst ampersand
    split at decoded
    case h_1 tail => exact exists_leadingReference_of_numeric decoded
    case h_2 => exact exists_leadingReference_of_named decoded

/-- Where there is no reference the character in front is copied. -/
theorem decode_cons_of_plain {front : Char} {rest : Text}
    (plain : ∀ character behind, ¬ LeadingReference (front :: rest) character behind) :
    decode (front :: rest) = front :: decode rest := by
  rcases decoded_or_copied_step front rest with ⟨character, decoded⟩ | ⟨copied, width⟩
  · obtain ⟨behind, leads⟩ := exists_leadingReference_of_step decoded
    exact absurd leads (plain character behind)
  · rw [decode_cons, copied, width, List.drop_zero, List.singleton_append]

/-! ## Texts -/

theorem LeadingReference.decode_eq {text behind : Text} {character : Char}
    (leads : LeadingReference text character behind) :
    decode text = character :: decode behind := by
  cases text with
  | nil => cases leads
  | cons front rest => exact leads.decodes.decode_eq

theorem LeadingReference.length_lt {text behind : Text} {character : Char}
    (leads : LeadingReference text character behind) : behind.length < text.length := by
  cases text with
  | nil => cases leads
  | cons front rest =>
      obtain ⟨width, _, rfl⟩ := leads.decodes
      rw [List.length_drop, List.length_cons]
      omega

theorem Resolves.decode_eq {text resolved : Text} (resolves : Resolves text resolved) :
    decode text = resolved := by
  induction resolves with
  | nil => rfl
  | reference leads _ ih => rw [leads.decode_eq, ih]
  | copied plain _ ih => rw [decode_cons_of_plain plain, ih]

theorem exists_resolves (text : Text) : ∃ resolved, Resolves text resolved := by
  induction length : text.length using Nat.strong_induction_on generalizing text with
  | _ size ih =>
      subst length
      cases text with
      | nil => exact ⟨[], .nil⟩
      | cons front rest =>
          by_cases reference :
              ∃ character behind, LeadingReference (front :: rest) character behind
          · obtain ⟨character, behind, leads⟩ := reference
            obtain ⟨resolved, others⟩ := ih behind.length leads.length_lt behind rfl
            exact ⟨character :: resolved, .reference leads others⟩
          · obtain ⟨resolved, others⟩ := ih rest.length (Nat.lt_succ_self _) rest rfl
            exact ⟨front :: resolved, .copied (by simpa using reference) others⟩

/-- A text decodes to what it resolves to, and to nothing else. -/
theorem decode_eq_iff_resolves (text decoded : Text) :
    decode text = decoded ↔ Resolves text decoded := by
  constructor
  · rintro rfl
    obtain ⟨resolved, resolves⟩ := exists_resolves text
    rwa [resolves.decode_eq]
  · exact Resolves.decode_eq

example : decode "&amp;lt;&#X03c&#x110000;&#12ab;&#60".toList =
    "&lt;<&#x110000;&#12ab;<".toList := by
  decide +kernel

end Entity

end ScriptSanitizer
