import ScriptSanitizer.Text.Utf8

/-!
# Reading what was encoded

The automaton reads the bytes of a character back as that character and is then between two
characters again.  So the lossy reading of an encoded text is the text.
-/

namespace ScriptSanitizer

namespace Utf8

theorem unitsFrom_cons (state : State) {code : Nat} (byte : code < 256) (rest : List UInt8) :
    unitsFrom state (code.toUInt8 :: rest) =
      (next state code).1 ++ unitsFrom (next state code).2 rest := by
  have same : code.toUInt8.toNat = code := UInt8.toNat_ofNat_of_lt' byte
  cases state <;> simp only [unitsFrom, same]

/-! ## Continuation bytes -/

variable {value pending low high bits : Nat}

theorem next_last (below : low ≤ 0x80 + bits) (above : 0x80 + bits ≤ high) :
    next (.within value 0 low high) (0x80 + bits) =
      ([some (Char.ofNat (value * 64 + bits))], .between) := by
  rw [next, if_pos ⟨below, above⟩, Nat.add_sub_cancel_left]

theorem next_middle (below : low ≤ 0x80 + bits) (above : 0x80 + bits ≤ high) :
    next (.within value (pending + 1) low high) (0x80 + bits) =
      ([], .within (value * 64 + bits) pending 0x80 0xBF) := by
  rw [next, if_pos ⟨below, above⟩, Nat.add_sub_cancel_left]

/-! ## First bytes -/

theorem start_two (long : 2 ≤ value) (bound : value < 32) :
    start (0xC0 + value) = ([], .within value 0 0x80 0xBF) := by
  have past_ascii : ¬ 0xC0 + value < 0x80 := by omega
  have past_short : ¬ 0xC0 + value < 0xC2 := by omega
  have two : 0xC0 + value < 0xE0 := by omega
  rw [start, if_neg past_ascii, if_neg past_short, if_pos two, Nat.add_sub_cancel_left]

/-- The second of three bytes has narrower bounds behind the least value and before the
surrogates. -/
theorem start_three (bound : value < 16) (bits_bound : bits < 64) (long : value = 0 → 32 ≤ bits)
    (no_surrogate : value = 13 → bits < 32) :
    ∃ low high, start (0xE0 + value) = ([], .within value 1 low high) ∧
      low ≤ 0x80 + bits ∧ 0x80 + bits ≤ high := by
  by_cases least : value = 0
  · subst least
    exact ⟨0xA0, 0xBF, rfl, by omega, by omega⟩
  · by_cases before_surrogates : value = 13
    · subst before_surrogates
      exact ⟨0x80, 0x9F, rfl, by omega, by omega⟩
    · refine ⟨0x80, 0xBF, ?_, by omega, by omega⟩
      have past_ascii : ¬ 0xE0 + value < 0x80 := by omega
      have past_short : ¬ 0xE0 + value < 0xC2 := by omega
      have past_two : ¬ 0xE0 + value < 0xE0 := by omega
      have not_least : ¬ 0xE0 + value = 0xE0 := by omega
      have not_before_surrogates : ¬ 0xE0 + value = 0xED := by omega
      have three : 0xE0 + value < 0xF0 := by omega
      rw [start, if_neg past_ascii, if_neg past_short, if_neg past_two, if_neg not_least,
        if_neg not_before_surrogates, if_pos three, Nat.add_sub_cancel_left]

/-- The second of four bytes has narrower bounds behind the least value and behind the greatest. -/
theorem start_four (bound : value < 5) (bits_bound : bits < 64) (long : value = 0 → 16 ≤ bits)
    (in_range : value = 4 → bits < 16) :
    ∃ low high, start (0xF0 + value) = ([], .within value 2 low high) ∧
      low ≤ 0x80 + bits ∧ 0x80 + bits ≤ high := by
  by_cases least : value = 0
  · subst least
    exact ⟨0x90, 0xBF, rfl, by omega, by omega⟩
  · by_cases greatest : value = 4
    · subst greatest
      exact ⟨0x80, 0x8F, rfl, by omega, by omega⟩
    · refine ⟨0x80, 0xBF, ?_, by omega, by omega⟩
      obtain rfl | rfl | rfl : value = 1 ∨ value = 2 ∨ value = 3 := by omega
      all_goals rfl

/-! ## Characters and texts -/

theorem toNat_bounds (character : Char) :
    character.toNat < 0xD800 ∨ 0xDFFF < character.toNat ∧ character.toNat < 0x110000 :=
  character.valid

/-- The bytes of a character are read as that character, whatever follows them. -/
theorem unitsFrom_encodeChar (character : Char) (rest : List UInt8) :
    unitsFrom .between (encodeChar character ++ rest) =
      some character :: unitsFrom .between rest := by
  have valid := toNat_bounds character
  have character_eq : Char.ofNat character.toNat = character := Char.ofNat_toNat character
  unfold encodeChar
  dsimp only
  generalize character.toNat = code at valid character_eq ⊢
  by_cases one : code < 0x80
  · rw [if_pos one, List.singleton_append, unitsFrom_cons _ (by omega)]
    simp only [next, start, one, ↓reduceIte, character_eq, List.singleton_append]
  rw [if_neg one]
  by_cases two : code < 0x800
  · have code_eq : code / 64 * 64 + code % 64 = code := by omega
    rw [if_pos two, List.cons_append, List.singleton_append,
      unitsFrom_cons _ (by omega), next, start_two (by omega) (by omega),
      List.nil_append, unitsFrom_cons _ (by omega), next_last (by omega) (by omega), code_eq,
      character_eq, List.singleton_append]
  rw [if_neg two]
  by_cases three : code < 0x10000
  · have code_eq : (code / 4096 * 64 + code / 64 % 64) * 64 + code % 64 = code := by omega
    obtain ⟨low, high, first, below, above⟩ :=
      @start_three (code / 4096) (code / 64 % 64) (by omega) (by omega) (by omega) (by omega)
    rw [if_pos three, List.cons_append, List.cons_append, List.singleton_append,
      unitsFrom_cons _ (by omega), next, first, List.nil_append,
      unitsFrom_cons _ (by omega), next_middle below above, List.nil_append,
      unitsFrom_cons _ (by omega), next_last (by omega) (by omega), code_eq, character_eq,
      List.singleton_append]
  · have code_eq : ((code / 262144 * 64 + code / 4096 % 64) * 64 + code / 64 % 64) * 64 +
        code % 64 = code := by omega
    obtain ⟨low, high, first, below, above⟩ :=
      @start_four (code / 262144) (code / 4096 % 64) (by omega) (by omega) (by omega) (by omega)
    rw [if_neg three, List.cons_append, List.cons_append, List.cons_append, List.singleton_append,
      unitsFrom_cons _ (by omega), next, first, List.nil_append,
      unitsFrom_cons _ (by omega), next_middle below above, List.nil_append,
      unitsFrom_cons _ (by omega), next_middle (by omega) (by omega), List.nil_append,
      unitsFrom_cons _ (by omega), next_last (by omega) (by omega), code_eq, character_eq,
      List.singleton_append]

theorem encode_append (left right : Text) :
    encode (left ++ right) = encode left ++ encode right :=
  List.flatMap_append

theorem length_encodeChar (character : Char) :
    (encodeChar character).length = character.utf8Size := by
  have one : UInt32.toNat 0x7F = 0x7F := rfl
  have two : UInt32.toNat 0x7FF = 0x7FF := rfl
  have three : UInt32.toNat 0xFFFF = 0xFFFF := rfl
  unfold encodeChar Char.utf8Size
  simp only [UInt32.le_iff_toNat_le, Char.toNat]
  split <;> split <;> grind

theorem length_encode (text : Text) : (encode text).length = byteLength text := by
  induction text with
  | nil => rfl
  | cons character text ih =>
      rw [encode, List.flatMap_cons, List.length_append, length_encodeChar, byteLength_cons]
      exact congrArg (character.utf8Size + ·) ih

theorem units_encode_append (text : Text) (more : List UInt8) :
    units (encode text ++ more) = text.map some ++ units more := by
  unfold units encode
  induction text with
  | nil => rfl
  | cons character text ih =>
      rw [List.flatMap_cons, List.append_assoc, unitsFrom_encodeChar, ih, List.map_cons,
        List.cons_append]

/-- The lossy reading of an encoded text loses nothing, whatever follows it. -/
theorem decodeLossy_encode_append (text : Text) (more : List UInt8) :
    decodeLossy (encode text ++ more) = text ++ decodeLossy more := by
  rw [decodeLossy, units_encode_append, List.map_append, List.map_map]
  exact congrArg (· ++ decodeLossy more) (List.map_id text)

/-- The lossy reading of an encoded text loses nothing. -/
theorem decodeLossy_encode (text : Text) : decodeLossy (encode text) = text := by
  have alone := decodeLossy_encode_append text []
  rw [List.append_nil] at alone
  exact alone.trans (List.append_nil text)

/-- The strict reading of an encoded text finds nothing malformed. -/
theorem decode?_encode (text : Text) : decode? (encode text) = some text := by
  have units_eq := units_encode_append text []
  rw [List.append_nil] at units_eq
  rw [decode?, units_eq]
  change (text.map some ++ []).mapM id = some text
  rw [List.append_nil, List.mapM_map]
  exact (List.mapM_pure (m := Option)).trans (congrArg some (List.map_id text))

/-- A byte of ASCII is the encoding of its character. -/
theorem encode_ascii {bytes : List UInt8} (ascii : ∀ byte ∈ bytes, byte.toNat < 0x80) :
    encode (bytes.map fun byte => Char.ofNat byte.toNat) = bytes := by
  induction bytes with
  | nil => rfl
  | cons byte bytes ih =>
      have small := ascii byte List.mem_cons_self
      have valid : byte.toNat.isValidChar := .inl (by omega)
      have code : (Char.ofNat byte.toNat).toNat = byte.toNat := by
        rw [Char.ofNat, dif_pos valid]
        rfl
      have first : encodeChar (Char.ofNat byte.toNat) = [byte] := by
        simp only [encodeChar, code, small, ↓reduceIte, Nat.toUInt8_eq, UInt8.ofNat_toNat]
      have behind := ih fun byte member => ascii byte (List.mem_cons_of_mem _ member)
      rw [encode] at behind
      rw [List.map_cons, encode, List.flatMap_cons, first, behind, List.singleton_append]

/-! ## How many characters there are -/

/-- A text whose bytes are all of ASCII has as many characters. -/
theorem length_of_ascii {text : Text} (ascii : ∀ byte ∈ encode text, byte.toNat < 0x80) :
    text.length = (encode text).length := by
  have spelled := congrArg decodeLossy (encode_ascii ascii)
  rw [decodeLossy_encode, decodeLossy_encode] at spelled
  rw [← congrArg List.length spelled, List.length_map]

/-- What a state still owes: inside a character one malformed sequence may follow without a byte of
its own. -/
def State.owed : State → Nat
  | .between => 0
  | .within .. => 1

theorem length_start_le (byte : Nat) : (start byte).1.length + (start byte).2.owed ≤ 1 := by
  unfold start
  repeat' split
  all_goals exact Nat.le_refl 1

theorem length_next_le (state : State) (byte : Nat) :
    (next state byte).1.length + (next state byte).2.owed ≤ state.owed + 1 := by
  have anew := length_start_le byte
  cases state with
  | between => exact Nat.le_trans anew (Nat.le_add_left _ _)
  | within value pending low high =>
      unfold next
      dsimp only
      split
      case isTrue => cases pending <;> simp [State.owed]
      case isFalse =>
        change (start byte).1.length + 1 + (start byte).2.owed ≤ 1 + 1
        omega

theorem length_unitsFrom_le (state : State) (bytes : List UInt8) :
    (unitsFrom state bytes).length ≤ bytes.length + state.owed := by
  induction bytes generalizing state with
  | nil => cases state <;> simp [unitsFrom, State.owed]
  | cons byte bytes ih =>
      have units_cons : unitsFrom state (byte :: bytes) =
          (next state byte.toNat).1 ++ unitsFrom (next state byte.toNat).2 bytes := by
        cases state <;> rfl
      have step := length_next_le state byte.toNat
      have behind := ih (next state byte.toNat).2
      rw [units_cons, List.length_append, List.length_cons]
      omega

/-- No reading has more characters than bytes, although U+FFFD takes three bytes itself. -/
theorem length_decodeLossy_le (bytes : List UInt8) : (decodeLossy bytes).length ≤ bytes.length := by
  rw [decodeLossy, List.length_map]
  exact length_unitsFrom_le .between bytes

end Utf8

end ScriptSanitizer
