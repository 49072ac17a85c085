import ScriptSanitizer.Proofs.Text.Utf8
import ScriptSanitizer.Base64.Block

/-!
# Decoding what was encoded

The symbols of a byte string decode to the byte string, so the padded base64 of a text, read as a
payload, hides that text.
-/

namespace ScriptSanitizer

namespace Base64

/-! ## Symbols and groups -/

theorem value?_symbol {value : Nat} (bound : value < 64) : value? (symbol value) = some value := by
  revert value
  decide

theorem symbol_ne_pad {value : Nat} (bound : value < 64) : symbol value ≠ pad := by
  revert value
  decide

theorem valueAt_symbol (offset : Nat) {value : Nat} (bound : value < 64) :
    valueAt offset (symbol value) = .ok value := by
  rw [valueAt, value?_symbol bound]

theorem lastGroup_padding (offset : Nat) {index : Nat} (late : 2 ≤ index) (padding : List Nat)
    (count : Nat) :
    lastGroup offset index padding (List.replicate count pad) =
      .ok ([], padding.length + count) := by
  induction count generalizing index padding with
  | zero => rfl
  | succ count ih =>
      have early : ¬ index < 2 := by omega
      rw [List.replicate_succ, lastGroup.eq_def]
      simp only [↓reduceIte, early]
      rw [ih (by omega), List.length_append, List.length_singleton, Nat.add_assoc, Nat.add_comm 1]

theorem lastGroup_symbols (offset : Nat) {index count : Nat} {values : List Nat}
    (bound : ∀ value ∈ values, value < 64) (late : 2 ≤ index + values.length) :
    lastGroup offset index [] (values.map symbol ++ List.replicate count pad) =
      .ok (values, count) := by
  induction values generalizing index with
  | nil =>
      have index_late : 2 ≤ index := late
      rw [List.map_nil, List.nil_append, lastGroup_padding offset index_late, List.length_nil,
        Nat.zero_add]
  | cons value values ih =>
      have first := bound value List.mem_cons_self
      have behind_bound := fun other member => bound other (List.mem_cons_of_mem value member)
      rw [List.length_cons] at late
      have behind := @ih (index + 1) behind_bound (by omega)
      rw [List.map_cons, List.cons_append, lastGroup.eq_def]
      simp only [symbol_ne_pad first, ↓reduceIte, valueAt_symbol _ first, behind]
      rfl

theorem decodeLast_symbols (offset : Nat) {count : Nat} {values : List Nat}
    (bound : ∀ value ∈ values, value < 64) (long : 2 ≤ values.length)
    (whole : (values.length + count) % 4 = 0) :
    decodeLast offset (values.map symbol ++ List.replicate count pad) =
      .ok (groupBytes values) := by
  have enough : ¬ values.length < 2 := by omega
  rw [decodeLast, lastGroup_symbols offset bound (by omega)]
  simp only [bind, Except.bind, enough, decide_false, Bool.and_false, Bool.false_eq_true,
    ↓reduceIte, whole, ne_eq, not_true_eq_false]

theorem groupBytes_three (a b c : UInt8) :
    groupBytes [a.toNat / 4, a.toNat % 4 * 16 + b.toNat / 16, b.toNat % 16 * 4 + c.toNat / 64,
      c.toNat % 64] = [a, b, c] := by
  have b_bound := b.toNat_lt
  have c_bound := c.toNat_lt
  have first : a.toNat / 4 * 4 + (a.toNat % 4 * 16 + b.toNat / 16) / 16 = a.toNat := by omega
  have second : (a.toNat % 4 * 16 + b.toNat / 16) % 16 * 16 +
      (b.toNat % 16 * 4 + c.toNat / 64) / 4 = b.toNat := by omega
  have third : (b.toNat % 16 * 4 + c.toNat / 64) % 4 * 64 + c.toNat % 64 = c.toNat := by omega
  rw [groupBytes, first, second, third]
  simp only [Nat.toUInt8_eq, UInt8.ofNat_toNat]

theorem groupBytes_two (a b : UInt8) :
    groupBytes [a.toNat / 4, a.toNat % 4 * 16 + b.toNat / 16, b.toNat % 16 * 4] = [a, b] := by
  have b_bound := b.toNat_lt
  have first : a.toNat / 4 * 4 + (a.toNat % 4 * 16 + b.toNat / 16) / 16 = a.toNat := by omega
  have second : (a.toNat % 4 * 16 + b.toNat / 16) % 16 * 16 + b.toNat % 16 * 4 / 4 =
      b.toNat := by omega
  rw [groupBytes, first, second]
  simp only [Nat.toUInt8_eq, UInt8.ofNat_toNat]

theorem groupBytes_one (a : UInt8) :
    groupBytes [a.toNat / 4, a.toNat % 4 * 16] = [a] := by
  have first : a.toNat / 4 * 4 + a.toNat % 4 * 16 / 16 = a.toNat := by omega
  rw [groupBytes, first]
  simp only [Nat.toUInt8_eq, UInt8.ofNat_toNat]

/-! ## Byte strings -/

theorem forall_lt_three (a b c : UInt8) :
    ∀ value ∈ [a.toNat / 4, a.toNat % 4 * 16 + b.toNat / 16, b.toNat % 16 * 4 + c.toNat / 64,
      c.toNat % 64], value < 64 := by
  have a_bound := a.toNat_lt
  have b_bound := b.toNat_lt
  have c_bound := c.toNat_lt
  simp only [List.forall_mem_cons]
  exact ⟨by omega, by omega, by omega, by omega, by simp⟩

theorem forall_lt_two (a b : UInt8) :
    ∀ value ∈ [a.toNat / 4, a.toNat % 4 * 16 + b.toNat / 16, b.toNat % 16 * 4], value < 64 := by
  have a_bound := a.toNat_lt
  have b_bound := b.toNat_lt
  simp only [List.forall_mem_cons]
  exact ⟨by omega, by omega, by omega, by simp⟩

theorem forall_lt_one (a : UInt8) :
    ∀ value ∈ [a.toNat / 4, a.toNat % 4 * 16], value < 64 := by
  have a_bound := a.toNat_lt
  simp only [List.forall_mem_cons]
  exact ⟨by omega, by omega, by simp⟩

/-- An encoding is a run of symbols and the padding that completes its last group: a symbol for
each byte that the last group of three lacks. -/
theorem exists_values_encode (bytes : List UInt8) :
    ∃ (values : List Nat) (count : Nat),
      encode bytes = values.map symbol ++ List.replicate count pad ∧
      (∀ value ∈ values, value < 64) ∧ (values.length + count) % 4 = 0 ∧ count ≤ 2 ∧
      (bytes.length + count) % 3 = 0 := by
  induction bytes using encode.induct with
  | case1 a b c rest ih =>
      obtain ⟨values, count, encoded, bound, whole, few, lacking⟩ := ih
      refine ⟨[a.toNat / 4, a.toNat % 4 * 16 + b.toNat / 16, b.toNat % 16 * 4 + c.toNat / 64,
        c.toNat % 64] ++ values, count, ?_, ?_, ?_, few, ?_⟩
      · rw [encode, encoded]
        rfl
      · exact List.forall_mem_append.mpr ⟨forall_lt_three a b c, bound⟩
      · rw [List.length_append]
        simp only [List.length_cons, List.length_nil]
        omega
      · simp only [List.length_cons]
        omega
  | case2 a b => exact ⟨_, 1, rfl, forall_lt_two a b, by simp, by decide, by simp⟩
  | case3 a => exact ⟨_, 2, rfl, forall_lt_one a, by simp, by decide, by simp⟩
  | case4 => exact ⟨[], 0, rfl, by simp, rfl, by decide, rfl⟩

theorem encode_ne_nil {bytes : List UInt8} (written : bytes ≠ []) : encode bytes ≠ [] := by
  unfold encode
  split
  case h_4 => exact fun _ => written rfl
  all_goals exact List.cons_ne_nil _ _

/-- A group of four symbols with something behind it. -/
theorem decodeFrom_group (offset : Nat) {a b c d : Nat} {rest : List UInt8} {bytes : List UInt8}
    (bound : ∀ value ∈ [a, b, c, d], value < 64) (further : rest ≠ [])
    (behind : decodeFrom (offset + 4) rest = .ok bytes) :
    decodeFrom offset (symbol a :: symbol b :: symbol c :: symbol d :: rest) =
      .ok (groupBytes [a, b, c, d] ++ bytes) := by
  simp only [List.forall_mem_cons] at bound
  obtain ⟨a_bound, b_bound, c_bound, d_bound, _⟩ := bound
  obtain ⟨front, others, rfl⟩ := List.exists_cons_of_ne_nil further
  rw [decodeFrom, valueAt_symbol _ a_bound, valueAt_symbol _ b_bound, valueAt_symbol _ c_bound,
    valueAt_symbol _ d_bound, behind]
  rfl

theorem decodeFrom_encode (offset : Nat) (bytes : List UInt8) :
    decodeFrom offset (encode bytes) = .ok bytes := by
  induction bytes using encode.induct generalizing offset with
  | case1 a b c rest ih =>
      cases rest with
      | nil =>
          have last := @decodeLast_symbols offset 0 _ (forall_lt_three a b c) (by simp) (by simp)
          rw [groupBytes_three] at last
          exact last
      | cons front others =>
          have further := encode_ne_nil (List.cons_ne_nil front others)
          rw [encode, decodeFrom_group offset (forall_lt_three a b c) further (ih (offset + 4)),
            groupBytes_three]
          rfl
  | case2 a b =>
      have last := @decodeLast_symbols offset 1 _ (forall_lt_two a b) (by simp) (by simp)
      rw [groupBytes_two] at last
      exact last
  | case3 a =>
      have last := @decodeLast_symbols offset 2 _ (forall_lt_one a) (by simp) (by simp)
      rw [groupBytes_one] at last
      exact last
  | case4 => rfl

/-- The symbols of a byte string decode to it. -/
theorem decode_encode (bytes : List UInt8) : decode (encode bytes) = .ok bytes := by
  obtain ⟨values, count, encoded, _, whole, _⟩ := exists_values_encode bytes
  have length : (encode bytes).length % 4 = 0 := by
    rw [encoded, List.length_append, List.length_map, List.length_replicate, whole]
  have none_stray : strayByte? (encode bytes) = none := by
    rw [strayByte?, if_neg (by omega)]
  rw [decode, none_stray]
  exact decodeFrom_encode 0 bytes

/-! ## Texts -/

theorem isSymbol_symbol {value : Nat} (bound : value < 64) :
    isSymbol (Char.ofNat (symbol value).toNat) = true := by
  revert value
  decide

theorem isBlank_symbol {value : Nat} (bound : value < 64) :
    isBlank (Char.ofNat (symbol value).toNat) = false := by
  revert value
  decide

theorem symbol_lt {value : Nat} (bound : value < 64) : (symbol value).toNat < 0x80 := by
  revert value
  decide

/-- The padded base64 of bytes, as characters; that of a text is the one of its encoding. -/
def encodeBytes (bytes : List UInt8) : Text :=
  (encode bytes).map fun byte => Char.ofNat byte.toNat

/-- The base64 of bytes is a run of symbols and the padding that completes its last group. -/
theorem exists_symbols_encodeBytes (bytes : List UInt8) :
    ∃ (symbols : Text) (count : Nat), encodeBytes bytes = symbols ++ List.replicate count '=' ∧
      (∀ character ∈ symbols, isSymbol character = true) ∧
      (symbols.length + count) % 4 = 0 ∧ count ≤ 2 ∧ (bytes.length + count) % 3 = 0 := by
  obtain ⟨values, count, encoded, bound, whole, few, lacking⟩ := exists_values_encode bytes
  refine ⟨(values.map symbol).map fun byte => Char.ofNat byte.toNat, count, ?_, ?_, ?_, few,
    lacking⟩
  · rw [encodeBytes, encoded, List.map_append, List.map_replicate]
    rfl
  · intro character member
    rw [List.map_map] at member
    obtain ⟨value, present, rfl⟩ := List.mem_map.mp member
    exact isSymbol_symbol (bound value present)
  · rw [List.length_map, List.length_map]
    exact whole

/-- Whole groups of three bytes are written without padding. -/
theorem encodeText_of_complete {text : Text} (complete : Utf8.byteLength text % 3 = 0) :
    (∀ character ∈ encodeText text, isSymbol character = true) ∧
      (encodeText text).length % 4 = 0 := by
  obtain ⟨symbols, count, encoded, each, whole, few, lacking⟩ :=
    exists_symbols_encodeBytes (Utf8.encode text)
  rw [Utf8.length_encode] at lacking
  obtain rfl : count = 0 := by omega
  rw [List.replicate_zero, List.append_nil] at encoded
  obtain rfl : encodeText text = symbols := encoded
  exact ⟨each, whole⟩

theorem exists_value_of_mem_encodeBytes {character : Char} {bytes : List UInt8}
    (member : character ∈ encodeBytes bytes) :
    character = '=' ∨ ∃ value < 64, character = Char.ofNat (symbol value).toNat := by
  obtain ⟨values, count, encoded, bound, _, _⟩ := exists_values_encode bytes
  rw [encodeBytes, encoded] at member
  obtain ⟨byte, present, rfl⟩ := List.mem_map.mp member
  rcases List.mem_append.mp present with symbol | padding
  · obtain ⟨value, among, rfl⟩ := List.mem_map.mp symbol
    exact .inr ⟨value, bound value among, rfl⟩
  · rw [List.eq_of_mem_replicate padding]
    exact .inl rfl

theorem not_mem_encodeBytes {character : Char} (bytes : List UInt8)
    (other : isSymbol character = false) (no_padding : character ≠ '=') :
    character ∉ encodeBytes bytes := by
  intro member
  rcases exists_value_of_mem_encodeBytes member with padding | ⟨value, bound, rfl⟩
  · exact no_padding padding
  · rw [isSymbol_symbol bound] at other
    exact Bool.noConfusion other

theorem not_mem_encodeText {character : Char} (text : Text) (other : isSymbol character = false)
    (no_padding : character ≠ '=') : character ∉ encodeText text :=
  not_mem_encodeBytes (Utf8.encode text) other no_padding

theorem isBlank_of_mem_encodeBytes {character : Char} {bytes : List UInt8}
    (member : character ∈ encodeBytes bytes) : isBlank character = false := by
  rcases exists_value_of_mem_encodeBytes member with rfl | ⟨value, bound, rfl⟩
  · rfl
  · exact isBlank_symbol bound

theorem isBlank_of_mem_encodeText {character : Char} {text : Text}
    (member : character ∈ encodeText text) : isBlank character = false :=
  @isBlank_of_mem_encodeBytes _ (Utf8.encode text) member

/-- Symbols and padding are ASCII, so they are their own encoding. -/
theorem encode_symbols {values : List Nat} (bound : ∀ value ∈ values, value < 64) (count : Nat) :
    Utf8.encode ((values.map fun value => Char.ofNat (symbol value).toNat) ++
      List.replicate count '=') = values.map symbol ++ List.replicate count pad := by
  have ascii : ∀ byte ∈ values.map symbol ++ List.replicate count pad, byte.toNat < 0x80 := by
    intro byte member
    rcases List.mem_append.mp member with symbol | padding
    · obtain ⟨value, present, rfl⟩ := List.mem_map.mp symbol
      exact symbol_lt (bound value present)
    · rw [List.eq_of_mem_replicate padding]
      decide
  have same := Utf8.encode_ascii ascii
  rwa [List.map_append, List.map_map, List.map_replicate] at same

theorem encode_encodeBytes (bytes : List UInt8) :
    Utf8.encode (encodeBytes bytes) = encode bytes := by
  obtain ⟨values, count, encoded, bound, _, _⟩ := exists_values_encode bytes
  have same := encode_symbols bound count
  rw [encodeBytes, encoded, List.map_append, List.map_map, List.map_replicate]
  exact same

theorem encode_encodeText (text : Text) :
    Utf8.encode (encodeText text) = encode (Utf8.encode text) :=
  encode_encodeBytes (Utf8.encode text)

/-! ## Payloads -/

theorem compact_cons {character : Char} (no_space : character ≠ ' ')
    (no_backslash : character ≠ '\\') (rest : Text) :
    compact (character :: rest) = character :: compact rest := by
  rw [compact, if_neg no_space]
  intro letter behind same
  exact absurd same no_backslash

theorem compact_append {front : Text} (no_space : ' ' ∉ front) (no_backslash : '\\' ∉ front)
    (rest : Text) : compact (front ++ rest) = front ++ compact rest := by
  induction front with
  | nil => rfl
  | cons character front ih =>
      have not_space := List.ne_of_not_mem_cons no_space
      have not_backslash := List.ne_of_not_mem_cons no_backslash
      have behind := ih (List.not_mem_of_not_mem_cons no_space)
        (List.not_mem_of_not_mem_cons no_backslash)
      rw [List.cons_append, compact_cons not_space.symm not_backslash.symm, behind]
      rfl

theorem compact_encodeText_append (text rest : Text) :
    compact (encodeText text ++ rest) = encodeText text ++ compact rest :=
  compact_append (not_mem_encodeText text (by decide) (by decide))
    (not_mem_encodeText text (by decide) (by decide)) rest

/-- The base64 of a text hides the text. -/
theorem decodePayload_encodeText (text : Text) : decodePayload (encodeText text) = .ok text := by
  have alone := compact_encodeText_append text []
  rw [List.append_nil, compact, List.append_nil] at alone
  rw [decodePayload, alone, encode_encodeText, decode_encode, Except.map, Utf8.decodeLossy_encode]

theorem symbolsFrom_symbol {character : Char} (symbol : isSymbol character = true)
    (blanks rest : Text) :
    symbolsFrom blanks (character :: rest) =
      ((blanks ++ [character]) :: (symbolsFrom [] rest).1, (symbolsFrom [] rest).2) := by
  have not_space : character ≠ ' ' := by
    rintro rfl
    exact absurd symbol (by decide)
  have not_backslash : character ≠ '\\' := by
    rintro rfl
    exact absurd symbol (by decide)
  rw [symbolsFrom, if_pos symbol]
  · exact not_space
  · intro letter rest same
    exact absurd same not_backslash

end Base64

end ScriptSanitizer
