import ScriptSanitizer.Proofs.Base64.Payload
import ScriptSanitizer.Proofs.Computation

/-!
# Which payloads decode

A payload admits more than the decoder: the long s and the Kelvin sign count as symbols there, and
escapes in upper case as blanks.  A payload with one of these does not decode, and every other one
does.  The base64 of whole groups of three bytes is decoded apart from what follows it.
-/

namespace ScriptSanitizer

namespace Base64

/-! ## Symbols that decode -/

/-- A symbol of the alphabet, or padding. -/
def IsReadable (byte : UInt8) : Prop :=
  byte = pad ∨ (value? byte).isSome = true

instance (byte : UInt8) : Decidable (IsReadable byte) :=
  inferInstanceAs (Decidable (_ ∨ _))

theorem isReadable_of_valueAt {offset value : Nat} {byte : UInt8}
    (read : valueAt offset byte = .ok value) : IsReadable byte := by
  unfold valueAt at read
  split at read
  case h_1 found => exact .inr (Option.isSome_iff_exists.mpr ⟨_, found⟩)
  case h_2 => cases read

theorem isReadable_of_lastGroup {offset index : Nat} {padding : List Nat} {symbols : List UInt8}
    {found : List Nat × Nat} (read : lastGroup offset index padding symbols = .ok found) :
    ∀ byte ∈ symbols, IsReadable byte := by
  induction symbols generalizing index padding found with
  | nil => exact List.forall_mem_nil _
  | cons byte symbols ih =>
      rw [lastGroup.eq_def] at read
      dsimp only at read
      split at read
      case isTrue padded =>
        split at read
        case isTrue => cases read
        case isFalse => exact List.forall_mem_cons.mpr ⟨.inl padded, ih read⟩
      case isFalse =>
        split at read
        case h_1 => cases read
        case h_2 =>
          obtain ⟨value, first, behind⟩ := exists_of_bind_eq_ok read
          obtain ⟨_, others, _⟩ := exists_of_bind_eq_ok behind
          exact List.forall_mem_cons.mpr ⟨isReadable_of_valueAt first, ih others⟩

theorem isReadable_of_decodeFrom {offset : Nat} {symbols bytes : List UInt8}
    (read : decodeFrom offset symbols = .ok bytes) : ∀ byte ∈ symbols, IsReadable byte := by
  fun_induction decodeFrom offset symbols generalizing bytes with
  | case1 offset a b c d e rest ih =>
      obtain ⟨_, read_a, read⟩ := exists_of_bind_eq_ok read
      obtain ⟨_, read_b, read⟩ := exists_of_bind_eq_ok read
      obtain ⟨_, read_c, read⟩ := exists_of_bind_eq_ok read
      obtain ⟨_, read_d, read⟩ := exists_of_bind_eq_ok read
      obtain ⟨_, behind, _⟩ := exists_of_bind_eq_ok read
      simp only [List.forall_mem_cons]
      have others := ih behind
      rw [List.forall_mem_cons] at others
      exact ⟨isReadable_of_valueAt read_a, isReadable_of_valueAt read_b,
        isReadable_of_valueAt read_c, isReadable_of_valueAt read_d, others⟩
  | case2 offset symbols =>
      obtain ⟨_, last, _⟩ := exists_of_bind_eq_ok read
      exact isReadable_of_lastGroup last

/-- Nothing but symbols of the alphabet and padding decodes. -/
theorem isReadable_of_decode {symbols bytes : List UInt8} (read : decode symbols = .ok bytes) :
    ∀ byte ∈ symbols, IsReadable byte := by
  unfold decode at read
  split at read
  case h_1 => cases read
  case h_2 => exact isReadable_of_decodeFrom read

theorem decodeFrom_of_length_le (offset : Nat) {symbols : List UInt8}
    (short : symbols.length ≤ 4) : decodeFrom offset symbols = decodeLast offset symbols := by
  unfold decodeFrom
  split
  case h_1 =>
    simp only [List.length_cons] at short
    omega
  case h_2 => rfl

theorem decodeFrom_last (offset : Nat) {count : Nat} {values : List Nat}
    (bound : ∀ value ∈ values, value < 64) (long : 2 ≤ values.length)
    (whole : values.length + count = 4) :
    decodeFrom offset (values.map symbol ++ List.replicate count pad) =
      .ok (groupBytes values) := by
  have four : (values.map symbol ++ List.replicate count pad).length = 4 := by
    rw [List.length_append, List.length_map, List.length_replicate, whole]
  rw [decodeFrom_of_length_le offset four.le]
  exact decodeLast_symbols offset bound long (by rw [whole])

/-- Complete groups decode, at every offset to the same bytes. -/
theorem exists_decodeFrom_symbols {count : Nat} {values : List Nat}
    (bound : ∀ value ∈ values, value < 64) (whole : (values.length + count) % 4 = 0)
    (few : count ≤ 2) :
    ∃ bytes, ∀ offset,
      decodeFrom offset (values.map symbol ++ List.replicate count pad) = .ok bytes := by
  match values with
  | [] =>
      obtain rfl : count = 0 := by
        rw [List.length_nil] at whole
        omega
      exact ⟨[], fun _ => rfl⟩
  | a :: b :: c :: d :: e :: rest =>
      have group : ∀ value ∈ [a, b, c, d], value < 64 := fun value member =>
        bound value (List.mem_append_left (e :: rest) member)
      have behind_bound : ∀ value ∈ e :: rest, value < 64 := fun value member =>
        bound value (List.mem_append_right [a, b, c, d] member)
      have behind_whole : ((e :: rest).length + count) % 4 = 0 := by
        simp only [List.length_cons] at whole ⊢
        omega
      obtain ⟨bytes, behind⟩ := exists_decodeFrom_symbols behind_bound behind_whole few
      exact ⟨groupBytes [a, b, c, d] ++ bytes, fun offset =>
        decodeFrom_group offset group (List.cons_ne_nil _ _) (behind (offset + 4))⟩
  | [a] =>
      rw [List.length_singleton] at whole
      omega
  | [a, b] | [a, b, c] | [a, b, c, d] =>
      exact ⟨_, fun offset =>
        decodeFrom_last offset bound (by simp) (by simp at whole ⊢; omega)⟩

/-- Symbols behind those of whole groups of three bytes are decoded by themselves. -/
theorem decodeFrom_encode_append {bytes symbols more : List UInt8}
    (complete : bytes.length % 3 = 0) (behind : ∀ offset, decodeFrom offset symbols = .ok more)
    (offset : Nat) : decodeFrom offset (encode bytes ++ symbols) = .ok (bytes ++ more) := by
  induction bytes using encode.induct generalizing offset with
  | case1 a b c rest ih =>
      have rest_complete : rest.length % 3 = 0 := by
        simp only [List.length_cons] at complete
        omega
      by_cases last : encode rest ++ symbols = []
      · obtain ⟨rest_last, rfl⟩ := List.append_eq_nil_iff.mp last
        obtain rfl : rest = [] := Decidable.byContradiction fun written =>
          encode_ne_nil written rest_last
        obtain rfl : [] = more := Except.ok.inj (behind 0)
        rw [List.append_nil, List.append_nil]
        exact decodeFrom_encode offset [a, b, c]
      · have group := decodeFrom_group offset (forall_lt_three a b c) last
          (ih rest_complete (offset + 4))
        rw [groupBytes_three] at group
        exact group
  | case2 a b => exact absurd complete (by simp)
  | case3 a => exact absurd complete (by simp)
  | case4 => exact behind offset

/-! ## Malformed payloads -/

/-- The escapes of blanks with their letter in upper case. -/
def upperEscapes : List Text := ['F', 'R', 'N', 'T'].map (['\\', ·])

/-- Something in a payload keeps it from decoding: the long s, the Kelvin sign, or the escape of a
blank with its letter in upper case. -/
def Malformed (payload : Text) : Prop :=
  'ſ' ∈ payload ∨ '\u212A' ∈ payload ∨ ∃ escape ∈ upperEscapes, escape <:+: payload

instance (payload : Text) : Decidable (Malformed payload) :=
  inferInstanceAs (Decidable (_ ∨ _ ∨ _))

theorem Malformed.of_isInfix {part payload : Text} (inside : part <:+: payload)
    (bad : Malformed part) : Malformed payload := by
  rcases bad with long_s | kelvin | ⟨escape, upper, stands⟩
  · exact .inl (inside.subset long_s)
  · exact .inr (.inl (inside.subset kelvin))
  · exact .inr (.inr ⟨escape, upper, stands.trans inside⟩)

theorem mem_compact {character : Char} (no_blank : character ∉ [' ', '\\', 'f', 'r', 'n', 't'])
    {payload : Text} (member : character ∈ payload) : character ∈ compact payload := by
  simp only [List.mem_cons, List.not_mem_nil, or_false, not_or] at no_blank
  obtain ⟨no_space, no_backslash, no_letter⟩ := no_blank
  fun_induction compact payload with
  | case1 letter rest escape ih =>
      simp only [List.mem_cons, List.not_mem_nil, or_false] at member escape
      rcases member with rfl | rfl | behind
      · exact absurd rfl no_backslash
      · tauto
      · exact ih behind
  | case2 letter rest _ ih =>
      rcases List.mem_cons.mp member with rfl | behind
      · exact List.mem_cons_self
      · exact List.mem_cons_of_mem _ (ih behind)
  | case3 rest _ ih =>
      rcases List.mem_cons.mp member with rfl | behind
      · exact absurd rfl no_space
      · exact ih behind
  | case4 front rest _ _ ih =>
      rcases List.mem_cons.mp member with rfl | behind
      · exact List.mem_cons_self
      · exact List.mem_cons_of_mem _ (ih behind)
  | case5 => exact member

theorem backslash_mem_compact {escape payload : Text} (upper : escape ∈ upperEscapes)
    (stands : escape <:+: payload) : '\\' ∈ compact payload := by
  obtain ⟨letter, listed, rfl⟩ := List.mem_map.mp upper
  fun_induction compact payload with
  | case1 front rest lower ih =>
      refine ih ?_
      rcases List.infix_cons_iff.mp stands with here | behind
      · obtain rfl := (List.cons_prefix_cons.mp (List.cons_prefix_cons.mp here).2).1
        simp only [List.mem_cons, List.not_mem_nil, or_false] at listed
        rcases listed with rfl | rfl | rfl | rfl
        all_goals exact absurd lower (by decide)
      · rcases List.infix_cons_iff.mp behind with here | behind
        · rw [← (List.cons_prefix_cons.mp here).1] at lower
          exact absurd lower (by decide)
        · exact behind
  | case2 front rest _ ih => exact List.mem_cons_self
  | case3 rest _ ih =>
      rcases List.infix_cons_iff.mp stands with here | behind
      · exact absurd (List.cons_prefix_cons.mp here).1 (by decide)
      · exact ih behind
  | case4 front rest _ _ ih =>
      rcases List.infix_cons_iff.mp stands with here | behind
      · rw [← (List.cons_prefix_cons.mp here).1]
        exact List.mem_cons_self
      · exact List.mem_cons_of_mem _ (ih behind)
  | case5 => exact absurd (List.infix_nil.mp stands) (List.cons_ne_nil _ _)

theorem mem_encode_of_mem {character : Char} {byte : UInt8} {text : Text}
    (first : byte ∈ Utf8.encodeChar character) (member : character ∈ text) :
    byte ∈ Utf8.encode text :=
  List.mem_flatMap.mpr ⟨character, member, first⟩

/-- A malformed payload does not decode. -/
theorem Malformed.decodePayload_eq_error {payload : Text} (bad : Malformed payload) :
    ∃ cause, decodePayload payload = .error cause := by
  obtain ⟨byte, member, unreadable⟩ :
      ∃ byte ∈ Utf8.encode (compact payload), ¬ IsReadable byte := by
    rcases bad with long_s | kelvin | ⟨escape, upper, stands⟩
    · exact ⟨0xC5, mem_encode_of_mem (by decide) (mem_compact (by decide) long_s), by decide⟩
    · exact ⟨0xE2, mem_encode_of_mem (by decide) (mem_compact (by decide) kelvin), by decide⟩
    · exact ⟨92, mem_encode_of_mem (by decide) (backslash_mem_compact upper stands), by decide⟩
  cases read : decode (Utf8.encode (compact payload)) with
  | error cause => exact ⟨cause, by rw [decodePayload, read, Except.map]⟩
  | ok bytes => exact absurd (isReadable_of_decode read byte member) unreadable

/-! ## Payloads that decode -/

theorem toNat_lt_of_isAlphanum {character : Char} (alphanumeric : character.isAlphanum = true) :
    character.toNat < 128 := by
  rcases Bool.or_eq_true_iff.mp alphanumeric with letter | digit
  · rcases Bool.or_eq_true_iff.mp letter with upper | lower
    · have below_z : character.val ≤ 'Z'.val := (of_decide_eq_true upper).2
      exact Nat.lt_of_le_of_lt below_z (by decide)
    · have below_z : character.val ≤ 'z'.val :=
        of_decide_eq_true (Bool.and_eq_true_iff.mp lower).2
      exact Nat.lt_of_le_of_lt below_z (by decide)
  · have below_nine : character.val ≤ '9'.val :=
      of_decide_eq_true (Bool.and_eq_true_iff.mp digit).2
    exact Nat.lt_of_le_of_lt below_nine (by decide)

theorem exists_value_of_isSymbol {character : Char} (symbol_read : isSymbol character = true)
    (no_long_s : character ≠ 'ſ') (no_kelvin : character ≠ '\u212A') :
    ∃ value < 64, character = Char.ofNat (symbol value).toNat := by
  have ascii : character.toNat < 128 := by
    simp only [isSymbol, Bool.or_eq_true, beq_iff_eq, no_long_s, no_kelvin, or_false]
      at symbol_read
    rcases symbol_read with (alphanumeric | rfl) | rfl
    · exact toNat_lt_of_isAlphanum alphanumeric
    · decide
    · decide
  have each : ∀ code < 128, isSymbol (Char.ofNat code) = true →
      ∃ value < 64, Char.ofNat code = Char.ofNat (symbol value).toNat := by decide +kernel
  have found := each character.toNat ascii
  rw [Char.ofNat_toNat] at found
  exact found symbol_read

theorem Blanks.lower {blanks : Text} (run : Blanks blanks) (well : ¬ Malformed blanks) :
    LowerBlanks blanks := by
  induction run with
  | nil => exact .nil
  | @space behind _ ih =>
      have well_behind : ¬ Malformed behind := fun bad =>
        well (bad.of_isInfix (List.suffix_cons ' ' behind).isInfix)
      exact .space (ih well_behind)
  | @escape letter behind escapes _ ih =>
      have well_behind : ¬ Malformed behind := fun bad =>
        well (bad.of_isInfix (List.suffix_append ['\\', letter] behind).isInfix)
      have no_upper : letter ∉ ['F', 'R', 'N', 'T'] := fun upper =>
        well (.inr (.inr ⟨['\\', letter], List.mem_map_of_mem upper,
          (List.prefix_append ['\\', letter] behind).isInfix⟩))
      have either : letter ∈ ['f', 'r', 'n', 't', 'F', 'R', 'N', 'T'] := of_decide_eq_true escapes
      refine .escape ?_ (ih well_behind)
      simp only [List.mem_cons, List.not_mem_nil, or_false] at no_upper either ⊢
      tauto

theorem exists_value_compact_spacedSymbol {stretch : Text} (spaced : SpacedSymbol stretch)
    (well : ¬ Malformed stretch) :
    ∃ value < 64, ∀ rest, compact (stretch ++ rest) =
      Char.ofNat (symbol value).toNat :: compact rest := by
  obtain ⟨blanks, character, rfl, run, symbol_read⟩ := spaced
  have well_blanks : ¬ Malformed blanks := fun bad =>
    well (bad.of_isInfix (List.prefix_append blanks [character]).isInfix)
  have last : character ∈ blanks ++ [character] :=
    List.mem_append_right blanks (List.mem_singleton_self character)
  have no_long_s : character ≠ 'ſ' := fun same => well (.inl (same ▸ last))
  have no_kelvin : character ≠ '\u212A' := fun same => well (.inr (.inl (same ▸ last)))
  obtain ⟨value, bound, rfl⟩ := exists_value_of_isSymbol symbol_read no_long_s no_kelvin
  refine ⟨value, bound, fun rest => ?_⟩
  rw [List.append_assoc, (run.lower well_blanks).compact_append, List.singleton_append]
  refine compact_cons ?_ ?_ rest
  · rintro same
    rw [same] at symbol_read
    exact absurd symbol_read (by decide)
  · rintro same
    rw [same] at symbol_read
    exact absurd symbol_read (by decide)

theorem exists_values_compact_flatten {symbols : List Text}
    (spaced : ∀ stretch ∈ symbols, SpacedSymbol stretch) (well : ¬ Malformed symbols.flatten) :
    ∃ values : List Nat, values.length = symbols.length ∧ (∀ value ∈ values, value < 64) ∧
      ∀ rest, compact (symbols.flatten ++ rest) =
        (values.map fun value => Char.ofNat (symbol value).toNat) ++ compact rest := by
  induction symbols with
  | nil => exact ⟨[], rfl, List.forall_mem_nil _, fun _ => rfl⟩
  | cons stretch symbols ih =>
      have well_first : ¬ Malformed stretch := fun bad =>
        well (bad.of_isInfix (List.prefix_append stretch symbols.flatten).isInfix)
      have well_behind : ¬ Malformed symbols.flatten := fun bad =>
        well (bad.of_isInfix (List.suffix_append stretch symbols.flatten).isInfix)
      obtain ⟨value, bound, first⟩ :=
        exists_value_compact_spacedSymbol (spaced stretch List.mem_cons_self) well_first
      obtain ⟨values, length, each, behind⟩ :=
        ih (fun other member => spaced other (List.mem_cons_of_mem stretch member)) well_behind
      refine ⟨value :: values, congrArg (· + 1) length, List.forall_mem_cons.mpr ⟨bound, each⟩,
        fun rest => ?_⟩
      rw [List.flatten_cons, List.append_assoc, first, behind]
      rfl

/-- A payload that is not malformed writes complete groups. -/
theorem exists_values_leadingPayload {text : Text} (well : ¬ Malformed (leadingPayload text)) :
    ∃ (values : List Nat) (count : Nat),
      Utf8.encode (compact (leadingPayload text)) =
        values.map symbol ++ List.replicate count pad ∧
      (∀ value ∈ values, value < 64) ∧ (values.length + count) % 4 = 0 ∧ count ≤ 2 := by
  have spaced := @spacedSymbol_of_mem [] text .nil
  rcases leadingPayload_cases text with ⟨padding, _, padded, _, whole, payload⟩ | payload
  · obtain ⟨count, rfl, few⟩ : ∃ count, padding = List.replicate count '=' ∧ count ≤ 2 := by
      rcases padded with rfl | rfl
      · exact ⟨1, rfl, by decide⟩
      · exact ⟨2, rfl, by decide⟩
    rw [payload] at well ⊢
    have well_symbols : ¬ Malformed (symbolsFrom [] text).1.flatten := fun bad =>
      well (bad.of_isInfix (List.prefix_append _ _).isInfix)
    obtain ⟨values, length, bound, written⟩ := exists_values_compact_flatten spaced well_symbols
    have compact_padding : compact (List.replicate count '=') = List.replicate count '=' := by
      obtain rfl | rfl | rfl : count = 0 ∨ count = 1 ∨ count = 2 := by omega
      all_goals rfl
    refine ⟨values, count, ?_, bound, ?_, few⟩
    · rw [written, compact_padding, encode_symbols bound]
    · rwa [List.length_replicate, ← length] at whole
  · rw [payload] at well ⊢
    obtain ⟨values, length, bound, written⟩ := exists_values_compact_flatten
      (fun stretch member => spaced stretch (List.mem_of_mem_take member)) well
    refine ⟨values, 0, ?_, bound, ?_, by decide⟩
    · have whole := written []
      rw [List.append_nil] at whole
      rw [whole]
      exact encode_symbols bound 0
    · rw [length, List.length_take]
      omega

/-- A payload that is not malformed decodes behind the base64 of whole groups of three bytes, and
does not change what they stand for. -/
theorem decodePayload_encodeText_append {text behind : Text}
    (complete : Utf8.byteLength text % 3 = 0) (well : ¬ Malformed (leadingPayload behind)) :
    ∃ hidden, decodePayload (encodeText text ++ leadingPayload behind) = .ok (text ++ hidden) := by
  obtain ⟨values, count, written, bound, whole, few⟩ := exists_values_leadingPayload well
  obtain ⟨more, read⟩ := exists_decodeFrom_symbols bound whole few
  have bytes_complete : (Utf8.encode text).length % 3 = 0 := by
    rw [Utf8.length_encode, complete]
  obtain ⟨front, front_count, front_written, _, front_whole, _⟩ :=
    exists_values_encode (Utf8.encode text)
  have none_stray : strayByte? (encode (Utf8.encode text) ++
      (values.map symbol ++ List.replicate count pad)) = none := by
    rw [strayByte?, if_neg]
    rw [front_written]
    simp only [List.length_append, List.length_map, List.length_replicate]
    omega
  refine ⟨Utf8.decodeLossy more, ?_⟩
  rw [decodePayload, compact_encodeText_append, Utf8.encode_append, encode_encodeText, written,
    decode, none_stray]
  dsimp only
  rw [decodeFrom_encode_append bytes_complete read, Except.map, Utf8.decodeLossy_encode_append]

/-- By itself as well a payload that is not malformed decodes. -/
theorem exists_decodePayload_leadingPayload {text : Text}
    (well : ¬ Malformed (leadingPayload text)) :
    ∃ hidden, decodePayload (leadingPayload text) = .ok hidden :=
  @decodePayload_encodeText_append [] text rfl well

/-- The payloads of a text that are not inspected for want of decoding are the malformed ones. -/
theorem decodePayload_eq_error_iff {text payload : Text} (member : payload ∈ payloads text) :
    ((∃ cause, decodePayload payload = .error cause) ↔ Malformed payload) ∧
      ((∃ hidden, decodePayload payload = .ok hidden) ↔ ¬ Malformed payload) := by
  obtain ⟨stretch, rfl⟩ := exists_leadingPayload_of_mem_payloads member
  by_cases bad : Malformed (leadingPayload stretch)
  · obtain ⟨cause, failed⟩ := bad.decodePayload_eq_error
    simp [failed, bad]
  · obtain ⟨hidden, decoded⟩ := exists_decodePayload_leadingPayload bad
    simp [decoded, bad]

/-- Behind the first block an escape in upper case, behind the second one in lower case. -/
theorem decodePayload_eq_error_iff_escapes :
    "YW\\NJj".toList ∈ payloads "base64,YW\\NJj; base64,YW\\nJj YQ==".toList ∧
      "YW\\nJj YQ==".toList ∈ payloads "base64,YW\\NJj; base64,YW\\nJj YQ==".toList ∧
      (∃ cause, decodePayload "YW\\NJj".toList = .error cause) ∧
      ∃ hidden, decodePayload "YW\\nJj YQ==".toList = .ok hidden := by
  have first : "YW\\NJj".toList ∈ payloads "base64,YW\\NJj; base64,YW\\nJj YQ==".toList := by
    decide +kernel
  have second : "YW\\nJj YQ==".toList ∈
      payloads "base64,YW\\NJj; base64,YW\\nJj YQ==".toList := by
    decide +kernel
  refine ⟨first, second, ?_, ?_⟩
  · exact (decodePayload_eq_error_iff first).1.mpr (by decide +kernel)
  · exact (decodePayload_eq_error_iff second).2.mpr (by decide +kernel)

end Base64

end ScriptSanitizer
