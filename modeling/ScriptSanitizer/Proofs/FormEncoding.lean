import ScriptSanitizer.FormEncoding
import ScriptSanitizer.Proofs.Text.Pieces
import ScriptSanitizer.Proofs.Text.Utf8

/-!
# Written query strings are read back

Every byte of a name or a value is spelled so that it is read as that byte, and no spelling holds an
ampersand or an equals sign.  So the pieces of a query string are those that were joined, each is
divided at the sign that was put into it, and the pairs that are read are those that were written.
-/

namespace ScriptSanitizer

namespace FormEncoding

/-! ## Bytes -/

/-- A byte that stands for itself is one of ASCII and has no other meaning. -/
theorem bounds_of_isLiteral {byte : UInt8} (literal : isLiteral byte = true) :
    byte.toNat < 0x80 ∧ Char.ofNat byte.toNat ∉ ['+', '%', '&', '='] := by
  have bounded (code : Nat) (small : code < 256) (spelled : isLiteral code.toUInt8 = true) :
      code < 0x80 ∧ Char.ofNat code ∉ ['+', '%', '&', '='] := by
    revert code
    decide +kernel
  refine bounded byte.toNat byte.toNat_lt ?_
  rwa [Nat.toUInt8_eq, UInt8.ofNat_toNat]

theorem hexDigit?_toUpper_digitChar {digit : Nat} (hexadecimal : digit < 16) :
    hexDigit? (Nat.digitChar digit).toUpper = some digit := by
  revert digit
  decide

theorem toUpper_digitChar_not_mem {digit : Nat} (hexadecimal : digit < 16) :
    (Nat.digitChar digit).toUpper ∉ ['&', '='] := by
  revert digit
  decide

theorem decodeBytes_escape {high low : Char} {first second : Nat}
    (high_digit : hexDigit? high = some first) (low_digit : hexDigit? low = some second)
    (rest : Text) :
    decodeBytes ('%' :: high :: low :: rest) =
      (first * 16 + second).toUInt8 :: decodeBytes rest := by
  simp only [decodeBytes, high_digit, low_digit]

theorem decodeBytes_plain {character : Char} (no_plus : character ≠ '+')
    (no_percent : character ≠ '%') (rest : Text) :
    decodeBytes (character :: rest) = Utf8.encodeChar character ++ decodeBytes rest := by
  rw [decodeBytes.eq_def]
  split
  · cases ‹_›
    exact absurd rfl no_plus
  · cases ‹_›
    exact absurd rfl no_percent
  · cases ‹_›
    rfl
  · cases ‹_›

/-- The spelling of a byte is read as the byte, whatever follows it. -/
theorem decodeBytes_encodeByte (byte : UInt8) (rest : Text) :
    decodeBytes (encodeByte byte ++ rest) = byte :: decodeBytes rest := by
  rw [encodeByte]
  split
  case isTrue literal =>
    obtain ⟨ascii, plain⟩ := bounds_of_isLiteral literal
    simp only [List.mem_cons, List.not_mem_nil, or_false, not_or] at plain
    have spelled := Utf8.encode_ascii (List.forall_mem_singleton.mpr ascii)
    rw [List.map_singleton, Utf8.encode, List.flatMap_singleton] at spelled
    rw [List.singleton_append, decodeBytes_plain plain.1 plain.2.1, spelled, List.singleton_append]
  case isFalse =>
    split
    case isTrue space =>
      rw [space]
      rfl
    case isFalse =>
      have bound : byte.toNat < 256 := byte.toNat_lt
      have high := hexDigit?_toUpper_digitChar (by omega : byte.toNat / 16 < 16)
      have low := hexDigit?_toUpper_digitChar (by omega : byte.toNat % 16 < 16)
      have whole : byte.toNat / 16 * 16 + byte.toNat % 16 = byte.toNat := by omega
      simp only [List.cons_append, List.nil_append]
      rw [decodeBytes_escape high low, whole, Nat.toUInt8_eq, UInt8.ofNat_toNat]

theorem separators_not_mem_encodeByte (byte : UInt8) :
    '&' ∉ encodeByte byte ∧ '=' ∉ encodeByte byte := by
  rw [encodeByte]
  split
  case isTrue literal =>
    have plain := (bounds_of_isLiteral literal).2
    simp only [List.mem_cons, List.not_mem_nil, or_false, not_or] at plain ⊢
    exact ⟨Ne.symm plain.2.2.1, Ne.symm plain.2.2.2⟩
  case isFalse =>
    split
    case isTrue => decide
    case isFalse =>
      have bound : byte.toNat < 256 := byte.toNat_lt
      have high := toUpper_digitChar_not_mem (by omega : byte.toNat / 16 < 16)
      have low := toUpper_digitChar_not_mem (by omega : byte.toNat % 16 < 16)
      simp only [List.mem_cons, List.not_mem_nil, or_false, not_or] at high low ⊢
      exact ⟨⟨by decide, Ne.symm high.1, Ne.symm low.1⟩,
        ⟨by decide, Ne.symm high.2, Ne.symm low.2⟩⟩

/-! ## Names and values -/

theorem decodeBytes_flatMap_encodeByte (bytes : List UInt8) :
    decodeBytes (bytes.flatMap encodeByte) = bytes := by
  induction bytes with
  | nil => rfl
  | cons byte bytes ih => rw [List.flatMap_cons, decodeBytes_encodeByte, ih]

theorem decodeComponent_encodeComponent (text : Text) :
    decodeComponent (encodeComponent text) = text := by
  rw [decodeComponent, encodeComponent, decodeBytes_flatMap_encodeByte, Utf8.decodeLossy_encode]

theorem ampersand_not_mem_encodeComponent (text : Text) : '&' ∉ encodeComponent text := by
  intro present
  obtain ⟨byte, -, here⟩ := List.mem_flatMap.mp present
  exact (separators_not_mem_encodeByte byte).1 here

theorem equals_not_mem_encodeComponent (text : Text) : '=' ∉ encodeComponent text := by
  intro present
  obtain ⟨byte, -, here⟩ := List.mem_flatMap.mp present
  exact (separators_not_mem_encodeByte byte).2 here

/-! ## Pairs -/

/-- The piece for a name and a value. -/
def encodePair (pair : Text × Text) : Text :=
  encodeComponent pair.1 ++ '=' :: encodeComponent pair.2

/-- A piece is divided at its first equals sign. -/
theorem decodePair_append {name : Text} (absent : '=' ∉ name) (value : Text) :
    decodePair (name ++ '=' :: value) = (decodeComponent name, decodeComponent value) := by
  have inside : ∀ character ∈ name, (character != '=') = true := by
    intro character here
    simpa using ne_of_mem_of_not_mem here absent
  have front : (name ++ '=' :: value).takeWhile (· != '=') = name := by
    rw [List.takeWhile_append_of_pos inside]
    simp
  have behind : (name ++ '=' :: value).drop (name.length + 1) = value := by simp
  rw [decodePair, front, behind]

theorem decodePair_encodePair (pair : Text × Text) : decodePair (encodePair pair) = pair := by
  rw [encodePair, decodePair_append (equals_not_mem_encodeComponent pair.1),
    decodeComponent_encodeComponent, decodeComponent_encodeComponent]

theorem ampersand_not_mem_encodePair (pair : Text × Text) : '&' ∉ encodePair pair := by
  rw [encodePair, List.mem_append, List.mem_cons]
  rintro (here | here | here)
  · exact ampersand_not_mem_encodeComponent pair.1 here
  · exact absurd here (by decide)
  · exact ampersand_not_mem_encodeComponent pair.2 here

/-- The pairs of a written query string are those that were written. -/
theorem decode_encode (pairs : List (Text × Text)) : decode (encode pairs) = pairs := by
  have written : encode pairs = ['&'].intercalate (pairs.map encodePair) := rfl
  rw [decode, written]
  by_cases missing : pairs = []
  · subst missing
    rfl
  · have present : pairs.map encodePair ≠ [] := by simpa using missing
    have joined : splitAtEach '&' (['&'].intercalate (pairs.map encodePair)) =
        pairs.map encodePair :=
      splitAtEach_intercalate present
        (List.forall_mem_map.mpr fun pair _ => ampersand_not_mem_encodePair pair)
    have kept : (pairs.map encodePair).filter (fun piece => !piece.isEmpty) =
        pairs.map encodePair := by
      rw [List.filter_eq_self]
      exact List.forall_mem_map.mpr fun pair _ => by simp [encodePair]
    rw [joined, kept, List.map_map]
    exact (List.map_congr_left fun pair _ => decodePair_encodePair pair).trans (List.map_id pairs)

end FormEncoding

namespace MultiMap

/-- The map that is read from the query string for pairs is the one that is built from the
pairs. -/
theorem ofQuery_encode (pairs : List (Text × Text)) :
    ofQuery (FormEncoding.encode pairs) = ofPairs pairs := by
  rw [ofQuery, FormEncoding.decode_encode]

/-- Separators, a plus and a percent sign in a name and a value, a letter of two bytes, and an empty
name. -/
example :
    FormEncoding.encode [("a=b".toList, "1+1 & 5%".toList), ([], ['é'])] =
      "a%3Db=1%2B1+%26+5%25&=%C3%A9".toList := by
  decide

end MultiMap

end ScriptSanitizer
