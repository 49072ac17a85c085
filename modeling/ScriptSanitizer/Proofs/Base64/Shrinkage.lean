import ScriptSanitizer.Proofs.Base64.Strictness

/-!
# What a payload hides is shorter

Base64 has no fewer symbols than it stands for bytes, and no reading of bytes has more characters
than there are bytes, however many of them are malformed.  The word and the comma in front of a
payload are not part of it.  So a text that is hidden in another one is shorter than that by seven
characters at least.
-/

namespace ScriptSanitizer

namespace Base64

/-! ## Bytes and symbols -/

theorem length_groupBytes_le (values : List Nat) : (groupBytes values).length ≤ values.length := by
  unfold groupBytes
  split <;> simp

theorem length_lastGroup_le {offset index : Nat} {padding : List Nat} {symbols : List UInt8}
    {found : List Nat × Nat} (read : lastGroup offset index padding symbols = .ok found) :
    found.1.length ≤ symbols.length := by
  induction symbols generalizing index padding found with
  | nil =>
      obtain rfl := Except.ok.inj read
      exact Nat.le_refl 0
  | cons byte symbols ih =>
      rw [lastGroup.eq_def] at read
      dsimp only at read
      split at read
      case isTrue =>
        split at read
        case isTrue => cases read
        case isFalse => exact Nat.le_succ_of_le (ih read)
      case isFalse =>
        split at read
        case h_1 => cases read
        case h_2 =>
          obtain ⟨_, _, behind⟩ := exists_of_bind_eq_ok read
          obtain ⟨others, others_read, last⟩ := exists_of_bind_eq_ok behind
          obtain rfl := Except.ok.inj last
          exact Nat.succ_le_succ (ih others_read)

theorem length_decodeLast_le {offset : Nat} {symbols bytes : List UInt8}
    (read : decodeLast offset symbols = .ok bytes) : bytes.length ≤ symbols.length := by
  obtain ⟨⟨values, padded⟩, group, read⟩ := exists_of_bind_eq_ok read
  dsimp only at read
  split at read
  case isTrue => cases read
  case isFalse =>
    split at read
    case isTrue => cases read
    case isFalse =>
      obtain rfl := Except.ok.inj read
      exact (length_groupBytes_le values).trans (length_lastGroup_le group)

theorem length_decodeFrom_le {offset : Nat} {symbols bytes : List UInt8}
    (read : decodeFrom offset symbols = .ok bytes) : bytes.length ≤ symbols.length := by
  fun_induction decodeFrom offset symbols generalizing bytes with
  | case1 offset a b c d e rest ih =>
      obtain ⟨first, _, read⟩ := exists_of_bind_eq_ok read
      obtain ⟨second, _, read⟩ := exists_of_bind_eq_ok read
      obtain ⟨third, _, read⟩ := exists_of_bind_eq_ok read
      obtain ⟨fourth, _, read⟩ := exists_of_bind_eq_ok read
      obtain ⟨others, behind, read⟩ := exists_of_bind_eq_ok read
      obtain rfl := Except.ok.inj read
      have group := length_groupBytes_le [first, second, third, fourth]
      have rest_bound := ih behind
      simp only [List.length_append, List.length_cons, List.length_nil] at group rest_bound ⊢
      omega
  | case2 offset symbols => exact length_decodeLast_le read

theorem length_decode_le {symbols bytes : List UInt8} (read : decode symbols = .ok bytes) :
    bytes.length ≤ symbols.length := by
  unfold decode at read
  split at read
  case h_1 => cases read
  case h_2 => exact length_decodeFrom_le read

/-! ## Characters of a payload -/

theorem IsReadable.toNat_lt {byte : UInt8} (readable : IsReadable byte) : byte.toNat < 0x80 := by
  rcases readable with rfl | valued
  · decide
  · unfold value? at valued
    dsimp only at valued
    refine Nat.lt_of_not_le fun past => ?_
    simp only [show ¬ byte.toNat ≤ 90 by omega, show ¬ byte.toNat ≤ 122 by omega,
      show ¬ byte.toNat ≤ 57 by omega, show byte.toNat ≠ 43 by omega,
      show byte.toNat ≠ 47 by omega, and_false, ↓reduceIte] at valued
    exact Bool.noConfusion valued

theorem length_compact_le (payload : Text) : (compact payload).length ≤ payload.length := by
  fun_induction compact payload with
  | case1 letter rest _ ih => exact Nat.le_add_right_of_le (Nat.le_succ_of_le ih)
  | case2 letter rest _ ih => exact Nat.succ_le_succ ih
  | case3 rest _ ih => exact Nat.le_succ_of_le ih
  | case4 front rest _ _ ih => exact Nat.succ_le_succ ih
  | case5 => exact Nat.le_refl 0

theorem length_decodePayload_le {payload hidden : Text}
    (decoded : decodePayload payload = .ok hidden) : hidden.length ≤ payload.length := by
  unfold decodePayload at decoded
  cases read : decode (Utf8.encode (compact payload)) with
  | error cause =>
      rw [read] at decoded
      cases decoded
  | ok bytes =>
      rw [read] at decoded
      obtain rfl := Except.ok.inj decoded
      have ascii : ∀ byte ∈ Utf8.encode (compact payload), byte.toNat < 0x80 :=
        fun byte member => (isReadable_of_decode read byte member).toNat_lt
      calc
        (Utf8.decodeLossy bytes).length ≤ bytes.length := Utf8.length_decodeLossy_le bytes
        _ ≤ (Utf8.encode (compact payload)).length := length_decode_le read
        _ = (compact payload).length := (Utf8.length_of_ascii ascii).symm
        _ ≤ payload.length := length_compact_le payload

/-! ## Texts in texts -/

/-- A text is longer than what is hidden in it, by the word and the comma at least. -/
theorem Carries.length_le {text hidden : Text} (carries : Carries text hidden) :
    hidden.length + 7 ≤ text.length := by
  obtain ⟨payload, listed, decoded⟩ := carries
  obtain ⟨block, member, rfl⟩ := mem_payloads.mp listed
  have inside := length_decodePayload_le decoded
  have marked := length_payload_of_mem_pieces member
  have whole := length_block_le_of_mem_pieces member
  omega

end Base64

end ScriptSanitizer
