import ScriptSanitizer.Proofs.Agreement
import ScriptSanitizer.Proofs.Base64.Payload

/-!
# Attacks wrapped in base64

A block whose payload is the base64 of a text hides an attack exactly if the text does, judged with
one level less.  So an attack stays visible however often it is wrapped: as long as levels are left
the verdict is the one on what is inside, and with no level left every payload hides an attack.
-/

namespace ScriptSanitizer

namespace Base64

/-- The marker without white space, `base64,`. -/
def plainMarker : Text := ['b', 'a', 's', 'e', '6', '4', ',']

/-- A text as an inline block. -/
def wrap (text : Text) : Text := plainMarker ++ encodeText text

/-- A text inside so many inline blocks, one in another. -/
def wrapped : Nat → Text → Text
  | 0, text => text
  | layers + 1, text => wrap (wrapped layers text)

theorem not_mem_wrap {character : Char} (text : Text) (other : isSymbol character = false)
    (no_comma : character ≠ ',') (no_padding : character ≠ '=') : character ∉ wrap text := by
  intro member
  rcases List.mem_append.mp member with marker | payload
  · have letters : plainMarker.all (fun letter => letter == ',' || isSymbol letter) = true := rfl
    have letter := List.all_eq_true.mp letters character marker
    rw [other, Bool.or_false, beq_iff_eq] at letter
    exact no_comma letter
  · exact not_mem_encodeText text other no_padding payload

theorem takeWhile_isBlank_encodeText (text : Text) : (encodeText text).takeWhile isBlank = [] := by
  cases encoded : encodeText text with
  | nil => rfl
  | cons front rest =>
      have member : front ∈ encodeText text := by
        rw [encoded]
        exact List.mem_cons_self
      rw [List.takeWhile_cons, isBlank_of_mem_encodeText member]
      rfl

theorem leadingMarker?_wrap (text : Text) : leadingMarker? (wrap text) = some plainMarker := by
  have marker : leadingMarker? (wrap text) =
      some (['b', 'a', 's', 'e', '6', '4'] ++ ',' :: (encodeText text).takeWhile isBlank) := rfl
  rw [marker, takeWhile_isBlank_encodeText]
  rfl

theorem leadingBlock?_wrap (text : Text) :
    leadingBlock? (wrap text) = some ⟨plainMarker, encodeText text⟩ := by
  rw [leadingBlock?, leadingMarker?_wrap, Option.map_some, wrap, List.drop_left,
    leadingPayload_encodeText]

theorem pieces_wrap (text : Text) :
    pieces (wrap text) = [.block ⟨plainMarker, encodeText text⟩] := by
  have found : leadingBlock? (Block.text ⟨plainMarker, encodeText text⟩ ++ []) =
      some ⟨plainMarker, encodeText text⟩ := by
    rw [List.append_nil]
    exact leadingBlock?_wrap text
  have alone := pieces_append_of_leadingBlock? found
  rw [List.append_nil] at alone
  exact alone

/-- The judge of payloads decides on the text that is wrapped. -/
theorem hasHidingBlock_wrap_iff {judge : Text → Prop} {text : Text} :
    HasHidingBlock judge (wrap text) ↔ judge text := by
  have payloads_eq : payloads (wrap text) = [encodeText text] := by
    rw [payloads, pieces_wrap]
    rfl
  rw [HasHidingBlock, payloads_eq]
  constructor
  · rintro ⟨payload, member, hidden, decoded, judged⟩
    obtain rfl := List.mem_singleton.mp member
    rw [decodePayload_encodeText] at decoded
    obtain rfl := Except.ok.inj decoded
    exact judged
  · intro judged
    exact ⟨_, List.mem_singleton_self _, text, decodePayload_encodeText text, judged⟩

theorem strikeBlocks_wrap {judge : Text → Logged Bool} {text : Text}
    (judged : (judge text).value = true) : (strikeBlocks judge (wrap text)).value = [] := by
  have hides : Hides (fun hidden => (judge hidden).value = true) (encodeText text) :=
    ⟨text, decodePayload_encodeText text, judged⟩
  rw [strikeBlocks, pieces_wrap, strikePieces_eq_flatMap, List.flatMap_singleton, Piece.left]
  exact strikeBlock_of_hides hides

theorem nul_not_mem_wrap (text : Text) : '\x00' ∉ wrap text :=
  not_mem_wrap text (by decide) (by decide) (by decide)

theorem value_decodeLayers_wrap (text : Text) : (decodeLayers (wrap text)).value = wrap text :=
  value_decodeLayers_eq_self (not_mem_wrap text (by decide) (by decide) (by decide))
    (not_mem_wrap text (by decide) (by decide) (by decide))

end Base64

namespace PatternSet

variable {patterns : PatternSet} {levels : Nat} {text : Text}

/-- Wrapping costs a level. -/
theorem Hides.wrap (hides : patterns.Hides levels text) :
    patterns.Hides (levels + 1) (Base64.wrap text) := by
  right
  left
  rw [stripNul_eq_self_iff.mpr (Base64.nul_not_mem_wrap text), Base64.value_decodeLayers_wrap]
  exact Base64.hasHidingBlock_wrap_iff.mpr hides

theorem Hides.wrapped (hides : patterns.Hides levels text) (layers : Nat) :
    patterns.Hides (levels + layers) (Base64.wrapped layers text) := by
  induction layers with
  | zero => exact hides
  | succ layers ih => exact ih.wrap

end PatternSet

namespace Sanitizer

variable {sanitizer : Sanitizer} {text : Text}

/-- Where sanitizing changes a text, the text hides an attack from any judge with one level more
than the sanitizer has. -/
theorem hides_of_sanitize_ne (positive : 0 < sanitizer.maxPasses)
    (altered : (sanitizer.sanitize text).value ≠ text) :
    sanitizer.patterns.Hides (sanitizer.maxNesting + 1) text := by
  by_cases nul : '\x00' ∈ text
  · exact .inl nul
  · right
    rw [← stripNul_eq_self_iff] at nul
    refine Classical.byContradiction fun harmless => altered ?_
    rw [value_sanitize_eq_stripNul positive harmless, nul]

/-- The first pass leaves nothing of a wrapped text that hides an attack. -/
theorem value_sanitize_wrap (positive : 0 < sanitizer.maxPasses)
    (hides : sanitizer.patterns.Hides sanitizer.maxNesting text) :
    (sanitizer.sanitize (Base64.wrap text)).value = [] := by
  have judged := (@hidesAttack_iff sanitizer positive sanitizer.maxNesting 0 text).mpr hides
  have no_nul := stripNul_eq_self_iff.mpr (Base64.nul_not_mem_wrap text)
  have removes : sanitizer.patterns.Removes (fun hidden =>
      (sanitizer.hidesAttack sanitizer.maxNesting 0 hidden).value = true) (Base64.wrap text) := by
    left
    rw [Base64.value_decodeLayers_wrap]
    exact Base64.hasHidingBlock_wrap_iff.mpr judged
  have emptied : sanitizer.pass (stripNul (Base64.wrap text)) = .changed [] := by
    rw [no_nul, pass, Pass.run_eq_changed_strike removes, Base64.value_decodeLayers_wrap,
      Base64.strikeBlocks_wrap judged, List.sublist_nil.mp (sanitizer.patterns.strike_sublist [])]
  obtain ⟨further, maxPasses_eq⟩ := Nat.exists_eq_add_of_le' positive
  rw [value_sanitize_succ maxPasses_eq, emptied]
  exact value_runPasses_nil further

/-- However often a text is wrapped that sanitizing changes, sanitizing leaves nothing of it and
detection finds it, although the sanitizer looks only so deep. -/
theorem sanitize_wrapped {compile : Compiler} {settings : Settings}
    (accepted : Sanitizer.compiled? compile settings = .ok sanitizer)
    (altered : (sanitizer.sanitize text).value ≠ text) {layers : Nat} (wraps : 1 ≤ layers) :
    (sanitizer.sanitize (Base64.wrapped layers text)).value = [] ∧
      sanitizer.isMalicious (Base64.wrapped layers text) = true := by
  have positive := maxPasses_pos_of_compiled? accepted
  obtain ⟨inner, rfl⟩ := Nat.exists_eq_add_of_le' wraps
  have hides : sanitizer.patterns.Hides sanitizer.maxNesting (Base64.wrapped inner text) :=
    ((hides_of_sanitize_ne positive altered).wrapped inner).of_le (by omega)
  refine ⟨value_sanitize_wrap positive hides, isMalicious_iff.mpr (.inr ?_)⟩
  have no_nul := stripNul_eq_self_iff.mpr (Base64.nul_not_mem_wrap (Base64.wrapped inner text))
  rw [Base64.wrapped, no_nul, Base64.value_decodeLayers_wrap, Base64.hasHidingBlock_wrap_iff]
  exact (hidesAttack_iff positive).mpr hides

/-- A script in six blocks, one in another, which is deeper than the default sanitizer looks. -/
theorem sanitize_wrapped_script :
    (Sanitizer.default.sanitize
        (Base64.wrapped 6 "<script>alert(1)</script>".toList)).value = [] ∧
      Sanitizer.default.isMalicious
        (Base64.wrapped 6 "<script>alert(1)</script>".toList) = true := by
  have altered : (Sanitizer.default.sanitize "<script>alert(1)</script>".toList).value ≠
      "<script>alert(1)</script>".toList := by decide +kernel
  exact sanitize_wrapped ofSettings?_default altered (by decide)

end Sanitizer

end ScriptSanitizer
