import ScriptSanitizer.Proofs.Base64.Strictness
import ScriptSanitizer.Proofs.Wrapping

/-!
# Text behind a block

The payload of a block takes in as much of the text behind it as can belong to it, and is judged as
a whole.  What it takes in cannot change what the base64 of whole groups of three bytes stands for,
so a needle that it hides is still found, unless the payload no longer decodes.  What is left
behind the block is scanned by itself, and letters there can stand in for the block that was struck
out only if padding has ended the payload.
-/

namespace ScriptSanitizer

theorem standsIn_eq_true_iff {needle text : Text} :
    standsIn needle text = true ↔ needle <:+: text := by
  induction text with
  | nil => rw [standsIn, List.isEmpty_iff, List.infix_nil]
  | cons front rest ih =>
      rw [standsIn, Bool.or_eq_true, List.isPrefixOf_iff_prefix, ih, List.infix_cons_iff]

namespace Base64

/-! ## The block and what it takes in -/

theorem encodeText_ne_nil {text : Text} (written : text ≠ []) : encodeText text ≠ [] := by
  have bytes : Utf8.encode text ≠ [] := by
    have long := Utf8.length_le_byteLength text
    have some_character := List.length_pos_iff.mpr written
    rw [← Utf8.length_encode] at long
    exact List.length_pos_iff.mp (by omega)
  rw [encodeText, Ne, List.map_eq_nil_iff]
  exact encode_ne_nil bytes

/-- Whole groups of three bytes are read apart from what is behind them. -/
theorem leadingPayload_encodeText_append {text : Text}
    (complete : Utf8.byteLength text % 3 = 0) (behind : Text) :
    leadingPayload (encodeText text ++ behind) = encodeText text ++ leadingPayload behind := by
  obtain ⟨each, whole⟩ := encodeText_of_complete complete
  have apart := leadingPayload_flatten_append (spacedSymbol_of_isSymbol each)
    (by rwa [List.length_map]) behind
  rwa [flatten_map_singleton] at apart

theorem leadingBlock?_wrap_append {text : Text} (written : text ≠ [])
    (complete : Utf8.byteLength text % 3 = 0) (behind : Text) :
    leadingBlock? (wrap text ++ behind) =
      some ⟨plainMarker, encodeText text ++ leadingPayload behind⟩ := by
  have marked : leadingMarker? (wrap text ++ behind) = some plainMarker := by
    refine leadingMarker?_eq_some_iff.mpr ⟨['b', 'a', 's', 'e', '6', '4'], [], [],
      encodeText text ++ behind, rfl, rfl, by decide, List.forall_mem_nil _, List.forall_mem_nil _,
      fun character head => ?_⟩
    obtain ⟨front, rest, encoded⟩ := List.exists_cons_of_ne_nil (encodeText_ne_nil written)
    rw [encoded] at head
    obtain rfl := Option.some.inj head
    refine @isBlank_of_mem_encodeText _ text ?_
    rw [encoded]
    exact List.mem_cons_self
  rw [leadingBlock?, marked, Option.map_some, wrap, List.append_assoc, List.drop_left,
    leadingPayload_encodeText_append complete]

/-- Behind a block that is found, a text is struck by itself. -/
theorem strikeBlocks_append_of_leadingBlock? {judge : Text → Logged Bool} {block : Block}
    {behind : Text} (found : leadingBlock? (block.text ++ behind) = some block) :
    (strikeBlocks judge (block.text ++ behind)).value =
      (strikeBlock judge block).value ++ (strikeBlocks judge behind).value := by
  rw [strikeBlocks, pieces_append_of_leadingBlock? found, strikePieces_eq_flatMap,
    List.flatMap_cons, strikeBlocks, strikePieces_eq_flatMap]
  rfl

/-! ## Letters that start no marker -/

theorem leadingMarker?_eq_none_of_short {text : Text}
    (short : (text.takeWhile isSymbol).length < 6) :
    leadingMarker? text = none := by
  cases found : leadingMarker? text with
  | none => rfl
  | some marker =>
      obtain ⟨word, _, _, _, rfl, _, word_read, _⟩ := leadingMarker?_eq_some_iff.mp found
      rw [List.takeWhile_append_of_pos (isSymbol_of_mem_markerWord word_read), List.length_append,
        isMarkerWord_length word_read] at short
      omega

/-- Fewer symbols than a marker has are left in front, with nothing more before the next
character that is none. -/
theorem takeWhile_isSymbol_strikeBlocks (judge : Text → Logged Bool) {text : Text}
    (short : (text.takeWhile isSymbol).length < 6) :
    (strikeBlocks judge text).value.takeWhile isSymbol = text.takeWhile isSymbol := by
  induction text with
  | nil => rfl
  | cons front rest ih =>
      have plain : step front rest = (.plain front, 0) := by
        rw [step, leadingBlock?, leadingMarker?_eq_none_of_short short, Option.map_none]
      have struck : (strikeBlocks judge (front :: rest)).value =
          front :: (strikeBlocks judge rest).value := by
        rw [strikeBlocks, pieces, Scan.pieces_cons, plain, strikePieces_eq_flatMap,
          List.flatMap_cons, strikeBlocks, strikePieces_eq_flatMap]
        rfl
      rw [struck, List.takeWhile_cons, List.takeWhile_cons]
      rw [List.takeWhile_cons] at short
      cases symbol : isSymbol front with
      | false => rfl
      | true =>
          simp only [symbol, ↓reduceIte, List.length_cons] at short
          simp only [↓reduceIte]
          rw [ih (by omega)]

theorem six_le_length_takeWhile_of_wrap_isPrefix {text other : Text}
    (starts : wrap text <+: other) : 6 ≤ (other.takeWhile isSymbol).length := by
  obtain ⟨behind, rfl⟩ := starts
  have word : ['b', 'a', 's', 'e', '6', '4'].all isSymbol = true := rfl
  have front : wrap text ++ behind =
      ['b', 'a', 's', 'e', '6', '4'] ++ ',' :: (encodeText text ++ behind) := rfl
  rw [front, List.takeWhile_append_of_pos (List.all_eq_true.mp word), List.length_append]
  simp only [List.length_cons]
  omega

theorem length_takeWhile_flatten_le {symbols : List Text} {left : Text}
    (spaced : ∀ stretch ∈ symbols, SpacedSymbol stretch)
    (ends : ∀ character, left.head? = some character → isSymbol character = false) :
    ((symbols.flatten ++ left).takeWhile isSymbol).length ≤ symbols.length := by
  induction symbols with
  | nil =>
      cases left with
      | nil => exact Nat.le_refl 0
      | cons front left =>
          rw [List.flatten_nil, List.nil_append, List.takeWhile_cons, ends front rfl]
          exact Nat.le_refl 0
  | cons stretch symbols ih =>
      have behind := ih fun other member => spaced other (List.mem_cons_of_mem stretch member)
      obtain ⟨blanks, character, rfl, run, symbol⟩ := spaced stretch List.mem_cons_self
      cases run with
      | nil =>
          rw [List.flatten_cons, List.nil_append, List.append_assoc, List.singleton_append,
            List.takeWhile_cons, symbol]
          exact Nat.succ_le_succ behind
      | space => exact Nat.zero_le _
      | escape => exact Nat.zero_le _

/-- Behind a payload that no padding has ended, too few symbols are left for a group. -/
theorem length_takeWhile_drop_leadingPayload {text : Text}
    (no_padding : '=' ∉ leadingPayload text) :
    ((text.drop (leadingPayload text).length).takeWhile isSymbol).length < 6 := by
  have parts := symbolsFrom_flatten [] text
  have spaced := @spacedSymbol_of_mem [] text .nil
  have ends := @isSymbol_head_symbolsFrom [] text .nil
  rcases leadingPayload_cases text with ⟨padding, _, padded, _, _, payload⟩ | payload
  · refine absurd ?_ no_padding
    rw [payload]
    refine List.mem_append_right _ ?_
    rcases padded with rfl | rfl
    · exact List.mem_cons_self
    · exact List.mem_cons_self
  · generalize symbolsFrom [] text = found at parts spaced ends payload
    obtain ⟨symbols, left⟩ := found
    have split : text = (symbols.take (symbols.length / 4 * 4)).flatten ++
        ((symbols.drop (symbols.length / 4 * 4)).flatten ++ left) := by
      rw [← List.append_assoc, ← List.flatten_append, List.take_append_drop]
      exact parts.symm
    rw [payload]
    nth_rewrite 1 [split]
    rw [List.drop_left]
    have behind_spaced : ∀ stretch ∈ symbols.drop (symbols.length / 4 * 4), SpacedSymbol stretch :=
      fun stretch member => spaced stretch (List.mem_of_mem_drop member)
    have few := length_takeWhile_flatten_le behind_spaced ends
    have remaining : (symbols.drop (symbols.length / 4 * 4)).length ≤ 3 := by
      rw [List.length_drop]
      omega
    exact Nat.lt_of_le_of_lt (few.trans remaining) (by decide)

/-! ## Needles in blocks -/

section

variable {needle text : Text}

/-- A block with a needle in it is struck out together with what it takes in, unless that is
malformed; then the block is kept. -/
theorem strikeBlock_wrap_append (found : standsIn needle text = true)
    (complete : Utf8.byteLength text % 3 = 0) (behind : Text) :
    (strikeBlock (fun hidden => pure (standsIn needle hidden))
        ⟨plainMarker, encodeText text ++ leadingPayload behind⟩).value =
      if Malformed (leadingPayload behind) then wrap text ++ leadingPayload behind else [] := by
  split
  case isTrue bad =>
    have bad_whole : Malformed (encodeText text ++ leadingPayload behind) :=
      bad.of_isInfix (List.suffix_append _ _).isInfix
    obtain ⟨cause, refused⟩ := bad_whole.decodePayload_eq_error
    rw [strikeBlock_of_not_hides, Block.text, wrap, List.append_assoc]
    rintro ⟨hidden, decoded, _⟩
    rw [refused] at decoded
    cases decoded
  case isFalse well =>
    obtain ⟨more, decoded⟩ := decodePayload_encodeText_append complete well
    have still_found : standsIn needle (text ++ more) = true := by
      rw [standsIn_eq_true_iff] at found ⊢
      exact found.trans (List.prefix_append text more).isInfix
    exact strikeBlock_of_hides ⟨text ++ more, decoded, still_found⟩

/-- Text behind a block with a needle in it keeps the block from being struck out only if the
payload takes in something malformed, and writes it anew only behind padding. -/
theorem wrap_isPrefix_strikeBlocks_iff (some_needle : needle ≠ [])
    (found : standsIn needle text = true) (complete : Utf8.byteLength text % 3 = 0)
    (behind : Text) :
    wrap text <+: (strikeBlocks (fun hidden => pure (standsIn needle hidden))
        (wrap text ++ behind)).value ↔
      Malformed (leadingPayload behind) ∨
        '=' ∈ leadingPayload behind ∧
          wrap text <+: (strikeBlocks (fun hidden => pure (standsIn needle hidden))
            (behind.drop (leadingPayload behind).length)).value := by
  have written : text ≠ [] := by
    rintro rfl
    exact some_needle (List.infix_nil.mp (standsIn_eq_true_iff.mp found))
  have split := List.prefix_iff_eq_append.mp (leadingPayload_isPrefix behind)
  have short := @length_takeWhile_drop_leadingPayload behind
  have block := leadingBlock?_wrap_append written complete behind
  generalize behind.drop (leadingPayload behind).length = rest at split short ⊢
  have whole : wrap text ++ behind =
      Block.text ⟨plainMarker, encodeText text ++ leadingPayload behind⟩ ++ rest := by
    rw [Block.text, wrap, List.append_assoc, List.append_assoc, List.append_assoc, split]
  rw [whole] at block
  rw [whole, strikeBlocks_append_of_leadingBlock? block, strikeBlock_wrap_append found complete]
  by_cases bad : Malformed (leadingPayload behind)
  · rw [if_pos bad, List.append_assoc]
    exact iff_of_true (List.prefix_append _ _) (.inl bad)
  · rw [if_neg bad, List.nil_append]
    constructor
    · intro starts
      refine .inr ⟨Decidable.byContradiction fun no_padding => ?_, starts⟩
      have long := six_le_length_takeWhile_of_wrap_isPrefix starts
      rw [takeWhile_isSymbol_strikeBlocks _ (short no_padding)] at long
      exact absurd long (Nat.not_le_of_lt (short no_padding))
    · rintro (malformed | ⟨_, starts⟩)
      · exact absurd malformed bad
      · exact starts

/-- More base64 behind a script does not keep it. -/
theorem wrap_isPrefix_strikeBlocks_iff_script :
    "<script>".toList ≠ [] ∧ standsIn "<script>".toList "<script>x".toList = true ∧
      Utf8.byteLength "<script>x".toList % 3 = 0 ∧
      ¬ wrap "<script>x".toList <+:
        (strikeBlocks (fun hidden => pure (standsIn "<script>".toList hidden))
          (wrap "<script>x".toList ++ "cmlw\\n dD4= end".toList)).value := by
  have some_needle : "<script>".toList ≠ [] := List.cons_ne_nil _ _
  have found : standsIn "<script>".toList "<script>x".toList = true := by decide
  have complete : Utf8.byteLength "<script>x".toList % 3 = 0 := by decide
  have verdict :=
    wrap_isPrefix_strikeBlocks_iff some_needle found complete "cmlw\\n dD4= end".toList
  refine ⟨some_needle, found, complete, mt verdict.mp ?_⟩
  decide

/-- An escape in upper case keeps a script, and so does a marker that comes together behind
padding. -/
theorem wrap_isPrefix_strikeBlocks_upper_escape :
    "<sc".toList ≠ [] ∧ standsIn "<sc".toList "<sc".toList = true ∧
      Utf8.byteLength "<sc".toList % 3 = 0 ∧
      wrap "<sc".toList <+: (strikeBlocks (fun hidden => pure (standsIn "<sc".toList hidden))
        (wrap "<sc".toList ++ "\\NAAAA".toList)).value ∧
      wrap "<sc".toList <+: (strikeBlocks (fun hidden => pure (standsIn "<sc".toList hidden))
        (wrap "<sc".toList ++ "QQ==babase64,PHNjQQ==se64,PHNj".toList)).value := by
  decide

end

end Base64

end ScriptSanitizer
