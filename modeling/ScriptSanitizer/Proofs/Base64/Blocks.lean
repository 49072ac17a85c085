import ScriptSanitizer.Proofs.Text.Scan

/-!
# Striking inline blocks out

The blocks of a text stand in it as they are found, each at least seven characters long.  So what
is left when the blocks that hide an attack are struck out is the text itself if there are none,
and shorter by seven bytes at least if there are any.
-/

namespace ScriptSanitizer

namespace Base64

/-! ## Blocks stand in the text -/

theorem symbolsFrom_flatten (blanks text : Text) :
    (symbolsFrom blanks text).1.flatten ++ (symbolsFrom blanks text).2 = blanks ++ text := by
  fun_induction symbolsFrom blanks text with
  | case1 blanks rest ih => rw [ih, List.append_assoc, List.singleton_append]
  | case2 blanks letter rest escape ih =>
      rw [ih, List.append_assoc]
      rfl
  | case3 => rfl
  | case4 blanks character rest _ _ _ following ih =>
      simp only [List.flatten_cons, List.append_assoc]
      rw [ih]
      rfl
  | case5 => rfl
  | case6 => simp

theorem leadingPayload_isPrefix (text : Text) : leadingPayload text <+: text := by
  have parts := symbolsFrom_flatten [] text
  unfold leadingPayload
  generalize symbolsFrom [] text = found at parts ⊢
  obtain ⟨symbols, behind⟩ := found
  simp only [List.nil_append] at parts ⊢
  rw [← parts]
  split
  case h_1 tail _ => exact ⟨tail, by simp⟩
  case h_2 tail _ => exact ⟨tail, by simp⟩
  case h_3 behind _ _ _ _ =>
    refine ⟨(symbols.drop (symbols.length / 4 * 4)).flatten ++ behind, ?_⟩
    rw [← List.append_assoc, ← List.flatten_append, List.take_append_drop]

theorem leadingMarker?_eq_some {text marker : Text} (found : leadingMarker? text = some marker) :
    marker <+: text ∧ 7 ≤ marker.length := by
  simp only [leadingMarker?] at found
  split at found
  case isFalse => simp at found
  case isTrue word_read =>
    simp only [Bool.and_eq_true, decide_eq_true_eq] at word_read
    split at found
    case h_2 => simp at found
    case h_1 tail comma =>
      obtain rfl := Option.some.inj found
      constructor
      · have before_tail :
            ((text.drop 6).takeWhile isBlank) ++ ',' :: tail = text.drop 6 := by
          rw [← comma]
          exact List.prefix_iff_eq_append.mp (List.takeWhile_prefix isBlank)
        have whole : text.take 6 ++ ((text.drop 6).takeWhile isBlank ++ ',' :: tail) = text := by
          rw [before_tail, List.take_append_drop]
        have tail_split : tail.takeWhile isBlank ++ tail.dropWhile isBlank = tail :=
          List.takeWhile_append_dropWhile
        refine ⟨tail.dropWhile isBlank, ?_⟩
        calc
          _ = text.take 6 ++ ((text.drop 6).takeWhile isBlank ++
                ',' :: (tail.takeWhile isBlank ++ tail.dropWhile isBlank)) := by simp
          _ = text := by rw [tail_split, whole]
      · rw [List.length_append, List.length_append, List.length_cons, word_read.1]
        omega

/-- A block stands at the front of the text it is found in, and has at least the seven characters
of the word and the comma. -/
theorem leadingBlock?_eq_some {text : Text} {block : Block}
    (found : leadingBlock? text = some block) :
    block.text <+: text ∧ 7 ≤ block.text.length := by
  obtain ⟨marker, marker_found, rfl⟩ := Option.map_eq_some_iff.mp found
  obtain ⟨marker_front, marker_long⟩ := leadingMarker?_eq_some marker_found
  obtain ⟨tail, rfl⟩ := marker_front
  rw [List.drop_left]
  constructor
  · exact List.prefix_append_right_inj marker |>.mpr (leadingPayload_isPrefix tail)
  · simp only [Block.text, List.length_append]
    omega

/-- The stretch of text that a piece stands for. -/
def Piece.text : Piece → Text
  | plain character => [character]
  | block found => found.text

theorem text_step (front : Char) (rest : Text) :
    (step front rest).1.text = front :: rest.take (step front rest).2 := by
  unfold step
  split
  case h_1 block found =>
    obtain ⟨⟨tail, whole⟩, long⟩ := leadingBlock?_eq_some found
    have taken : (front :: rest).take block.text.length = block.text := by
      rw [← whole, List.take_left]
    obtain ⟨further, length⟩ := Nat.exists_eq_add_of_lt (show 0 < block.text.length by omega)
    rw [length, Nat.zero_add, List.take_succ_cons] at taken
    rw [show block.text.length - 1 = further by omega]
    exact taken.symm
  case h_2 => rfl

theorem flatMap_text_pieces (text : Text) : (pieces text).flatMap Piece.text = text :=
  Scan.flatMap_pieces text_step text

/-- Every block of a text is the one in front of what stands at some place of it. -/
theorem exists_leadingBlock?_of_mem_pieces {text : Text} {block : Block}
    (member : .block block ∈ pieces text) : ∃ stretch, leadingBlock? stretch = some block := by
  obtain ⟨front, rest, same⟩ := Scan.exists_step_of_mem_pieces member
  unfold step at same
  split at same
  case h_1 found =>
    obtain rfl := Piece.block.inj same
    exact ⟨front :: rest, found⟩
  case h_2 => simp at same

/-- The word and the comma of a block are not part of its payload. -/
theorem length_payload_of_mem_pieces {text : Text} {block : Block}
    (member : .block block ∈ pieces text) : block.payload.length + 7 ≤ block.text.length := by
  obtain ⟨stretch, found⟩ := exists_leadingBlock?_of_mem_pieces member
  obtain ⟨marker, marked, rfl⟩ := Option.map_eq_some_iff.mp found
  have long := (leadingMarker?_eq_some marked).2
  rw [Block.text, List.length_append, Nat.add_comm]
  exact Nat.add_le_add_right long _

theorem length_block_of_mem_pieces {text : Text} {block : Block}
    (member : .block block ∈ pieces text) : 7 ≤ block.text.length :=
  Nat.le_trans (Nat.le_add_left 7 _) (length_payload_of_mem_pieces member)

theorem length_block_le_of_mem_pieces {text : Text} {block : Block}
    (member : .block block ∈ pieces text) : block.text.length ≤ text.length := by
  obtain ⟨front, behind, split⟩ := List.append_of_mem member
  have whole := congrArg List.length (flatMap_text_pieces text)
  rw [split, List.flatMap_append, List.flatMap_cons, List.length_append, List.length_append,
    Piece.text] at whole
  omega

/-- Behind a block the scan goes on. -/
theorem pieces_append_of_leadingBlock? {block : Block} {behind : Text}
    (found : leadingBlock? (block.text ++ behind) = some block) :
    pieces (block.text ++ behind) = .block block :: pieces behind := by
  have long := (leadingBlock?_eq_some found).2
  obtain ⟨front, rest, whole⟩ :=
    List.exists_cons_of_length_pos (show 0 < block.text.length by omega)
  have width : block.text.length - 1 = rest.length := by
    rw [whole, List.length_cons, Nat.add_sub_cancel]
  rw [whole, List.cons_append] at found ⊢
  have stepped : step front (rest ++ behind) = (.block block, rest.length) := by
    rw [step, found]
    exact congrArg (Prod.mk (Piece.block block)) width
  rw [pieces, Scan.pieces_cons, stepped, List.drop_left]
  rfl

theorem mem_payloads {text payload : Text} :
    payload ∈ payloads text ↔ ∃ block, .block block ∈ pieces text ∧ block.payload = payload := by
  simp only [payloads, List.mem_filterMap]
  constructor
  · rintro ⟨piece, member, payload_eq⟩
    cases piece with
    | plain => simp at payload_eq
    | block block => exact ⟨block, member, Option.some.inj payload_eq⟩
  · rintro ⟨block, member, rfl⟩
    exact ⟨.block block, member, rfl⟩

/-- Every payload of a text is the one in front of what stands at some place of it. -/
theorem exists_leadingPayload_of_mem_payloads {text payload : Text}
    (member : payload ∈ payloads text) : ∃ stretch, leadingPayload stretch = payload := by
  obtain ⟨block, among, rfl⟩ := mem_payloads.mp member
  obtain ⟨stretch, found⟩ := exists_leadingBlock?_of_mem_pieces among
  obtain ⟨marker, _, rfl⟩ := Option.map_eq_some_iff.mp found
  exact ⟨stretch.drop marker.length, rfl⟩

/-! ## Blocks that hide an attack -/

/-- A payload decodes to a text that a judge finds to hide an attack. -/
def Hides (judge : Text → Prop) (payload : Text) : Prop :=
  ∃ hidden, decodePayload payload = .ok hidden ∧ judge hidden

/-- Some block of a text has a payload that hides an attack. -/
def HasHidingBlock (judge : Text → Prop) (text : Text) : Prop :=
  ∃ payload ∈ payloads text, Hides judge payload

/-- One text is hidden in another: the payload of a block in that one decodes to it. -/
def Carries (text hidden : Text) : Prop :=
  ∃ payload ∈ payloads text, decodePayload payload = .ok hidden

theorem strikeBlock_of_hides {judge : Text → Logged Bool} {block : Block}
    (hides : Hides (fun hidden => (judge hidden).value = true) block.payload) :
    (strikeBlock judge block).value = [] := by
  obtain ⟨hidden, decoded, judged⟩ := hides
  rw [strikeBlock, decoded]
  simp only [Logged.value_bind, judged, ↓reduceIte, Logged.value_pure]

theorem strikeBlock_of_not_hides {judge : Text → Logged Bool} {block : Block}
    (harmless : ¬ Hides (fun hidden => (judge hidden).value = true) block.payload) :
    (strikeBlock judge block).value = block.text := by
  unfold strikeBlock
  split
  case h_1 => simp
  case h_2 hidden decoded =>
    have judged : (judge hidden).value = false := by
      cases verdict : (judge hidden).value with
      | false => rfl
      | true => exact absurd ⟨hidden, decoded, verdict⟩ harmless
    simp [judged]

/-- What is left of a piece. -/
def Piece.left (judge : Text → Logged Bool) : Piece → Text
  | plain character => [character]
  | block found => (strikeBlock judge found).value

theorem strikePieces_eq_flatMap (judge : Text → Logged Bool) (list : List Piece) :
    (strikePieces judge list).value = list.flatMap (Piece.left judge) := by
  induction list with
  | nil => rfl
  | cons piece list ih =>
      cases piece with
      | plain character => simp [strikePieces, Piece.left, ih]
      | block block => simp [strikePieces, Piece.left, ih]

/-- Only the verdicts of the judge matter, not what it reports. -/
theorem strikeBlocks_congr {judge other : Text → Logged Bool}
    (same : ∀ hidden, (judge hidden).value = (other hidden).value) (text : Text) :
    (strikeBlocks judge text).value = (strikeBlocks other text).value := by
  have block (found : Block) :
      (strikeBlock judge found).value = (strikeBlock other found).value := by
    unfold strikeBlock
    split
    case h_1 => rfl
    case h_2 hidden _ => simp only [Logged.value_bind, same hidden]
  have left : Piece.left judge = Piece.left other := by
    funext piece
    cases piece with
    | plain => rfl
    | block found => exact block found
  rw [strikeBlocks, strikeBlocks, strikePieces_eq_flatMap, strikePieces_eq_flatMap, left]

theorem strikeBlocks_eq_self {judge : Text → Logged Bool} {text : Text}
    (harmless : ¬ HasHidingBlock (fun hidden => (judge hidden).value = true) text) :
    (strikeBlocks judge text).value = text := by
  have each : ∀ piece ∈ pieces text, piece.left judge = piece.text := by
    intro piece member
    cases piece with
    | plain => rfl
    | block block =>
        refine strikeBlock_of_not_hides fun hides => harmless ?_
        exact ⟨block.payload, mem_payloads.mpr ⟨block, member, rfl⟩, hides⟩
  calc
    (strikeBlocks judge text).value = (pieces text).flatMap (Piece.left judge) :=
      strikePieces_eq_flatMap judge _
    _ = (pieces text).flatMap Piece.text := by
      rw [List.flatMap_def, List.flatMap_def, List.map_congr_left each]
    _ = text := flatMap_text_pieces text

theorem left_sublist (judge : Text → Logged Bool) (piece : Piece) :
    (piece.left judge).Sublist piece.text := by
  cases piece with
  | plain => exact List.Sublist.refl _
  | block block =>
      by_cases hides : Hides (fun hidden => (judge hidden).value = true) block.payload
      · rw [Piece.left, strikeBlock_of_hides hides]
        exact List.nil_sublist _
      · rw [Piece.left, strikeBlock_of_not_hides hides]
        exact List.Sublist.refl _

theorem flatMap_left_sublist (judge : Text → Logged Bool) (list : List Piece) :
    (list.flatMap (Piece.left judge)).Sublist (list.flatMap Piece.text) := by
  induction list with
  | nil => exact List.Sublist.refl _
  | cons piece list ih =>
      rw [List.flatMap_cons, List.flatMap_cons]
      exact (left_sublist judge piece).append ih

theorem strikeBlocks_sublist (judge : Text → Logged Bool) (text : Text) :
    (strikeBlocks judge text).value.Sublist text := by
  have left := flatMap_left_sublist judge (pieces text)
  rwa [← strikePieces_eq_flatMap, flatMap_text_pieces] at left

theorem strikeBlocks_shorter {judge : Text → Logged Bool} {text : Text}
    (hides : HasHidingBlock (fun hidden => (judge hidden).value = true) text) :
    Utf8.byteLength (strikeBlocks judge text).value + 7 ≤ Utf8.byteLength text := by
  obtain ⟨payload, found, hides⟩ := hides
  obtain ⟨block, member, rfl⟩ := mem_payloads.mp found
  have block_long := length_block_of_mem_pieces member
  obtain ⟨front, behind, split⟩ := List.append_of_mem member
  have front_bound := Utf8.byteLength_le_of_sublist (flatMap_left_sublist judge front)
  have behind_bound := Utf8.byteLength_le_of_sublist (flatMap_left_sublist judge behind)
  have block_bytes := Utf8.length_le_byteLength block.text
  have whole := congrArg Utf8.byteLength (flatMap_text_pieces text)
  have left := congrArg Utf8.byteLength (strikePieces_eq_flatMap judge (pieces text))
  rw [split, List.flatMap_append, List.flatMap_cons, Utf8.byteLength_append,
    Utf8.byteLength_append] at whole left
  rw [Piece.left, strikeBlock_of_hides hides, Utf8.byteLength_nil] at left
  rw [Piece.text] at whole
  rw [strikeBlocks, split]
  omega

end Base64

end ScriptSanitizer
